import Mathlib.Data.List.Nodup
import WrapperGen.Proofs.LoadedTables
import WrapperGen.Proofs.Playing
import WrapperGen.Round

/-!
# The course of a round

A round gets to the models that are ready one after the other, and each of them meets a fate: it was
handled before, it gets no wrapper, or its file is stored. The round breaks off at the first file
that cannot be stored. `course` is a round with its fates written down; what the round itself
returns can be read off its course (`runRound_eq`).

`Passes` says what the fates mean: on which machine each of them was met, from the call of the round
to its end, and what had to be the case for it. Within a round the names of the models are distinct,
so all that counts is what was handled when the round began (`Passes.meets_first`).
-/

namespace WrapperGen

/-! ## Names of models -/

namespace SymbolSource

variable {s : SymbolSource}

/-- Every declaration has one handle. -/
theorem nodup_handles (s : SymbolSource) : s.handles.Nodup :=
  List.Nodup.map (fun _ _ h => congrArg DeclarationId.index h) List.nodup_range

/-- A declaration that is visible, can be a model, and carries the marker of models. -/
structure IsModel (s : SymbolSource) (markers : Markers) (id : DeclarationId) : Prop where
  marked : s.isMarked (.declaration id) markers.config = true
  visible : ∃ info, s.declaration? id = some info ∧ info.kind.isClassLike = true

/-- What is known about a declaration stands in its entry. -/
theorem entry?_of_declaration? {id : DeclarationId} {info : DeclarationInfo}
    (h : s.declaration? id = some info) :
    ∃ entry, s.entry? id = some entry ∧ entry.info = info := by
  unfold declaration? at h
  split at h
  · exact absurd h (by simp)
  · exact Option.map_eq_some_iff.mp h

theorem mem_handles_of_entry? {id : DeclarationId} {entry : DeclarationEntry}
    (h : s.entry? id = some entry) :
    id ∈ s.handles := by
  obtain ⟨hlt, _⟩ := List.getElem?_eq_some_iff.mp h
  exact List.mem_map.mpr ⟨id.index, List.mem_range.mpr hlt, rfl⟩

/-- Two visible declarations of the same name are the same. -/
theorem eq_of_nameOf_eq {id id' : DeclarationId} {info info' : DeclarationInfo}
    (h : s.declaration? id = some info) (h' : s.declaration? id' = some info')
    (heq : s.nameOf id = s.nameOf id') :
    id = id' := by
  obtain ⟨entry, hentry, rfl⟩ := entry?_of_declaration? h
  obtain ⟨entry', hentry', rfl⟩ := entry?_of_declaration? h'
  simp only [nameOf, h, h'] at heq
  exact eq_of_canonical_eq hentry hentry' heq

/-- A model is known by its name. -/
theorem IsModel.eq_of_nameOf_eq {markers : Markers} {id id' : DeclarationId}
    (h : s.IsModel markers id) (h' : s.IsModel markers id') (heq : s.nameOf id = s.nameOf id') :
    id = id' := by
  obtain ⟨_, hinfo, _⟩ := h.visible
  obtain ⟨_, hinfo', _⟩ := h'.visible
  exact SymbolSource.eq_of_nameOf_eq hinfo hinfo' heq

end SymbolSource

theorem mem_models {s : SymbolSource} {markers : Markers} {id : DeclarationId} :
    id ∈ models s markers ↔ s.IsModel markers id := by
  simp only [models, SymbolSource.marked, List.mem_filter]
  constructor
  · rintro ⟨⟨_, hmarked⟩, hclass⟩
    refine ⟨hmarked, ?_⟩
    cases hinfo : s.declaration? id with
    | none => simp [hinfo] at hclass
    | some info => exact ⟨info, rfl, by simpa [hinfo] using hclass⟩
  · rintro ⟨hmarked, info, hinfo, hclass⟩
    obtain ⟨entry, hentry, _⟩ := SymbolSource.entry?_of_declaration? hinfo
    exact ⟨⟨SymbolSource.mem_handles_of_entry? hentry, hmarked⟩, by simpa [hinfo] using hclass⟩

theorem mem_ready {s : SymbolSource} {markers : Markers} {id : DeclarationId} :
    id ∈ (scan s markers).ready ↔ s.IsModel markers id ∧ s.isReady markers.nest id = true := by
  rw [scan, List.mem_filter, mem_models]

theorem mem_deferred {s : SymbolSource} {markers : Markers} {id : DeclarationId} :
    id ∈ (scan s markers).deferred ↔ s.IsModel markers id ∧ s.isReady markers.nest id = false := by
  simp only [scan, List.mem_filter, mem_models, Bool.not_eq_true']

theorem ready_sublist (s : SymbolSource) (markers : Markers) :
    (scan s markers).ready.Sublist (s.marked markers.config) :=
  List.filter_sublist.trans List.filter_sublist

theorem deferred_sublist (s : SymbolSource) (markers : Markers) :
    (scan s markers).deferred.Sublist (s.marked markers.config) :=
  List.filter_sublist.trans List.filter_sublist

/-- **No two models that are ready have the same name.** -/
theorem nodup_ready_names (s : SymbolSource) (markers : Markers) :
    ((scan s markers).ready.map s.nameOf).Nodup := by
  have hready : (scan s markers).ready.Nodup :=
    ((ready_sublist s markers).trans List.filter_sublist).nodup s.nodup_handles
  exact hready.map_on fun id hid id' hid' heq =>
    (mem_ready.mp hid).1.eq_of_nameOf_eq (mem_ready.mp hid').1 heq

/-! ## Fates -/

/-- What becomes of a ready model that a round gets to. -/
inductive Fate where
  /-- It was handled before. -/
  | known
  /-- It gets no wrapper. -/
  | refused (why : Diagnostic)
  /-- Its file is stored; the diagnostics are those of generating it. -/
  | stored (file : WrittenFile) (found : List Diagnostic)

namespace Fate

/-- What a fate adds to the diagnostics of a round. -/
def diagnostics : Fate → List Diagnostic
  | known => []
  | refused why => [why]
  | stored _ found => found

/-- The stored file. -/
def file? : Fate → Option WrittenFile
  | stored file _ => some file
  | _ => none

/-- Whether the model is refused. -/
def isRefused : Fate → Bool
  | refused _ => true
  | _ => false

/-- Whether the model is handled now. -/
def isNew : Fate → Bool
  | known => false
  | _ => true

end Fate

/-- The course of a round: the fates of the models it got to, and the model
at which it broke off. -/
structure Course where
  fates : List (DeclarationId × Fate) := []
  failure : Option (DeclarationId × IoError) := none

namespace Course

/-- The models that were handled, in order. -/
def taken (c : Course) : List DeclarationId := (c.fates.filter (·.2.isNew)).map Prod.fst

/-- The models whose files were stored, with the files, in order. -/
def stored (c : Course) : List (DeclarationId × WrittenFile) :=
  c.fates.filterMap fun x => x.2.file?.map (Prod.mk x.1)

/-- The models that get no wrapper, in order. -/
def refused (c : Course) : List DeclarationId := (c.fates.filter (·.2.isRefused)).map Prod.fst

/-- What the round reports about the models it got to. -/
def diagnostics (c : Course) : List Diagnostic := c.fates.flatMap (·.2.diagnostics)

/-- What a round returns that found `outcome` before it got to the first model. -/
def result (c : Course) (outcome : RoundOutcome) : Except IoError RoundOutcome :=
  match c.failure with
  | some (_, e) => .error e
  | none => .ok {
      written := outcome.written ++ c.stored.map Prod.snd
      deferred := outcome.deferred
      diagnostics := outcome.diagnostics ++ c.diagnostics }

/-- The course with one more model in front. -/
def after (c : Course) (id : DeclarationId) (fate : Fate) : Course :=
  { c with fates := (id, fate) :: c.fates }

theorem taken_after (c : Course) (id : DeclarationId) (fate : Fate) :
    (c.after id fate).taken = (if fate.isNew then [id] else []) ++ c.taken := by
  cases fate <;> rfl

theorem stored_after (c : Course) (id : DeclarationId) (fate : Fate) :
    (c.after id fate).stored = (fate.file?.map (Prod.mk id)).toList ++ c.stored := by
  cases fate <;> rfl

theorem diagnostics_after (c : Course) (id : DeclarationId) (fate : Fate) :
    (c.after id fate).diagnostics = fate.diagnostics ++ c.diagnostics :=
  List.flatMap_cons

theorem mem_stored {c : Course} {id : DeclarationId} {file : WrittenFile} :
    (id, file) ∈ c.stored ↔ ∃ found, (id, .stored file found) ∈ c.fates := by
  rw [stored, List.mem_filterMap]
  constructor
  · rintro ⟨⟨id', fate⟩, hmem, heq⟩
    cases fate with
    | known => exact absurd heq (by simp [Fate.file?])
    | refused why => exact absurd heq (by simp [Fate.file?])
    | stored file' found =>
        simp only [Fate.file?, Option.map_some, Option.some.injEq, Prod.mk.injEq] at heq
        obtain ⟨rfl, rfl⟩ := heq
        exact ⟨found, hmem⟩
  · exact fun ⟨found, hmem⟩ => ⟨_, hmem, rfl⟩

theorem mem_refused {c : Course} {id : DeclarationId} :
    id ∈ c.refused ↔ ∃ why, (id, .refused why) ∈ c.fates := by
  simp only [refused, List.mem_map, List.mem_filter]
  constructor
  · rintro ⟨⟨id', fate⟩, ⟨hmem, hrefused⟩, rfl⟩
    cases fate with
    | known => exact absurd hrefused (by simp [Fate.isRefused])
    | refused why => exact ⟨why, hmem⟩
    | stored file found => exact absurd hrefused (by simp [Fate.isRefused])
  · exact fun ⟨why, hmem⟩ => ⟨_, ⟨hmem, rfl⟩, rfl⟩

/-- The models that were handled were refused or stored. -/
theorem mem_taken {c : Course} {id : DeclarationId} :
    id ∈ c.taken ↔ id ∈ c.refused ∨ id ∈ c.stored.map Prod.fst := by
  rw [mem_refused, List.mem_map]
  simp only [taken, List.mem_map, List.mem_filter]
  constructor
  · rintro ⟨⟨id', fate⟩, ⟨hmem, hnew⟩, rfl⟩
    cases fate with
    | known => exact absurd hnew (by simp [Fate.isNew])
    | refused why => exact Or.inl ⟨why, hmem⟩
    | stored file found => exact Or.inr ⟨(id', file), mem_stored.mpr ⟨found, hmem⟩, rfl⟩
  · rintro (⟨why, hmem⟩ | ⟨⟨id', file⟩, hmem, rfl⟩)
    · exact ⟨_, ⟨hmem, rfl⟩, rfl⟩
    · obtain ⟨found, hmem⟩ := mem_stored.mp hmem
      exact ⟨_, ⟨hmem, rfl⟩, rfl⟩

theorem taken_sublist (c : Course) : c.taken.Sublist (c.fates.map Prod.fst) :=
  List.filter_sublist.map _

theorem stored_sublist (c : Course) : (c.stored.map Prod.fst).Sublist (c.fates.map Prod.fst) := by
  have hids : c.stored.map Prod.fst = (c.fates.filter (·.2.file?.isSome)).map Prod.fst := by
    rw [stored, List.map_filterMap, ← List.filterMap_eq_map, List.filterMap_filter]
    refine List.filterMap_congr fun x _ => ?_
    cases x.2 <;> rfl
  rw [hids]
  exact List.filter_sublist.map _

/-- A fate in front adds its diagnostics and its file to what is returned. -/
theorem result_after (c : Course) (id : DeclarationId) (fate : Fate) (o : RoundOutcome) :
    (c.after id fate).result o
      = c.result { o with
          written := o.written ++ fate.file?.toList,
          diagnostics := o.diagnostics ++ fate.diagnostics } := by
  unfold result
  rw [stored_after, diagnostics_after]
  cases hc : c.failure with
  | some x => simp [after, hc]
  | none => cases fate <;> simp [after, hc, Fate.file?, Fate.diagnostics]

end Course

namespace Processor

/-- The processor once several models are handled. -/
def handleAll (p : Processor) (names : List String) : Processor :=
  { p with handled := p.handled ++ names }

@[simp] theorem handleAll_handled (p : Processor) (names : List String) :
    (p.handleAll names).handled = p.handled ++ names := rfl

@[simp] theorem handleAll_options (p : Processor) (names : List String) :
    (p.handleAll names).options = p.options := rfl

@[simp] theorem handleAll_roots (p : Processor) (names : List String) :
    (p.handleAll names).roots = p.roots := rfl

theorem handleAll_nil (p : Processor) : p.handleAll [] = p := by simp [handleAll]

theorem handleAll_append (p : Processor) (names more : List String) :
    (p.handleAll names).handleAll more = p.handleAll (names ++ more) := by simp [handleAll]

/-- The processor once a model has met its fate. -/
def settle (p : Processor) (s : SymbolSource) (id : DeclarationId) (fate : Fate) : Processor :=
  p.handleAll (if fate.isNew then [s.nameOf id] else [])

/-- The events of generating a model. -/
def generationEvents (p : Processor) (s : SymbolSource) (model : ConfigModel) : List Event :=
  (generate s model p.options).events model
    ++ (generate s model p.options).diagnostics.map Diagnostic.event

/-! ## The course as a script -/

/-- Gets to a model that is ready. -/
def takeUp (p : Processor) (s : SymbolSource) (id : DeclarationId) : Script (Except IoError Fate) :=
  if s.nameOf id ∈ p.handled then do
    Script.log (handledEvent (s.nameOf id))
    return .ok .known
  else
    match buildModel s id p.options.markers with
    | .error d => do
      Script.log d.event
      return .ok (.refused d)
    | .ok model => do
      Script.logAll (p.generationEvents s model)
      match ← p.roots.store (generate s model p.options).file with
      | .error e => return .error e
      | .ok file => return .ok (.stored file (generate s model p.options).diagnostics)

/-- Gets to models one after the other, up to the first whose file cannot be stored. -/
def course (s : SymbolSource) : List DeclarationId → Processor → Script Course
  | [], _ => pure {}
  | id :: ids, p => do
    match ← p.takeUp s id with
    | .error e => return { failure := some (id, e) }
    | .ok fate =>
      let c ← course s ids (p.settle s id fate)
      return c.after id fate

/-- The processor at the end of a course. -/
def afterCourse (p : Processor) (s : SymbolSource) (c : Course) : Processor :=
  p.handleAll (c.taken.map s.nameOf)

theorem afterCourse_after (p : Processor) (s : SymbolSource) (c : Course) (id : DeclarationId)
    (fate : Fate) :
    p.afterCourse s (c.after id fate) = (p.settle s id fate).afterCourse s c := by
  rw [afterCourse, afterCourse, settle, handleAll_append, Course.taken_after]
  cases fate <;> rfl

theorem logAll_append (xs ys : List Event) :
    Script.logAll (xs ++ ys) = Script.logAll xs >>= fun _ => Script.logAll ys := by
  induction xs with
  | nil => rfl
  | cons x xs ih => exact congrArg (Script.note x) ih

theorem generateAll_eq (s : SymbolSource) (ids : List DeclarationId) (p : Processor)
    (o : RoundOutcome) :
    generateAll s ids p o = course s ids p >>= fun c => pure (c.result o, p.afterCourse s c) := by
  induction ids generalizing p o with
  | nil =>
      rw [generateAll, course, pure_bind]
      simp [Course.result, afterCourse, Course.taken, Course.stored, Course.diagnostics,
        handleAll_nil]
  | cons id ids ih =>
      -- the induction hypothesis, for what is left of the loop behind any fate of the first model
      have hrest : ∀ fate : Fate,
          (course s ids (p.settle s id fate) >>= fun c => pure (c.after id fate)) >>=
              (fun c => pure (c.result o, p.afterCourse s c))
            = generateAll s ids (p.settle s id fate) { o with
                written := o.written ++ fate.file?.toList,
                diagnostics := o.diagnostics ++ fate.diagnostics } := by
        intro fate
        rw [ih, bind_assoc]
        simp only [pure_bind, Course.result_after, afterCourse_after]
      rw [generateAll, course, bind_assoc, takeUp]
      dsimp only
      by_cases hknown : s.nameOf id ∈ p.handled
      · rw [if_pos hknown, if_pos hknown, bind_assoc]
        simp only [pure_bind, hrest]
        simp [settle, Fate.isNew, Fate.file?, Fate.diagnostics, handleAll_nil]
      · rw [if_neg hknown, if_neg hknown]
        cases hmodel : buildModel s id p.options.markers with
        | error d =>
            simp only [bind_assoc, pure_bind, hrest]
            simp [settle, Fate.isNew, Fate.file?, Fate.diagnostics, handleAll, handle,
              RoundOutcome.report]
        | ok model =>
            simp only [generationEvents, logAll_append, bind_assoc]
            refine bind_congr fun _ => bind_congr fun _ => bind_congr fun answer => ?_
            cases answer with
            | error e =>
                simp [Course.result, afterCourse, Course.taken, handleAll_nil]
            | ok file =>
                simp only [pure_bind, hrest]
                simp [settle, Fate.isNew, Fate.file?, Fate.diagnostics, handleAll, handle]

/-- The models that a round over a source gets to. -/
def ready (p : Processor) (s : SymbolSource) : List DeclarationId :=
  (scan s p.options.markers).ready

/-- What a round has found before it gets to the first model. -/
def found (p : Processor) (s : SymbolSource) : RoundOutcome :=
  deferAll s (scan s p.options.markers).deferred

/-- The events of a round before it gets to the first model. -/
def openingEvents (p : Processor) (s : SymbolSource) : List Event :=
  scanEvents s p.options.markers ++ (p.found s).diagnostics.map Diagnostic.event

/-- **What a round returns is read off its course.** -/
theorem runRound_eq (p : Processor) (s : SymbolSource) :
    p.runRound s = Script.logAll (p.openingEvents s) >>= fun _ =>
      course s (p.ready s) p >>= fun c => pure (c.result (p.found s), p.afterCourse s c) := by
  simp only [runRound, openingEvents, logAll_append, bind_assoc, generateAll_eq]
  rfl

/-! ## What the fates mean -/

/-- On the machine `m` a model meets a fate, and the round goes on with the machine `m'`. -/
inductive Meets (s : SymbolSource) (p : Processor) (id : DeclarationId) (m : Machine) :
    Fate → Machine → Prop where
  | known {events : List Event} : s.nameOf id ∈ p.handled → Meets s p id m .known (m.noted events)
  | refused {why : Diagnostic} {events : List Event} :
      s.nameOf id ∉ p.handled → buildModel s id p.options.markers = .error why →
      Meets s p id m (.refused why) (m.noted events)
  | stored {model : ConfigModel} {file : WrittenFile} {events : List Event} {m' : Machine} :
      s.nameOf id ∉ p.handled → buildModel s id p.options.markers = .ok model →
      (p.roots.store (generate s model p.options).file).play (m.noted events) = (.ok file, m') →
      Meets s p id m (.stored file (generate s model p.options).diagnostics) m'

/-- On the machine `m` the file of a model cannot be stored, and the round ends
with the machine `m'`. -/
inductive BreaksOff (s : SymbolSource) (p : Processor) (id : DeclarationId)
    (m : Machine) (e : IoError) (m' : Machine) : Prop where
  | failed {model : ConfigModel} {events : List Event} :
      s.nameOf id ∉ p.handled → buildModel s id p.options.markers = .ok model →
      (p.roots.store (generate s model p.options).file).play (m.noted events) = (.error e, m') →
      BreaksOff s p id m e m'

/-- One after the other, models meet their fates, from the machine `m` to the machine `m'`. -/
inductive Passes (s : SymbolSource) :
    Processor → Machine → List (DeclarationId × Fate) → Machine → Prop where
  | nil {p : Processor} {m : Machine} : Passes s p m [] m
  | cons {p : Processor} {m m₁ m' : Machine} {id : DeclarationId} {fate : Fate}
      {fates : List (DeclarationId × Fate)} :
      Meets s p id m fate m₁ → Passes s (p.settle s id fate) m₁ fates m' →
      Passes s p m ((id, fate) :: fates) m'

theorem play_takeUp (s : SymbolSource) (p : Processor) (id : DeclarationId) (m : Machine) :
    (∃ fate, ((p.takeUp s id).play m).1 = .ok fate ∧ Meets s p id m fate ((p.takeUp s id).play m).2)
      ∨ ∃ e, ((p.takeUp s id).play m).1 = .error e
        ∧ BreaksOff s p id m e ((p.takeUp s id).play m).2 := by
  unfold takeUp
  by_cases hknown : s.nameOf id ∈ p.handled
  · rw [if_pos hknown]
    exact Or.inl ⟨_, rfl, .known hknown⟩
  · rw [if_neg hknown]
    cases hmodel : buildModel s id p.options.markers with
    | error d => exact Or.inl ⟨_, rfl, .refused hknown hmodel⟩
    | ok model =>
        simp only [Script.play_bind, Script.play_logAll]
        rcases hstore : (p.roots.store (generate s model p.options).file).play
          (m.noted (p.generationEvents s model)) with ⟨answer, m'⟩
        cases answer with
        | error e => exact Or.inr ⟨e, rfl, .failed hknown hmodel hstore⟩
        | ok file => exact Or.inl ⟨_, rfl, .stored hknown hmodel hstore⟩

/-- How a course over `ids` came about on the machine `m`, where it ended with the machine `m'`. -/
inductive Runs (s : SymbolSource) (p : Processor) (m : Machine)
    (ids : List DeclarationId) (c : Course) (m' : Machine) : Prop where
  | complete :
      c.failure = none → c.fates.map Prod.fst = ids → Passes s p m c.fates m' → Runs s p m ids c m'
  | broken {id : DeclarationId} {e : IoError} {rest : List DeclarationId} {m₁ : Machine} :
      c.failure = some (id, e) → ids = c.fates.map Prod.fst ++ id :: rest →
      Passes s p m c.fates m₁ →
      BreaksOff s (p.afterCourse s c) id m₁ e m' → Runs s p m ids c m'

theorem runs_course (s : SymbolSource) (ids : List DeclarationId) (p : Processor) (m : Machine) :
    Runs s p m ids ((course s ids p).play m).1 ((course s ids p).play m).2 := by
  induction ids generalizing p m with
  | nil => exact .complete rfl rfl .nil
  | cons id ids ih =>
      rw [course, Script.play_bind]
      rcases play_takeUp s p id m with ⟨fate, hanswer, hmeets⟩ | ⟨e, hanswer, hbreaks⟩
      · rw [hanswer]
        simp only [Script.play_bind, Script.play_pure]
        cases ih (p.settle s id fate) ((p.takeUp s id).play m).2 with
        | complete hnone hids hpasses =>
            exact .complete hnone (congrArg (id :: ·) hids) (.cons hmeets hpasses)
        | broken hsome hids hpasses hbreaks =>
            refine .broken hsome (congrArg (id :: ·) hids) (.cons hmeets hpasses) ?_
            rw [afterCourse_after]
            exact hbreaks
      · rw [hanswer]
        simp only [Script.play_pure]
        refine .broken rfl rfl .nil ?_
        rw [afterCourse, Course.taken, List.filter_nil, List.map_nil, List.map_nil, handleAll_nil]
        exact hbreaks

/-! ## The first processor decides -/

theorem meets_handleAll {s : SymbolSource} {p : Processor} {id : DeclarationId}
    {m m' : Machine} {fate : Fate} {names : List String} (hnew : s.nameOf id ∉ names)
    (h : Meets s (p.handleAll names) id m fate m') :
    Meets s p id m fate m' := by
  cases h with
  | known hknown => exact .known ((List.mem_append.mp hknown).resolve_right hnew)
  | refused hknown hmodel => exact .refused (fun h => hknown (List.mem_append_left _ h)) hmodel
  | stored hknown hmodel hstore =>
      exact .stored (fun h => hknown (List.mem_append_left _ h)) hmodel hstore

/-- **Where names are distinct, every model meets its fate as if it came first.** -/
theorem Passes.meets_first {s : SymbolSource} {p : Processor} {m m' : Machine}
    {fates : List (DeclarationId × Fate)} (h : Passes s p m fates m')
    (hnames : ((fates.map Prod.fst).map s.nameOf).Nodup) :
    ∀ x ∈ fates, ∃ m₁ m₂, Meets s p x.1 m₁ x.2 m₂ := by
  induction h with
  | nil => exact fun x hx => absurd hx List.not_mem_nil
  | @cons p m m₁ m' id fate fates hmeets _ ih =>
      obtain ⟨hfresh, hrest⟩ := List.nodup_cons.mp hnames
      refine List.forall_mem_cons.mpr ⟨⟨m, m₁, hmeets⟩, fun x hx => ?_⟩
      obtain ⟨m₂, m₃, hx'⟩ := ih hrest x hx
      refine ⟨m₂, m₃, meets_handleAll ?_ hx'⟩
      -- the name that was handled meanwhile is another
      have hname : s.nameOf x.1 ∈ (fates.map Prod.fst).map s.nameOf :=
        List.mem_map_of_mem (List.mem_map_of_mem hx)
      split
      · rw [List.mem_singleton]
        exact fun heq => hfresh (heq ▸ hname)
      · exact List.not_mem_nil

end Processor

end WrapperGen
