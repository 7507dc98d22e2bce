import WrapperGen.Proofs.Problems
import WrapperGen.Proofs.RoundCourse

/-!
# What rounds account for

A processor is called for one round after the other, each time for a source of its own and on a
machine of its own: types get resolved between two rounds, and files are changed by others.
Every round accounts for each model that is marked in its source. What it says about a model
depends on the earlier rounds only through the names that were handled in them, and those are
the names of the models that were refused or stored. So no model is stored a second time,
whatever happens in between.
-/

namespace WrapperGen

/-- Exactly one of three things is the case. -/
def ExactlyOne (a b c : Prop) : Prop := (a ∧ ¬b ∧ ¬c) ∨ (¬a ∧ b ∧ ¬c) ∨ (¬a ∧ ¬b ∧ c)

namespace SymbolSource

/-- A list of the declarations with a property, in the order in which those
marked as models are found. -/
structure ListsMarked (s : SymbolSource) (markers : Markers) (P : DeclarationId → Prop)
    (ids : List DeclarationId) : Prop where
  inOrder : ids.Sublist (s.marked markers.config)
  mem : ∀ id, id ∈ ids ↔ P id

end SymbolSource

/-! ## Rounds of a run -/

/-- A call for a round: what is known about the program, and the machine that the files are on. -/
structure RoundCall where
  source : SymbolSource
  machine : Machine

/-- A round that was run, with the processor as it was when the round began. -/
structure PlayedRound where
  before : Processor
  source : SymbolSource
  machine : Machine

namespace PlayedRound

/-- Runs the round. -/
def run (r : PlayedRound) : (Except IoError RoundOutcome × Processor) × Machine :=
  (r.before.runRound r.source).play r.machine

/-- What the round returned. -/
def result (r : PlayedRound) : Except IoError RoundOutcome := r.run.1.1

/-- The processor after the round. -/
def after (r : PlayedRound) : Processor := r.run.1.2

/-- The machine when the round gets to the first model. -/
def opened (r : PlayedRound) : Machine := r.machine.noted (r.before.openingEvents r.source)

/-- The course of the round. -/
def course (r : PlayedRound) : Course :=
  ((Processor.course r.source (r.before.ready r.source) r.before).play r.opened).1

/-- The models whose files were stored, with the files, in order. -/
def stored (r : PlayedRound) : List (DeclarationId × WrittenFile) := r.course.stored

/-- The names of the models whose files were stored. -/
def storedNames (r : PlayedRound) : List String := r.stored.map fun x => r.source.nameOf x.1

/-- The names of the models that were refused. -/
def refusedNames (r : PlayedRound) : List String := r.course.refused.map r.source.nameOf

/-- Whether the name of a model was handled before the round. -/
def Knew (r : PlayedRound) (id : DeclarationId) : Prop := r.source.nameOf id ∈ r.before.handled

/-- Whether a model was gotten to and refused. -/
def Refused (r : PlayedRound) (id : DeclarationId) : Prop := id ∈ r.course.refused

/-- Whether the file of a model was stored. -/
def Stored (r : PlayedRound) (id : DeclarationId) : Prop := id ∈ r.stored.map Prod.fst

/-- A model of the source that is ready. -/
structure IsReady (r : PlayedRound) (id : DeclarationId) : Prop where
  model : r.source.IsModel r.before.options.markers id
  resolved : r.source.isReady r.before.options.markers.nest id = true

theorem mem_ready {r : PlayedRound} {id : DeclarationId} :
    id ∈ r.before.ready r.source ↔ r.IsReady id :=
  WrapperGen.mem_ready.trans ⟨fun h => ⟨h.1, h.2⟩, fun h => ⟨h.1, h.2⟩⟩

theorem run_eq (r : PlayedRound) :
    r.run.1 = (r.course.result (r.before.found r.source),
      r.before.afterCourse r.source r.course) := by
  rw [run, Processor.runRound_eq]
  simp only [Script.play_bind, Script.play_logAll, Script.play_pure]
  rfl

theorem result_eq (r : PlayedRound) : r.result = r.course.result (r.before.found r.source) :=
  congrArg Prod.fst r.run_eq

theorem after_eq (r : PlayedRound) : r.after = r.before.afterCourse r.source r.course :=
  congrArg Prod.snd r.run_eq

/-- How the round went, to the machine as it was in the end. -/
theorem runs (r : PlayedRound) :
    Processor.Runs r.source r.before r.opened (r.before.ready r.source) r.course r.run.2 := by
  have hend : r.run.2
      = ((Processor.course r.source (r.before.ready r.source) r.before).play r.opened).2 := by
    rw [run, Processor.runRound_eq]
    simp only [Script.play_bind, Script.play_logAll, Script.play_pure]
    rfl
  rw [hend]
  exact Processor.runs_course _ _ _ _

end PlayedRound

/-- The rounds of a run, one for each call. -/
def Processor.rounds (p : Processor) : List RoundCall → List PlayedRound
  | [] => []
  | call :: calls =>
    let r : PlayedRound := ⟨p, call.source, call.machine⟩
    r :: r.after.rounds calls

/-! ## The models that a round gets to -/

namespace PlayedRound

variable {r : PlayedRound}

theorem fates_prefix (r : PlayedRound) :
    r.course.fates.map Prod.fst <+: r.before.ready r.source := by
  cases r.runs with
  | complete _ hids _ => exact hids ▸ List.prefix_refl _
  | broken _ hids _ _ => exact ⟨_, hids.symm⟩

theorem isReady_of_fate {x : DeclarationId × Fate} (hx : x ∈ r.course.fates) : r.IsReady x.1 :=
  mem_ready.mp (r.fates_prefix.subset (List.mem_map_of_mem hx))

theorem nodup_fate_names (r : PlayedRound) :
    ((r.course.fates.map Prod.fst).map r.source.nameOf).Nodup :=
  (nodup_ready_names r.source r.before.options.markers).sublist (r.fates_prefix.sublist.map _)

/-- A model that was gotten to has met its fate with the processor as it
was when the round began. -/
theorem meets {x : DeclarationId × Fate} (hx : x ∈ r.course.fates) :
    ∃ m m', r.before.Meets r.source x.1 m x.2 m' := by
  have hpasses : ∃ m', r.before.Passes r.source r.opened r.course.fates m' := by
    cases r.runs with
    | complete _ _ hpasses => exact ⟨_, hpasses⟩
    | broken _ _ hpasses _ => exact ⟨_, hpasses⟩
  obtain ⟨m', hpasses⟩ := hpasses
  exact hpasses.meets_first r.nodup_fate_names x hx

theorem fate_unique {id : DeclarationId} {fate fate' : Fate} (h : (id, fate) ∈ r.course.fates)
    (h' : (id, fate') ∈ r.course.fates) : fate = fate' := by
  have hnames := r.nodup_fate_names
  rw [List.map_map] at hnames
  exact congrArg Prod.snd (List.inj_on_of_nodup_map hnames h h' rfl)

/-- **A model that was gotten to has met one of three fates.** -/
theorem exactlyOne {id : DeclarationId} (h : id ∈ r.course.fates.map Prod.fst) :
    ExactlyOne (r.Knew id) (r.Refused id) (r.Stored id) := by
  obtain ⟨⟨id, fate⟩, hfate, rfl⟩ := List.mem_map.mp h
  have hrefused : r.Refused id → ∃ why, fate = .refused why := by
    intro h
    obtain ⟨why, hwhy⟩ := Course.mem_refused.mp h
    exact ⟨why, fate_unique hfate hwhy⟩
  have hstored : r.Stored id → ∃ file found, fate = .stored file found := by
    intro h
    obtain ⟨⟨_, file⟩, hmem, rfl⟩ := List.mem_map.mp h
    obtain ⟨found, hfound⟩ := Course.mem_stored.mp hmem
    exact ⟨file, found, fate_unique hfate hfound⟩
  obtain ⟨m, m', hmeets⟩ := meets hfate
  cases hmeets with
  | known hknown =>
      exact Or.inl ⟨hknown, fun h => by simpa using hrefused h, fun h => by simpa using hstored h⟩
  | @refused why _ hnew _ =>
      exact Or.inr
        (Or.inl ⟨hnew, Course.mem_refused.mpr ⟨why, hfate⟩, fun h => by simpa using hstored h⟩)
  | @stored _ file _ _ hnew _ _ =>
      refine Or.inr (Or.inr ⟨hnew, fun h => by simpa using hrefused h, ?_⟩)
      exact List.mem_map.mpr ⟨(id, file), Course.mem_stored.mpr ⟨_, hfate⟩, rfl⟩

/-- What was handled after the round was handled before, refused, or stored. -/
theorem mem_after_handled {name : String} :
    name ∈ r.after.handled ↔ name ∈ r.before.handled ∨ name ∈ r.refusedNames
      ∨ name ∈ r.storedNames := by
  have htaken : name ∈ r.course.taken.map r.source.nameOf
      ↔ name ∈ r.refusedNames ∨ name ∈ r.storedNames := by
    simp only [refusedNames, storedNames, stored, List.mem_map, Course.mem_taken]
    constructor
    · rintro ⟨id, hrefused | ⟨x, hx, rfl⟩, rfl⟩
      · exact Or.inl ⟨id, hrefused, rfl⟩
      · exact Or.inr ⟨x, hx, rfl⟩
    · rintro (⟨id, hrefused, rfl⟩ | ⟨x, hx, rfl⟩)
      · exact ⟨id, Or.inl hrefused, rfl⟩
      · exact ⟨x.1, Or.inr ⟨x, hx, rfl⟩, rfl⟩
  rw [after_eq, Processor.afterCourse, Processor.handleAll_handled, List.mem_append, htaken]

/-! ## What a round reports -/

/-- Among the diagnostics of an outcome is one that a model has no name for its wrapper. -/
def Reports (r : PlayedRound) (o : RoundOutcome) (id : DeclarationId) : Prop :=
  ∃ d ∈ o.diagnostics, d.kind = .missingWrapperName ∧ d.symbol = r.source.nameOf id

end PlayedRound

/-- A model is refused for one reason only. -/
theorem diagnostic_of_buildModel {s : SymbolSource} {id : DeclarationId} {markers : Markers}
    {d : Diagnostic} (h : buildModel s id markers = .error d) :
    d.kind = .missingWrapperName ∧ d.symbol = s.nameOf id := by
  unfold buildModel at h
  split at h
  · obtain rfl := Except.error.inj h
    exact ⟨rfl, rfl⟩
  · dsimp only at h
    split at h
    · obtain rfl := Except.error.inj h
      exact ⟨rfl, rfl⟩
    · obtain rfl := Except.error.inj h
      exact ⟨rfl, rfl⟩
    · exact absurd h (by simp)

/-- Generating a wrapper reports problems with its members, and nothing
about the model as a whole. -/
theorem kind_of_generate {s : SymbolSource} {model : ConfigModel} {o : Options} {d : Diagnostic}
    (h : d ∈ (generate s model o).diagnostics) :
    d.kind ≠ .missingWrapperName ∧ d.kind ≠ .deferredSymbol := by
  cases Collector.mem_collect_diagnostics.mp h <;> exact ⟨by simp, by simp⟩

namespace PlayedRound

variable {r : PlayedRound}

/-- In an outcome stand the diagnostics of models that wait, and those of the models gotten to. -/
theorem mem_diagnostics {o : RoundOutcome} (h : r.result = .ok o) {d : Diagnostic} :
    d ∈ o.diagnostics ↔ d ∈ (r.before.found r.source).diagnostics ∨ d ∈ r.course.diagnostics := by
  rw [result_eq, Course.result] at h
  split at h
  · exact absurd h (by simp)
  · rw [← Except.ok.inj h]
    exact List.mem_append

theorem kind_of_mem_found {d : Diagnostic} (h : d ∈ (r.before.found r.source).diagnostics) :
    d.kind = .deferredSymbol := by
  obtain ⟨id, _, rfl⟩ := List.mem_map.mp h
  rfl

theorem reports_iff {o : RoundOutcome} (h : r.result = .ok o) {id : DeclarationId}
    (hid : r.IsReady id) :
    r.Reports o id ↔ r.Refused id := by
  constructor
  · rintro ⟨d, hd, hkind, hsymbol⟩
    rcases (mem_diagnostics h).mp hd with hfound | hmet
    · exact absurd ((kind_of_mem_found hfound).symm.trans hkind) (by simp)
    · obtain ⟨⟨id', fate⟩, hfate, hin⟩ := List.mem_flatMap.mp hmet
      obtain ⟨m, m', hmeets⟩ := meets hfate
      cases hmeets with
      | known _ => exact absurd hin List.not_mem_nil
      | @refused why _ _ hmodel =>
          obtain rfl := List.mem_singleton.mp hin
          have hname : r.source.nameOf id' = r.source.nameOf id :=
            (diagnostic_of_buildModel hmodel).2.symm.trans hsymbol
          obtain rfl : id' = id := (isReady_of_fate hfate).model.eq_of_nameOf_eq hid.model hname
          exact Course.mem_refused.mpr ⟨d, hfate⟩
      | stored _ _ _ => exact absurd hkind (kind_of_generate hin).1
  · intro hrefused
    obtain ⟨why, hfate⟩ := Course.mem_refused.mp hrefused
    obtain ⟨m, m', hmeets⟩ := meets hfate
    cases hmeets with
    | refused _ hmodel =>
        have hmem : why ∈ r.course.diagnostics :=
          List.mem_flatMap.mpr ⟨_, hfate, List.mem_cons_self⟩
        exact ⟨why, (mem_diagnostics h).mpr (Or.inr hmem), diagnostic_of_buildModel hmodel⟩

/-! ## Accounts -/

/-- A model was ready, a wrapper was generated for it, and storing that succeeded with `file`. -/
structure Wrote (r : PlayedRound) (id : DeclarationId) (file : WrittenFile) : Prop where
  ready : r.IsReady id
  succeeded : ∃ model m m', buildModel r.source id r.before.options.markers = .ok model
    ∧ (r.before.roots.store (generate r.source model r.before.options).file).play m = (.ok file, m')

/-- A model was ready, a wrapper was generated for it, and storing that
failed with the error `e`. -/
structure FailedAt (r : PlayedRound) (id : DeclarationId) (e : IoError) : Prop where
  ready : r.IsReady id
  failed : ∃ model m m', buildModel r.source id r.before.options.markers = .ok model
    ∧ (r.before.roots.store (generate r.source model r.before.options).file).play m = (.error e, m')

/-- What a round accounts for that returned an outcome. -/
structure Completed (r : PlayedRound) (o : RoundOutcome) : Prop where
  /-- The models that are not ready are deferred. -/
  deferred : ∃ ids, r.source.ListsMarked r.before.options.markers (fun id =>
      r.source.IsModel r.before.options.markers id
        ∧ r.source.isReady r.before.options.markers.nest id = false) ids
    ∧ o.deferred = ids.map r.source.nameOf
  /-- Each of the others was handled before, is reported, or is stored. -/
  fate : ∀ id, r.IsReady id → ExactlyOne (r.Knew id) (r.Reports o id) (r.Stored id)
  written : o.written = r.stored.map Prod.snd
  inOrder : (r.stored.map Prod.fst).Sublist (r.source.marked r.before.options.markers.config)
  wrote : ∀ x ∈ r.stored, r.Wrote x.1 x.2
  /-- Those reported and those stored are handled now, and no others. -/
  handled : ∃ ids, r.source.ListsMarked r.before.options.markers (fun id =>
      r.IsReady id ∧ (r.Reports o id ∨ r.Stored id)) ids
    ∧ r.after = r.before.handleAll (ids.map r.source.nameOf)

/-- What a round accounts for that broke off with the error `e`: it has passed some of the models
that are ready, failed at one, and left the rest. -/
structure BrokenOff (r : PlayedRound) (e : IoError) (passed : List DeclarationId)
    (failing : DeclarationId) (rest : List DeclarationId) : Prop where
  ready : r.source.ListsMarked r.before.options.markers r.IsReady (passed ++ failing :: rest)
  failed : r.FailedAt failing e
  fate : ∀ id ∈ passed, ExactlyOne (r.Knew id) (r.Refused id) (r.Stored id)
  refused : ∀ id, r.Refused id → ∃ d, buildModel r.source id r.before.options.markers = .error d
  inOrder : (r.stored.map Prod.fst).Sublist passed
  wrote : ∀ x ∈ r.stored, r.Wrote x.1 x.2
  /-- The models passed are handled now. -/
  handled : ∃ ids : List DeclarationId, ids.Sublist passed ∧ (∀ id ∈ passed, id ∈ ids ↔ ¬r.Knew id)
    ∧ r.after = r.before.handleAll (ids.map r.source.nameOf)
  /-- The others are handled only if they were before, and the one that failed was not. -/
  unhandled : r.source.nameOf failing ∉ r.after.handled
  untouched : ∀ id ∈ rest, r.source.nameOf id ∈ r.after.handled ↔ r.Knew id

/-- The course of a round is how the round went, and everything ready is accounted for in it. -/
def Accounted (r : PlayedRound) : Prop :=
  Processor.Runs r.source r.before r.opened (r.before.ready r.source) r.course r.run.2
    ∧ match r.result with
      | .ok o => r.Completed o
      | .error e => ∃ passed failing rest, r.BrokenOff e passed failing rest

theorem listsMarked_ready (r : PlayedRound) :
    r.source.ListsMarked r.before.options.markers r.IsReady (r.before.ready r.source) :=
  ⟨ready_sublist _ _, fun _ => mem_ready⟩

theorem wrote_of_mem_stored {x : DeclarationId × WrittenFile} (h : x ∈ r.stored) :
    r.Wrote x.1 x.2 := by
  obtain ⟨found, hfate⟩ := Course.mem_stored.mp h
  obtain ⟨m, m', hmeets⟩ := meets hfate
  cases hmeets with
  | stored _ hmodel hstore => exact ⟨isReady_of_fate hfate, _, _, _, hmodel, hstore⟩

theorem buildModel_of_refused {id : DeclarationId} (h : r.Refused id) :
    ∃ d, buildModel r.source id r.before.options.markers = .error d := by
  obtain ⟨why, hfate⟩ := Course.mem_refused.mp h
  obtain ⟨m, m', hmeets⟩ := meets hfate
  cases hmeets with
  | refused _ hmodel => exact ⟨why, hmodel⟩

theorem mem_fates_of_mem_taken {id : DeclarationId} (h : id ∈ r.course.taken) :
    id ∈ r.course.fates.map Prod.fst :=
  r.course.taken_sublist.subset h

/-- A model that was gotten to is handled then, unless it was before. -/
theorem mem_taken_iff {id : DeclarationId} (h : id ∈ r.course.fates.map Prod.fst) :
    id ∈ r.course.taken ↔ ¬r.Knew id := by
  rw [Course.mem_taken]
  rcases exactlyOne h with ⟨hknew, hrefused, hstored⟩ | ⟨hnew, hrefused, _⟩ | ⟨hnew, _, hstored⟩
  · exact iff_of_false (fun h => h.elim hrefused hstored) (fun h => h hknew)
  · exact iff_of_true (Or.inl hrefused) hnew
  · exact iff_of_true (Or.inr hstored) hnew

/-- A model that was not gotten to is handled after the round only if it was before. -/
theorem knew_of_not_mem {id : DeclarationId} (hid : r.IsReady id)
    (h : id ∉ r.course.fates.map Prod.fst) (hafter : r.source.nameOf id ∈ r.after.handled) :
    r.Knew id := by
  rw [after_eq, Processor.afterCourse, Processor.handleAll_handled, List.mem_append] at hafter
  refine hafter.resolve_right fun htaken => ?_
  obtain ⟨id', htaken, hname⟩ := List.mem_map.mp htaken
  have hmem := mem_fates_of_mem_taken htaken
  -- the model that was handled has the same name, so it is this one
  obtain ⟨x, hx, rfl⟩ := List.mem_map.mp hmem
  exact h ((isReady_of_fate hx).model.eq_of_nameOf_eq hid.model hname ▸ hmem)

theorem completed {o : RoundOutcome} (h : r.result = .ok o) : r.Completed o := by
  have hresult := h
  rw [result_eq, Course.result] at hresult
  cases r.runs with
  | broken hfailure _ _ _ =>
      rw [hfailure] at hresult
      exact absurd hresult (by simp)
  | complete hfailure hids _ =>
      rw [hfailure] at hresult
      obtain rfl := Except.ok.inj hresult
      -- no call failed, so every model that was ready has met its fate
      have hreached : ∀ id, r.IsReady id → id ∈ r.course.fates.map Prod.fst :=
        fun id hid => hids ▸ mem_ready.mpr hid
      have hmarked : (r.course.fates.map Prod.fst).Sublist
          (r.source.marked r.before.options.markers.config) :=
        hids ▸ ready_sublist _ _
      refine ⟨⟨_, ⟨deferred_sublist _ _, fun _ => mem_deferred⟩, rfl⟩, fun id hid => ?_, rfl,
        r.course.stored_sublist.trans hmarked, fun x hx => wrote_of_mem_stored hx,
        r.course.taken, ⟨r.course.taken_sublist.trans hmarked, fun id => ?_⟩, r.after_eq⟩
      · rw [reports_iff h hid]
        exact exactlyOne (hreached id hid)
      · constructor
        · intro htaken
          obtain ⟨x, hx, rfl⟩ := List.mem_map.mp (mem_fates_of_mem_taken htaken)
          have hid := isReady_of_fate hx
          exact ⟨hid, (Course.mem_taken.mp htaken).imp_left (reports_iff h hid).mpr⟩
        · rintro ⟨hid, hnew⟩
          exact Course.mem_taken.mpr (hnew.imp_left (reports_iff h hid).mp)

theorem brokenOff {e : IoError} (h : r.result = .error e) :
    ∃ passed failing rest, r.BrokenOff e passed failing rest := by
  rw [result_eq, Course.result] at h
  have hlist := r.listsMarked_ready
  have hnames := nodup_ready_names r.source r.before.options.markers
  cases r.runs with
  | complete hfailure _ _ =>
      rw [hfailure] at h
      exact absurd h (by simp)
  | @broken id e' rest m₁ hfailure hids _ hbreaks =>
      rw [hfailure] at h
      obtain rfl := Except.error.inj h
      rw [hids] at hlist
      have hready : ∀ id' ∈ r.course.fates.map Prod.fst ++ id :: rest, r.IsReady id' :=
        fun id' h => (hlist.mem id').mp h
      -- the models after those that were gotten to are others
      have hapart : ∀ id' ∈ id :: rest, id' ∉ r.course.fates.map Prod.fst := by
        have hnodup : (r.before.ready r.source).Nodup := hnames.of_map
        rw [hids] at hnodup
        exact fun id' hrest hpassed => (List.nodup_append.mp hnodup).2.2 id' hpassed id' hrest rfl
      cases hbreaks with
      | @failed model events hnew hmodel hstore =>
          refine ⟨r.course.fates.map Prod.fst, id, rest, hlist,
            ⟨hready id (by simp), model, _, _, hmodel, hstore⟩, fun id' hid' => exactlyOne hid',
            fun id' hid' => buildModel_of_refused hid', r.course.stored_sublist,
            fun x hx => wrote_of_mem_stored hx,
            ⟨r.course.taken, r.course.taken_sublist, fun id' hid' => mem_taken_iff hid',
              r.after_eq⟩, ?_,
              fun id' hid' => ⟨knew_of_not_mem (hready id' (by simp [hid']))
                (hapart id' (by simp [hid'])), fun hknew => mem_after_handled.mpr (Or.inl hknew)⟩⟩
          rw [after_eq]
          exact hnew

theorem accounted (r : PlayedRound) : r.Accounted := by
  refine ⟨r.runs, ?_⟩
  split
  · exact completed ‹_›
  · exact brokenOff ‹_›

/-! ## Names are handled once -/

theorem not_handled_of_refused {name : String} (h : name ∈ r.refusedNames) :
    name ∉ r.before.handled ∧ name ∉ r.storedNames := by
  obtain ⟨id, hrefused, rfl⟩ := List.mem_map.mp h
  obtain ⟨why, hfate⟩ := Course.mem_refused.mp hrefused
  have hmem : id ∈ r.course.fates.map Prod.fst := List.mem_map_of_mem hfate
  rcases exactlyOne hmem with ⟨_, hnot, _⟩ | ⟨hnew, _, hnot⟩ | ⟨_, hnot, _⟩
  · exact absurd hrefused hnot
  · refine ⟨hnew, fun hstored => ?_⟩
    obtain ⟨x, hx, hname⟩ := List.mem_map.mp hstored
    obtain ⟨found, hfate'⟩ := Course.mem_stored.mp hx
    obtain rfl : x.1 = id :=
      (isReady_of_fate hfate').model.eq_of_nameOf_eq (isReady_of_fate hfate).model hname
    exact hnot (List.mem_map_of_mem hx)
  · exact absurd hrefused hnot

theorem not_handled_of_stored {name : String} (h : name ∈ r.storedNames) :
    name ∉ r.before.handled := by
  obtain ⟨x, hx, rfl⟩ := List.mem_map.mp h
  have hstored : r.Stored x.1 := List.mem_map_of_mem hx
  rcases exactlyOne (r.course.stored_sublist.subset hstored) with ⟨_, _, hnot⟩ | ⟨_, _, hnot⟩
    | ⟨hnew, _, _⟩
  · exact absurd hstored hnot
  · exact absurd hstored hnot
  · exact hnew

theorem nodup_storedNames (r : PlayedRound) : r.storedNames.Nodup := by
  have hsub := r.course.stored_sublist.map r.source.nameOf
  rw [List.map_map] at hsub
  exact hsub.nodup r.nodup_fate_names

end PlayedRound

/-! ## Runs -/

namespace Processor

/-- What is refused or stored in a run was not handled before. -/
theorem not_handled_of_rounds (p : Processor) (calls : List RoundCall) {name : String}
    (h : name ∈ (p.rounds calls).flatMap PlayedRound.refusedNames
      ∨ name ∈ (p.rounds calls).flatMap PlayedRound.storedNames) : name ∉ p.handled := by
  induction calls generalizing p with
  | nil => simp [rounds] at h
  | cons call calls ih =>
      simp only [rounds, List.flatMap_cons, List.mem_append] at h
      rcases h with (hnow | hlater) | (hnow | hlater)
      · exact (PlayedRound.not_handled_of_refused hnow).1
      · exact fun hp => ih _ (Or.inl hlater) (PlayedRound.mem_after_handled.mpr (Or.inl hp))
      · exact PlayedRound.not_handled_of_stored hnow
      · exact fun hp => ih _ (Or.inr hlater) (PlayedRound.mem_after_handled.mpr (Or.inl hp))

/-- The names of all models that are stored in a run are distinct. -/
theorem nodup_storedNames_rounds (p : Processor) (calls : List RoundCall) :
    ((p.rounds calls).flatMap PlayedRound.storedNames).Nodup := by
  induction calls generalizing p with
  | nil => exact List.nodup_nil
  | cons call calls ih =>
      rw [rounds, List.flatMap_cons, List.nodup_append]
      refine ⟨PlayedRound.nodup_storedNames _, ih _, fun name hnow name' hlater heq => ?_⟩
      -- what is stored in this round is handled when the later ones begin
      subst heq
      exact not_handled_of_rounds _ _ (Or.inr hlater)
        (PlayedRound.mem_after_handled.mpr (Or.inr (Or.inr hnow)))

/--
**Rounds account for every model, and no model is stored twice.**

Whatever the sources and the failures are: a round that returns an outcome defers the models that
are not ready, and each of the others was handled before, is reported for want of a wrapper name, or
is stored, and just one of these. A round that breaks off leaves the model it failed at and those
behind it as they were.
-/
theorem rounds_accounted (p : Processor) (calls : List RoundCall) :
    (∀ r ∈ p.rounds calls, r.Accounted)
      ∧ ((p.rounds calls).flatMap PlayedRound.storedNames).Nodup :=
  ⟨fun r _ => r.accounted, nodup_storedNames_rounds p calls⟩

end Processor

end WrapperGen
