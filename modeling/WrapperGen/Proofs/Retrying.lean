import WrapperGen.Proofs.Orderly
import WrapperGen.Proofs.SkippedModels

/-!
# Trying again

A round that breaks off can be run again over the same source: it goes on with the model that
failed. When a round succeeds at last, the disk is what a single round would have left on which
nothing failed, at every place. All that is asked of the system is that temporary files are removed
and that nothing was in their places.
-/

namespace WrapperGen

open Disk Script

namespace Processor

variable {s : SymbolSource} {p : Processor} {unsure : DiskCall → Prop}

/-! ## The files of a round -/

/-- The file that is to be stored for a model, unless the model was handled or is refused. -/
def dueFile? (p : Processor) (s : SymbolSource) (id : DeclarationId) : Option GeneratedFile :=
  if s.nameOf id ∈ p.handled then none
  else match buildModel s id p.options.markers with
    | .error _ => none
    | .ok model => some (generate s model p.options).file

/-- The files that are to be stored for models, in order. -/
def due (p : Processor) (s : SymbolSource) (ids : List DeclarationId) : List GeneratedFile :=
  ids.filterMap (p.dueFile? s)

theorem dueFile?_handleAll (names : List String) (id : DeclarationId) :
    (p.handleAll names).dueFile? s id = if s.nameOf id ∈ names then none else p.dueFile? s id := by
  rw [dueFile?, dueFile?, handleAll_handled, handleAll_options]
  by_cases hnames : s.nameOf id ∈ names
  · rw [if_pos hnames, if_pos (List.mem_append_right _ hnames)]
  · rw [if_neg hnames]
    by_cases hknown : s.nameOf id ∈ p.handled
    · rw [if_pos hknown, if_pos (List.mem_append_left _ hknown)]
    · rw [if_neg hknown, if_neg fun h => (List.mem_append.mp h).elim hknown hnames]

/-- Handling a model does not change what is due for others. -/
theorem due_settle {id : DeclarationId} {ids : List DeclarationId} (fate : Fate)
    (h : s.nameOf id ∉ ids.map s.nameOf) : (p.settle s id fate).due s ids = p.due s ids := by
  refine List.filterMap_congr fun id' hid' => ?_
  rw [settle, dueFile?_handleAll, if_neg]
  intro hmem
  split at hmem
  · exact h (List.mem_singleton.mp hmem ▸ List.mem_map_of_mem hid')
  · exact absurd hmem List.not_mem_nil

/-- For a model that was handled nothing is due. -/
theorem dueFile?_of_handled {id : DeclarationId} (h : s.nameOf id ∈ p.handled) :
    p.dueFile? s id = none :=
  if_pos h

theorem due_cons (id : DeclarationId) (ids : List DeclarationId) :
    p.due s (id :: ids) = (p.dueFile? s id).toList ++ p.due s ids := by
  rw [due, due, List.filterMap_cons]
  cases p.dueFile? s id <;> rfl

/-! ## What a round does to a disk -/

/-- Getting to a model stores the file that is due for it, if any. -/
theorem leads_takeUp {id : DeclarationId} {d d' : Disk} {answer : Except IoError Fate}
    (h : (p.takeUp s id).Leads unsure d answer d') :
    (p.dueFile? s id = none ∧ d' = d ∧ ∃ fate, answer = .ok fate
        ∧ s.nameOf id ∈ (p.settle s id fate).handled)
      ∨ ∃ f, p.dueFile? s id = some f
        ∧ ((∃ file fate, answer = .ok fate ∧ s.nameOf id ∈ (p.settle s id fate).handled
            ∧ (p.roots.store f).Leads unsure d (.ok file) d')
          ∨ ∃ e, answer = .error e ∧ (p.roots.store f).Leads unsure d (.error e) d') := by
  rw [takeUp] at h
  rw [dueFile?]
  by_cases hknown : s.nameOf id ∈ p.handled
  · rw [if_pos hknown] at h ⊢
    obtain ⟨_, d₁, hlog, h⟩ := leads_bind.mp h
    obtain ⟨hanswer, hd⟩ := leads_pure.mp h
    exact Or.inl ⟨rfl, hd.trans (leads_log.mp hlog), .known, hanswer, List.mem_append_left _ hknown⟩
  · rw [if_neg hknown] at h ⊢
    -- refused or stored, the model counts as handled from now on
    have hnew : ∀ fate : Fate, fate.isNew = true → s.nameOf id ∈ (p.settle s id fate).handled := by
      intro fate hfate
      rw [settle, if_pos hfate]
      exact List.mem_append_right _ List.mem_cons_self
    cases hmodel : buildModel s id p.options.markers with
    | error why =>
        rw [hmodel] at h
        obtain ⟨_, d₁, hlog, h⟩ := leads_bind.mp h
        obtain ⟨hanswer, hd⟩ := leads_pure.mp h
        exact Or.inl ⟨rfl, hd.trans (leads_log.mp hlog), .refused why, hanswer, hnew _ rfl⟩
    | ok model =>
        rw [hmodel] at h
        obtain ⟨_, d₁, hlog, h⟩ := leads_bind.mp h
        obtain ⟨stored, d₂, hstore, h⟩ := leads_bind.mp h
        rw [leads_logAll.mp hlog] at hstore
        refine Or.inr ⟨_, rfl, ?_⟩
        cases stored with
        | error e =>
            obtain ⟨hanswer, hd⟩ := leads_pure.mp h
            exact Or.inr ⟨e, hanswer, hd ▸ hstore⟩
        | ok file =>
            obtain ⟨hanswer, hd⟩ := leads_pure.mp h
            exact Or.inl ⟨file, _, hanswer, hnew _ rfl, hd ▸ hstore⟩

/-- **A course tries to store what is due, and what it leaves is due afterwards.** -/
theorem leads_course {ids : List DeclarationId} {d d' : Disk} {c : Course}
    (hnames : (ids.map s.nameOf).Nodup) (h : (course s ids p).Leads unsure d c d') :
    ∃ rest, p.roots.Tries unsure (p.due s ids) d rest d' ∧ (p.afterCourse s c).due s ids = rest
      ∧ (rest = [] ↔ c.failure = none) := by
  induction ids generalizing p d c with
  | nil =>
      obtain ⟨rfl, hd⟩ := leads_pure.mp h
      rw [hd]
      exact ⟨[], .nil, rfl, iff_of_true rfl rfl⟩
  | cons id ids ih =>
      rw [List.map_cons, List.nodup_cons] at hnames
      rw [course] at h
      obtain ⟨answer, d₁, htake, h⟩ := leads_bind.mp h
      -- the rest of the course, once the model has met its fate
      have hrest : ∀ fate, answer = .ok fate → s.nameOf id ∈ (p.settle s id fate).handled →
          ∃ rest, p.roots.Tries unsure (p.due s ids) d₁ rest d'
            ∧ (p.afterCourse s c).due s (id :: ids) = rest ∧ (rest = [] ↔ c.failure = none) := by
        intro fate hanswer hhandled
        rw [hanswer] at h
        obtain ⟨c', d₂, hcourse, h⟩ := leads_bind.mp h
        obtain ⟨hc, hd⟩ := leads_pure.mp h
        rw [← hd] at hcourse
        obtain ⟨rest, htries, hdue, hnone⟩ := ih hnames.2 hcourse
        rw [due_settle fate hnames.1] at htries
        refine ⟨rest, htries, ?_, ?_⟩
        · have hafter : s.nameOf id ∈ ((p.settle s id fate).afterCourse s c').handled :=
            List.mem_append_left _ hhandled
          rw [hc, afterCourse_after, due_cons, dueFile?_of_handled hafter, hdue]
          rfl
        · rw [hc]
          exact hnone
      rw [due_cons]
      rcases leads_takeUp htake with ⟨hnone, hd, fate, hanswer, hhandled⟩ | ⟨f, hsome, hstore⟩
      · rw [hnone, ← hd]
        exact hrest fate hanswer hhandled
      · rw [hsome]
        rcases hstore with ⟨file, fate, hanswer, hhandled, hleads⟩ | ⟨e, hanswer, hleads⟩
        · obtain ⟨rest, htries, hdue, hnone⟩ := hrest fate hanswer hhandled
          exact ⟨rest, .stored hleads htries, hdue, hnone⟩
        · rw [hanswer] at h
          obtain ⟨hc, hd⟩ := leads_pure.mp h
          refine ⟨f :: p.due s ids, hd ▸ .failed hleads, ?_, ?_⟩
          · have hsame : p.afterCourse s c = p := by
              rw [hc]
              exact p.handleAll_nil
            rw [hsame, due_cons, hsome]
            rfl
          · rw [hc]
            exact iff_of_false (List.cons_ne_nil _ _) (by simp)

/-- **A round tries to store what is due**; it succeeds if nothing is left, and what is left is
due in the next round. -/
theorem leads_runRound {d d' : Disk} {r : Except IoError RoundOutcome} {p' : Processor}
    (h : (p.runRound s).Leads unsure d (r, p') d') :
    ∃ rest, p.roots.Tries unsure (p.due s (p.ready s)) d rest d' ∧ p'.due s (p'.ready s) = rest
      ∧ (rest = [] ↔ ∃ o, r = .ok o) ∧ p'.roots = p.roots := by
  rw [runRound_eq] at h
  obtain ⟨_, d₁, hlog, h⟩ := leads_bind.mp h
  obtain ⟨c, d₂, hcourse, h⟩ := leads_bind.mp h
  obtain ⟨hanswer, hd⟩ := leads_pure.mp h
  obtain ⟨hr, hp'⟩ := Prod.mk.inj hanswer
  rw [leads_logAll.mp hlog] at hcourse
  obtain ⟨rest, htries, hdue, hnone⟩ := leads_course (nodup_ready_names s p.options.markers) hcourse
  refine ⟨rest, hd ▸ htries, by rw [hp']; exact hdue, ?_, by rw [hp']; rfl⟩
  rw [hnone, hr, Course.result]
  cases c.failure with
  | none => exact iff_of_true rfl ⟨_, rfl⟩
  | some failure => exact iff_of_false (by simp) (by simp)

/-- **Without failures a round succeeds** and stores what is due, if that can be stored. -/
theorem runRound_of_storesAll {m : Machine} {d' : Disk}
    (h : p.roots.StoresAll (p.due s (p.ready s)) m.disk d') (hfaults : m.faults = []) :
    (∃ o, ((p.runRound s).play m).1.1 = .ok o) ∧ ((p.runRound s).play m).2.disk = d' := by
  obtain ⟨hanswer, hdisk, _⟩ := play_faultless (p.runRound s) m hfaults
  obtain ⟨rest, htries, _, hdone, _⟩ := leads_runRound (leads_on (p.runRound s) m.disk)
  obtain ⟨hrest, hd'⟩ := h.unique htries
  rw [hanswer, hdisk]
  exact ⟨hdone.mp hrest, hd'⟩

/-- **On a disk in good order a round succeeds** when nothing fails, if the paths
of its files are tidy. -/
theorem runRound_of_orderly {m : Machine} (h : m.disk.Orderly) (hfaults : m.faults = [])
    (htidy : ∀ f ∈ p.due s (p.ready s), p.roots.Tidy f) :
    ∃ o, ((p.runRound s).play m).1.1 = .ok o := by
  obtain ⟨d', hstores⟩ := OutputRoots.storesAll_of_orderly h htidy
  exact (runRound_of_storesAll hstores hfaults).1

/-! ## Rounds over one source -/

/-- Rounds over one source are run until one succeeds, from the machine `m` to the machine `m'`. Any
call may fail in them but the removal of a file. -/
inductive Retried (s : SymbolSource) : Processor → Machine → Machine → Prop where
  | succeeded {p : Processor} {m : Machine} {o : RoundOutcome} :
      (p.runRound s).FailsOnly (¬RemovesFile ·) m → ((p.runRound s).play m).1.1 = .ok o →
      Retried s p m ((p.runRound s).play m).2
  | again {p : Processor} {m m' : Machine} {e : IoError} :
      (p.runRound s).FailsOnly (¬RemovesFile ·) m → ((p.runRound s).play m).1.1 = .error e →
      Retried s ((p.runRound s).play m).1.2 ((p.runRound s).play m).2 m' → Retried s p m m'

/-- On a disk that no round has changed so far, what is due can be stored without failures, and that
leads to the same disk. -/
theorem Retried.storesAll {m m' : Machine} {all : List GeneratedFile} {d : Disk}
    (h : Retried s p m m') (hfree : p.roots.FreeFor all d)
    (hsub : ∀ f ∈ p.due s (p.ready s), f ∈ all)
    (hbehind : p.roots.Behind (p.due s (p.ready s)) d m.disk) :
    ∃ d', p.roots.StoresAll (p.due s (p.ready s)) d d' ∧ d'.Alike m'.disk := by
  have hremoval : ∀ directory name, ¬¬RemovesFile (.removeFile directory name) :=
    fun _ _ h => h trivial
  induction h generalizing d with
  | @succeeded p m o hfails hok =>
      obtain ⟨rest, htries, _, hdone, _⟩ := leads_runRound (leads_play _ m hfails)
      obtain ⟨done, e, hsplit, hstores, _,
          hbehind'⟩ := OutputRoots.tries_behind hremoval hfree hsub hbehind htries
      have hrest : rest = [] := hdone.mpr ⟨o, hok⟩
      rw [hrest] at hsplit hbehind'
      rw [hsplit, List.append_nil]
      exact ⟨e, hstores, hbehind'⟩
  | @again p m m' e hfails herror _ ih =>
      obtain ⟨rest, htries, hdue, _, hroots⟩ := leads_runRound (leads_play _ m hfails)
      obtain ⟨done, d₁, hsplit, hstores, hfree', hbehind'⟩ :=
        OutputRoots.tries_behind hremoval hfree hsub hbehind htries
      rw [hroots, hdue] at ih
      rw [hsplit] at hsub ⊢
      obtain ⟨d', hrest, halike⟩ :=
        ih hfree' (fun f hf => hsub f (List.mem_append_right _ hf)) hbehind'
      exact ⟨d', hstores.append hrest, halike⟩

/--
**Trying again until a round succeeds leads to the disk that a single round
without failures leaves.**

That round succeeds, the same is at every place after it, and files other than those stored by it
are as they were in the beginning.
-/
theorem retried_alike_undisturbed {s : SymbolSource} {p : Processor} {m m' : Machine}
    (hfree : ∀ f ∈ p.due s (p.ready s), ∀ path name, p.roots.IsOutput f path name →
      m.disk.at? (m.disk.placeIn path.directory (temporaryName name p.roots.process)) = none)
    (h : Retried s p m m') :
    (∃ o, ((p.runRound s).play { m with faults := [] }).1.1 = .ok o)
      ∧ (∀ x, m'.disk.at? x = ((p.runRound s).play { m with faults := [] }).2.disk.at? x)
      ∧ ∀ x, (∀ f ∈ p.due s (p.ready s), ∀ path name, p.roots.IsOutput f path name →
          x ≠ m.disk.placeIn path.directory name) →
        ∀ content, m'.disk.at? x = some (.file content) ↔ m.disk.at? x = some (.file content) := by
  have hfree' : p.roots.FreeFor (p.due s (p.ready s)) m.disk := by
    intro f hf path name houtput content
    rw [hfree f hf path name houtput]
    simp
  obtain ⟨d', hstores, halike⟩ :=
    h.storesAll hfree' (fun _ hf => hf) (OutputRoots.behind_of_alike (.refl _))
  -- the undisturbed round does just that
  obtain ⟨hok, hdisk⟩ := runRound_of_storesAll (m := { m with faults := [] }) hstores rfl
  refine ⟨hok, fun x => ?_, fun x hx content => ?_⟩
  · rw [hdisk, halike.at?]
  · rw [halike.at?]
    exact hstores.file_iff hx

end Processor

/-! ## A call that fails -/

namespace Script

variable {unsure : DiskCall → Prop} {m : Machine} {fault : DiskFault}

/-! When the next call fails, a file is not stored, and nothing is left of the attempt. -/

theorem ends_openDirectory_of_fault (path : Path) (hfault : m.faults = [some fault])
    (hunsure : unsure (.openDirectory path)) :
    (ask (.openDirectory path)).Ends unsure m (.error fault.cause) { m with faults := [] } := by
  obtain ⟨disk, faults, events⟩ := m
  rw [show faults = _ from hfault]
  exact ⟨⟨fun _ _ _ => hunsure, trivial⟩, rfl⟩

theorem ends_ensureDirectory_of_fault (path : Path) (hfault : m.faults = [some fault])
    (hcause : fault.cause ≠ .notFound) (hunsure : unsure (.openDirectory path)) :
    (ensureDirectory path).Ends unsure m (.error ⟨path, fault.cause⟩) { m with faults := [] } := by
  refine (ends_openDirectory_of_fault path hfault hunsure).bind ?_
  split
  · exact absurd ‹Except.error _ = Except.ok ()› (by simp)
  · exact absurd (Except.error.inj ‹_›) hcause
  · rename_i cause _ heq
    rw [Except.error.inj heq]
    exact ends_pure _ _

theorem ends_writeAtomic_of_fault {process name content : String} {path : Path}
    (hname : path.fileName? = some name) (hfault : m.faults = [some fault])
    (hcause : fault.cause ≠ .notFound) (hunsure : unsure (.openDirectory path.directory)) :
    (writeAtomic process path content).Ends unsure m (.error ⟨path.directory, fault.cause⟩)
      { m with faults := [] } := by
  rw [writeAtomic, hname]
  exact (ends_ensureDirectory_of_fault _ hfault hcause hunsure).bind (ends_pure _ _)

end Script

theorem OutputRoots.ends_store_of_fault {unsure : DiskCall → Prop} {m : Machine} {fault : DiskFault}
    (roots : OutputRoots) (f : GeneratedFile) (hfault : m.faults = [some fault])
    (hcause : fault.cause ≠ .notFound)
    (hunsure : unsure (.openDirectory (roots.sourcePath f).directory)) :
    (roots.store f).Ends unsure m (.error ⟨(roots.sourcePath f).directory, fault.cause⟩)
      { m with faults := [] } := by
  obtain ⟨name, hname, _⟩ := roots.fileName?_sourcePath f
  exact (ends_writeAtomic_of_fault hname hfault hcause hunsure).bind (ends_pure _ _)

namespace Processor

theorem ends_takeUp_of_fault {p : Processor} {s : SymbolSource} {id : DeclarationId}
    {model : ConfigModel} {m : Machine} {fault : DiskFault} {unsure : DiskCall → Prop}
    (hnew : s.nameOf id ∉ p.handled) (hmodel : buildModel s id p.options.markers = .ok model)
    (hfault : m.faults = [some fault]) (hcause : fault.cause ≠ .notFound)
    (hunsure : ∀ directory, unsure (.openDirectory directory)) :
    ∃ e m', (p.takeUp s id).Ends unsure m (.error e) m' ∧ m'.disk = m.disk ∧ m'.faults = [] := by
  rw [takeUp, if_neg hnew, hmodel]
  have hstore := OutputRoots.ends_store_of_fault (m := m.noted (p.generationEvents s model)) p.roots
    (generate s model p.options).file hfault hcause (hunsure _)
  exact ⟨_, _, (ends_logAll _ _).bind (hstore.bind (ends_pure _ _)), rfl, rfl⟩

/-- A source with two models, of which only the second gives its wrapper a name. -/
def halfNamed : SymbolSource where
  table := {
    declarations := [
      ⟨⟨⟨"dev.example", ["First"]⟩, .plainClass, none⟩, .ofList [("Config", .empty)], []⟩,
      ⟨⟨⟨"dev.example", ["Second"]⟩, .plainClass, none⟩,
        .ofList [("Config", .ofList [("wrapperName", .string "SecondConfig")])], []⟩]
    distinct := by decide }

theorem halfNamed_isReady {id : DeclarationId} (h : id ∈ [(⟨0⟩ : DeclarationId), ⟨1⟩]) :
    halfNamed.isReady "Nest" id = true := by
  have hnone : ∀ id ∈ [(⟨0⟩ : DeclarationId), ⟨1⟩],
      (halfNamed.unmet [id]).filter (· ∈ halfNamed.sections "Nest" id) = [] := by decide
  rw [SymbolSource.isReady, SymbolSource.metFrom_of_none (hnone id h), SymbolSource.metFrom]
  rcases List.mem_pair.mp h with rfl | rfl <;> rfl

theorem halfNamed_scan : scan halfNamed freshProcessor.options.markers = ⟨[⟨0⟩, ⟨1⟩], []⟩ := by
  have hmodels : models halfNamed ⟨"Config", "Nest", "Hook"⟩ = [⟨0⟩, ⟨1⟩] := rfl
  rw [show freshProcessor.options.markers = ⟨"Config", "Nest", "Hook"⟩ from rfl, scan, hmodels,
    List.filter_eq_self.mpr fun id hid => halfNamed_isReady hid,
    List.filter_eq_nil_iff.mpr fun id hid => by rw [halfNamed_isReady hid]; decide]

theorem halfNamed_ready : freshProcessor.ready halfNamed = [⟨0⟩, ⟨1⟩] :=
  congrArg ScanResult.ready halfNamed_scan

/-- What is reported of the first model. -/
def firstUnnamed : Diagnostic where
  kind := .missingWrapperName
  symbol := "dev.example.First"
  message := "config marker has no `wrapperName`; no wrapper generated"

/-- The second model. -/
def second : ConfigModel := ⟨⟨1⟩, ⟨"dev.example", ["Second"]⟩, "SecondConfig", false, none⟩

/-- The file of the second model. -/
def secondFile : GeneratedFile := (generate halfNamed second freshProcessor.options).file

theorem buildModel_first :
    buildModel halfNamed ⟨0⟩ freshProcessor.options.markers = .error firstUnnamed := rfl

theorem buildModel_second : buildModel halfNamed ⟨1⟩ freshProcessor.options.markers = .ok second :=
  rfl

/-- The processor once the first model is refused. -/
def afterFirst : Processor := freshProcessor.settle halfNamed ⟨0⟩ (.refused firstUnnamed)

/-- A round over the source breaks off at the second model when the first call fails. -/
theorem ends_halfNamed {m : Machine} {fault : DiskFault} {unsure : DiskCall → Prop}
    (hfault : m.faults = [some fault]) (hcause : fault.cause ≠ .notFound)
    (hunsure : ∀ directory, unsure (.openDirectory directory)) :
    ∃ e m', (freshProcessor.runRound halfNamed).Ends unsure m (.error e, afterFirst) m'
      ∧ m'.disk = m.disk ∧ m'.faults = [] := by
  let m₁ := m.noted (freshProcessor.openingEvents halfNamed)
  let m₂ := m₁.noted [firstUnnamed.event]
  have hfirst : (freshProcessor.takeUp halfNamed ⟨0⟩).Ends unsure m₁
      (.ok (.refused firstUnnamed)) m₂ :=
    (ends_log _ _).bind (ends_pure _ _)
  obtain ⟨e, m', hsecond, hdisk,
      hfaults⟩ : ∃ e m', (afterFirst.takeUp halfNamed ⟨1⟩).Ends unsure m₂ (.error e) m'
      ∧ m'.disk = m.disk ∧ m'.faults = [] :=
    ends_takeUp_of_fault (by decide) buildModel_second hfault hcause hunsure
  have hrest : (course halfNamed [⟨1⟩] afterFirst).Ends unsure m₂ { failure := some (⟨1⟩, e) } m' :=
    hsecond.bind (ends_pure _ _)
  have hcourse : (course halfNamed [⟨0⟩, ⟨1⟩] freshProcessor).Ends unsure m₁
      { fates := [(⟨0⟩, .refused firstUnnamed)], failure := some (⟨1⟩, e) } m' :=
    hfirst.bind (hrest.bind (ends_pure _ _))
  refine ⟨e, m', ?_, hdisk, hfaults⟩
  rw [runRound_eq, halfNamed_ready]
  exact (ends_logAll _ _).bind (hcourse.bind (ends_pure _ _))

theorem sourcePath_second :
    freshProcessor.roots.sourcePath secondFile = ⟨"sources/dev/example/SecondConfig.kt"⟩ := rfl

theorem recordPath_second :
    freshProcessor.roots.recordPath secondFile = ⟨"records/dev.example.SecondConfig.json"⟩ := rfl

theorem tidy_second : freshProcessor.roots.Tidy secondFile := by
  refine ⟨?_, ?_⟩
  · rw [sourcePath_second]
    exact ⟨by decide, by decide⟩
  · rw [recordPath_second]
    exact ⟨by decide, by decide⟩

/-- A second round stores it. -/
theorem runRound_afterFirst {m : Machine} (hdisk : m.disk = {}) (hfaults : m.faults = []) :
    ∃ o, ((afterFirst.runRound halfNamed).play m).1.1 = .ok o := by
  have hready : afterFirst.ready halfNamed = [⟨0⟩, ⟨1⟩] := halfNamed_ready
  have hdue : afterFirst.due halfNamed (afterFirst.ready halfNamed) = [secondFile] := by
    rw [hready]
    rfl
  refine runRound_of_orderly (hdisk ▸ orderly_empty) hfaults fun f hf => ?_
  rw [hdue] at hf
  rw [List.mem_singleton.mp hf]
  exact tidy_second

/-- An empty disk on which the first call fails. -/
def brokenMachine : Machine := { disk := {}, faults := [some ⟨.other "broken", .text ""⟩] }

/-- A round over the source that breaks off, and the one after it. -/
def brokenRound : PlayedRound := ⟨freshProcessor, halfNamed, brokenMachine⟩

def nextRound : PlayedRound := ⟨afterFirst, halfNamed, brokenRound.run.2⟩

theorem brokenRound_ends :
    ∃ e m', (freshProcessor.runRound halfNamed).Ends (¬RemovesFile ·) brokenMachine
      (.error e, afterFirst) m' ∧ m'.disk = {} ∧ m'.faults = [] :=
  ends_halfNamed rfl (by decide) fun _ h => h

theorem nextRound_result : ∃ o, nextRound.result = .ok o := by
  obtain ⟨e, m', hends, hdisk, hfaults⟩ := brokenRound_ends
  have hrun : brokenRound.run = ((.error e, afterFirst), m') := hends.2
  rw [nextRound, hrun]
  exact runRound_afterFirst hdisk hfaults

theorem retried_halfNamed : Retried halfNamed freshProcessor brokenMachine nextRound.run.2 := by
  obtain ⟨e, m', hends, hdisk, hfaults⟩ := brokenRound_ends
  obtain ⟨o, hok⟩ := runRound_afterFirst hdisk hfaults
  have hrun : (freshProcessor.runRound halfNamed).play brokenMachine
      = ((.error e, afterFirst), m') := hends.2
  refine .again hends.1 (by rw [hrun]) ?_
  rw [nextRound, brokenRound, PlayedRound.run, PlayedRound.run, hrun]
  exact .succeeded (failsOnly_faultless _ _ hfaults) hok

theorem retried_alike_undisturbed_halfNamed :
    (∀ f ∈ freshProcessor.due halfNamed (freshProcessor.ready halfNamed), ∀ path name,
        freshProcessor.roots.IsOutput f path name → brokenMachine.disk.at?
          (brokenMachine.disk.placeIn path.directory
            (temporaryName name freshProcessor.roots.process)) = none)
      ∧ Retried halfNamed freshProcessor brokenMachine nextRound.run.2
      ∧ (∃ o, ((freshProcessor.runRound halfNamed).play { disk := {} }).1.1 = .ok o)
      ∧ (∀ x, nextRound.run.2.disk.at? x
        = ((freshProcessor.runRound halfNamed).play { disk := {} }).2.disk.at? x)
      ∧ ∀ x, (∀ f ∈ freshProcessor.due halfNamed (freshProcessor.ready halfNamed), ∀ path name,
          freshProcessor.roots.IsOutput f path name → x ≠ ({} : Disk).placeIn path.directory name) →
        ∀ content, nextRound.run.2.disk.at? x = some (.file content)
          ↔ ({} : Disk).at? x = some (.file content) := by
  have hfree : ∀ f ∈ freshProcessor.due halfNamed (freshProcessor.ready halfNamed), ∀ path name,
      freshProcessor.roots.IsOutput f path name → brokenMachine.disk.at?
        (brokenMachine.disk.placeIn path.directory
          (temporaryName name freshProcessor.roots.process)) = none :=
    fun _ _ _ _ _ => if_neg placeIn_ne_nil
  exact ⟨hfree, retried_halfNamed, retried_alike_undisturbed hfree retried_halfNamed⟩

end Processor

end WrapperGen
