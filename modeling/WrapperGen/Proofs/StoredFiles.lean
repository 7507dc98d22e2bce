import WrapperGen.Proofs.InPlace
import WrapperGen.Proofs.Retrying

/-!
# The files that a round stores

A round stores the files of its models one after the other, and touches no place but theirs
(`Passes.kept`). Each file that was stored is in place right then; what may still change it are the
files that come later. So at the end of the round it is in place still, if no later file has one of
its places (`Passes.all_inPlace`), and all that the round changed are places of the files that were
due (`PlayedRound.kept`).
-/

namespace WrapperGen

open Disk Script

/-- A stored file as it is reported when it was in place already. -/
def WrittenFile.atRest (file : WrittenFile) : WrittenFile := { file with status := .unchanged }

theorem OutputRoots.atRest_outcome (roots : OutputRoots) (f : GeneratedFile)
    (status : WriteStatus) :
    (roots.outcome f status).atRest = roots.outcome f .unchanged := by
  rw [outcome, outcome, WrittenFile.atRest]

namespace Processor

variable {s : SymbolSource} {p : Processor} {id : DeclarationId} {m m' : Machine} {fate : Fate}
  {fates : List (DeclarationId × Fate)} {file : WrittenFile} {found : List Diagnostic}

/-- The file that is to be stored for a model, as it is generated. -/
def Generates (p : Processor) (s : SymbolSource) (id : DeclarationId) (f : GeneratedFile) : Prop :=
  ∃ model, buildModel s id p.options.markers = .ok model ∧ f = (generate s model p.options).file

theorem Generates.unique {f g : GeneratedFile} (h : p.Generates s id f)
    (h' : p.Generates s id g) : f = g := by
  obtain ⟨model, hmodel, rfl⟩ := h
  obtain ⟨model', hmodel', rfl⟩ := h'
  rw [Except.ok.inj (hmodel.symm.trans hmodel')]

/-- The files that were stored, among the fates of models. -/
def filesOf (fates : List (DeclarationId × Fate)) : List WrittenFile := fates.filterMap (·.2.file?)

theorem dueFile?_eq_some {f : GeneratedFile} :
    p.dueFile? s id = some f ↔ s.nameOf id ∉ p.handled ∧ p.Generates s id f := by
  unfold dueFile?
  by_cases hknown : s.nameOf id ∈ p.handled
  · rw [if_pos hknown]
    exact iff_of_false (by simp) fun h => h.1 hknown
  · rw [if_neg hknown]
    cases hmodel : buildModel s id p.options.markers with
    | error e =>
        refine iff_of_false (by simp) ?_
        rintro ⟨-, model, hmodel', -⟩
        exact absurd (hmodel.symm.trans hmodel') (by simp)
    | ok model =>
        constructor
        · intro h
          exact ⟨hknown, model, hmodel, (Option.some.inj h).symm⟩
        · rintro ⟨-, hgenerates⟩
          exact congrArg some (Generates.unique ⟨model, hmodel, rfl⟩ hgenerates)

/-- A file is among those that are reported. -/
def Reported (roots : OutputRoots) (files : List WrittenFile) (f : GeneratedFile) : Prop :=
  ∃ status, roots.outcome f status ∈ files

theorem Reported.mono {roots : OutputRoots} {files more : List WrittenFile} {f : GeneratedFile}
    (h : Reported roots files f) (hsub : files ⊆ more) : Reported roots more f := by
  obtain ⟨status, hmem⟩ := h
  exact ⟨status, hsub hmem⟩

/-! ## One model -/

/-- **A file that was stored** is the one generated for its model, and it is in place. -/
theorem Meets.of_stored (h : Meets s p id m (.stored file found) m') :
    ∃ model status, s.nameOf id ∉ p.handled ∧ buildModel s id p.options.markers = .ok model
      ∧ found = (generate s model p.options).diagnostics
      ∧ file = p.roots.outcome (generate s model p.options).file status
      ∧ p.roots.InPlace (generate s model p.options).file m'.disk
      ∧ Kept (p.roots.Touches (generate s model p.options).file m.disk) m.disk m'.disk := by
  cases h with
  | @stored model _ events _ hnew hmodel hstore =>
      have hleads :=
        leads_play_any (p.roots.store (generate s model p.options).file) (m.noted events)
      rw [hstore] at hleads
      obtain ⟨hplace, status, hfile⟩ := OutputRoots.inPlace_of_store hleads
      exact ⟨model, status, hnew, hmodel, rfl, hfile, hplace, OutputRoots.kept_store hleads⟩

/-- A model that meets its fate touches no places but those of the file that is stored for it. -/
theorem Meets.kept (h : Meets s p id m fate m') :
    Kept (p.roots.TouchedBy (Reported p.roots fate.file?.toList) m.disk) m.disk m'.disk := by
  cases fate with
  | known =>
      cases h
      exact .refl _
  | refused why =>
      cases h
      exact .refl _
  | stored file found =>
      obtain ⟨model, status, _, _, _, rfl, _, hkept⟩ := h.of_stored
      exact hkept.mono fun x hx => ⟨_, ⟨status, List.mem_singleton_self _⟩, hx⟩

/-! ## Several models -/

theorem filesOf_cons (id : DeclarationId) (fate : Fate) (fates : List (DeclarationId × Fate)) :
    filesOf ((id, fate) :: fates) = fate.file?.toList ++ filesOf fates := by
  rw [filesOf, List.filterMap_cons]
  cases fate.file? <;> rfl

/-- **Models that meet their fates touch no places but those of the files that are stored.** -/
theorem Passes.kept (h : Passes s p m fates m') :
    Kept (p.roots.TouchedBy (Reported p.roots (filesOf fates)) m.disk) m.disk m'.disk := by
  induction h with
  | nil => exact .refl _
  | @cons p m m₁ m' id fate fates hmeets _ ih =>
      have hfirst := hmeets.kept
      rw [filesOf_cons]
      exact (hfirst.mono fun x hx =>
        hx.mono (fun g hg => hg.mono (List.subset_append_left _ _)) rfl).trans
        (ih.mono fun x hx => hx.mono (fun g hg => hg.mono (List.subset_append_right _ _))
          hfirst.workingDirectory)

/-- **A file that was stored is in place then**, and from there on only the files that
come later are stored. -/
theorem Passes.inPlace {earlier later : List (DeclarationId × Fate)}
    (h : Passes s p m (earlier ++ (id, .stored file found) :: later) m') :
    ∃ f status d, p.Generates s id f ∧ file = p.roots.outcome f status ∧ p.roots.InPlace f d
      ∧ d.workingDirectory = m.disk.workingDirectory
      ∧ Kept (p.roots.TouchedBy (Reported p.roots (filesOf later)) d) d m'.disk := by
  induction earlier generalizing p m with
  | nil =>
      cases h with
      | cons hmeets hlater =>
          obtain ⟨model, status, _, hmodel, _, hfile, hplace, hkept⟩ := hmeets.of_stored
          exact ⟨_, status, _, ⟨model, hmodel, rfl⟩, hfile, hplace,
            hkept.workingDirectory, hlater.kept⟩
  | cons x earlier ih =>
      cases h with
      | cons hmeets hrest =>
          obtain ⟨f, status, d, hgenerates, hfile, hplace, hdirectory, hkept⟩ := ih hrest
          exact ⟨f, status, d, hgenerates, hfile, hplace,
            hdirectory.trans hmeets.kept.workingDirectory, hkept⟩

theorem filesOf_append (fates more : List (DeclarationId × Fate)) :
    filesOf (fates ++ more) = filesOf fates ++ filesOf more :=
  List.filterMap_append

/-- **All files are in place at the end** if no two of them have the same place. -/
theorem Passes.all_inPlace (h : Passes s p m fates m')
    (hsources : ((filesOf fates).map fun file => m.disk.placeOf file.path).Nodup)
    (hrecords : ((filesOf fates).map fun file => m.disk.placeOf file.recordPath).Nodup)
    (hmem : (id, .stored file found) ∈ fates) :
    ∃ f status, p.Generates s id f ∧ file = p.roots.outcome f status
      ∧ p.roots.InPlace f m'.disk := by
  obtain ⟨earlier, later, rfl⟩ := List.append_of_mem hmem
  obtain ⟨f, status, d, hgenerates, rfl, hplace, hdirectory, hkept⟩ := h.inPlace
  -- the places of later files are others
  have hapart : ∀ place : WrittenFile → Path,
      ((filesOf (earlier ++ (id, .stored (p.roots.outcome f status) found)
            :: later)).map fun file =>
        m.disk.placeOf (place file)).Nodup →
      ∀ other ∈ filesOf later, d.placeOf (place (p.roots.outcome f status))
        ≠ d.placeOf (place other) := by
    intro place hnodup other hother heq
    rw [filesOf_append, filesOf_cons, List.map_append, List.nodup_append] at hnodup
    rw [placeOf_of_workingDirectory hdirectory, placeOf_of_workingDirectory hdirectory] at heq
    exact (List.nodup_cons.mp hnodup.2.1).1 (List.mem_map.mpr ⟨other, hother, heq.symm⟩)
  refine ⟨f, status, hgenerates, rfl, hplace.source_kept hkept ?_, hplace.record_kept hkept ?_⟩
  · rintro g ⟨status', hmem⟩
    have hne := hapart WrittenFile.path hsources _ hmem
    rwa [OutputRoots.outcome_path, OutputRoots.outcome_path] at hne
  · rintro g ⟨status', hmem⟩
    have hne := hapart WrittenFile.recordPath hrecords _ hmem
    rwa [OutputRoots.outcome_recordPath, OutputRoots.outcome_recordPath] at hne

/-- **The files that were stored are those that were due.** -/
theorem Passes.filesOf_eq_due (h : Passes s p m fates m')
    (hnames : ((fates.map Prod.fst).map s.nameOf).Nodup) :
    (filesOf fates).map WrittenFile.atRest
      = (p.due s (fates.map Prod.fst)).map fun f => p.roots.outcome f .unchanged := by
  induction h with
  | nil => rfl
  | @cons p m m₁ m' id fate fates hmeets _ ih =>
      obtain ⟨hid, hrest⟩ := List.nodup_cons.mp hnames
      have hlater := ih hrest
      rw [due_settle fate hid] at hlater
      rw [filesOf_cons, List.map_append, hlater, List.map_cons, due_cons, List.map_append]
      refine congrArg (· ++ _) ?_
      rw [dueFile?]
      cases fate with
      | known =>
          cases hmeets with
          | known hknown =>
              rw [if_pos hknown]
              rfl
      | refused why =>
          cases hmeets with
          | refused hnew hmodel =>
              rw [if_neg hnew, hmodel]
              rfl
      | stored file found =>
          obtain ⟨model, status, hnew, hmodel, _, rfl, _, _⟩ := hmeets.of_stored
          rw [if_neg hnew, hmodel]
          exact congrArg (fun file => [file]) (p.roots.atRest_outcome _ status)

end Processor

namespace PlayedRound

variable {r : PlayedRound} {o : RoundOutcome}

/-- In a round that returns an outcome all models that are ready have met their fates. -/
theorem passes_of_ok (h : r.result = .ok o) :
    r.course.failure = none ∧ r.course.fates.map Prod.fst = r.before.ready r.source
      ∧ Processor.Passes r.source r.before r.opened r.course.fates r.run.2 := by
  rw [result_eq, Course.result] at h
  cases r.runs with
  | complete hfailure hids hpasses => exact ⟨hfailure, hids, hpasses⟩
  | broken hfailure _ _ _ =>
      rw [hfailure] at h
      exact absurd h (by simp)

/-- The files of the outcome are those that were stored. -/
theorem written_eq_filesOf (h : r.result = .ok o) :
    o.written = Processor.filesOf r.course.fates := by
  rw [(completed h).written, stored, Course.stored, List.map_filterMap, Processor.filesOf]
  refine List.filterMap_congr fun x _ => ?_
  cases x.2.file? <;> rfl

/-- **What a round has written is what was due.** -/
theorem written_eq_due (h : r.result = .ok o) :
    o.written.map WrittenFile.atRest
      = (r.before.due r.source (r.before.ready r.source)).map fun f =>
      r.before.roots.outcome f .unchanged := by
  obtain ⟨_, hids, hpasses⟩ := passes_of_ok h
  rw [written_eq_filesOf h, ← hids]
  exact hpasses.filesOf_eq_due r.nodup_fate_names

theorem written_paths (h : r.result = .ok o) :
    o.written.map WrittenFile.path
      = (r.before.due r.source (r.before.ready r.source)).map r.before.roots.sourcePath
      ∧ o.written.map WrittenFile.recordPath
        = (r.before.due r.source (r.before.ready r.source)).map r.before.roots.recordPath := by
  have hpaths := congrArg (List.map WrittenFile.path) (written_eq_due h)
  have hrecords := congrArg (List.map WrittenFile.recordPath) (written_eq_due h)
  simp only [List.map_map, Function.comp_def, OutputRoots.outcome_path,
    OutputRoots.outcome_recordPath] at hpaths hrecords
  exact ⟨hpaths, hrecords⟩

/-- On a disk in good order a round returns an outcome, if the paths of the files
that are due are tidy. -/
theorem result_of_orderly (h : r.machine.disk.Orderly) (hfaults : r.machine.faults = [])
    (htidy : ∀ f ∈ r.before.due r.source (r.before.ready r.source), r.before.roots.Tidy f) :
    ∃ o, r.result = .ok o :=
  Processor.runRound_of_orderly h hfaults htidy

/-! ## Any round -/

variable {id : DeclarationId} {file : WrittenFile} {found : List Diagnostic}

/-- A file is due for one of some models. -/
def DueFor (r : PlayedRound) (ids : List DeclarationId) (f : GeneratedFile) : Prop :=
  ∃ id ∈ ids, r.before.dueFile? r.source id = some f

/-- A file that was stored was due. -/
theorem due_of_fate (h : (id, .stored file found) ∈ r.course.fates) :
    ∃ f status, r.before.dueFile? r.source id = some f
      ∧ file = r.before.roots.outcome f status := by
  obtain ⟨m, m', hmeets⟩ := meets h
  obtain ⟨model, status, hnew, hmodel, _, hfile, _⟩ := hmeets.of_stored
  exact ⟨_, status, Processor.dueFile?_eq_some.mpr ⟨hnew, model, hmodel, rfl⟩, hfile⟩

/-- The places of files that were stored are those of files that were due. -/
theorem touchedBy_due {fates : List (DeclarationId × Fate)} (hsub : fates ⊆ r.course.fates)
    {d : Disk} {x : Location}
    (h : r.before.roots.TouchedBy
      (Processor.Reported r.before.roots (Processor.filesOf fates)) d x) :
    r.before.roots.TouchedBy (r.DueFor (fates.map Prod.fst)) d x := by
  obtain ⟨g, ⟨status, hmem⟩, htouches⟩ := h
  obtain ⟨⟨id, fate⟩, hfate, hfile⟩ := List.mem_filterMap.mp hmem
  cases fate with
  | known => exact absurd hfile (by simp [Fate.file?])
  | refused why => exact absurd hfile (by simp [Fate.file?])
  | stored file found =>
      obtain ⟨f, status', hdue, heq⟩ := due_of_fate (hsub hfate)
      have hsame : file = r.before.roots.outcome g status := Option.some.inj hfile
      rw [hsame] at heq
      have hsource := congrArg WrittenFile.path heq
      have hrecord := congrArg WrittenFile.recordPath heq
      rw [OutputRoots.outcome_path, OutputRoots.outcome_path] at hsource
      rw [OutputRoots.outcome_recordPath, OutputRoots.outcome_recordPath] at hrecord
      rw [OutputRoots.Touches, hsource, hrecord] at htouches
      exact ⟨f, ⟨id, List.mem_map_of_mem hfate, hdue⟩, htouches⟩

/-- A model at which a round breaks off touches the places of the file that was due for it. -/
theorem kept_of_breaksOff {m m' : Machine} {e : IoError}
    (h : Processor.BreaksOff r.source (r.before.afterCourse r.source r.course) id m e m') :
    ∃ f, r.before.dueFile? r.source id = some f
      ∧ Kept (r.before.roots.Touches f m.disk) m.disk m'.disk := by
  cases h with
  | @failed model events hnew hmodel hstore =>
      have hleads :=
        leads_play_any (r.before.roots.store (generate r.source model r.before.options).file)
          (m.noted events)
      have hkept := OutputRoots.kept_store hleads
      have hend : ((r.before.roots.store (generate r.source model r.before.options).file).play
          (m.noted events)).2 = m' :=
        congrArg Prod.snd hstore
      rw [hend] at hkept
      refine ⟨_,
        Processor.dueFile?_eq_some.mpr ⟨fun hknown => hnew (List.mem_append_left _ hknown), model,
          hmodel, rfl⟩, hkept⟩

/-- **A round touches no places but those of the files that are due in it**,
even if it breaks off. -/
theorem kept (r : PlayedRound) :
    Kept (r.before.roots.TouchedBy (r.DueFor (r.before.ready r.source)) r.machine.disk)
      r.machine.disk r.run.2.disk := by
  have hpassed : ∀ {m : Machine}, Processor.Passes r.source r.before r.opened r.course.fates m →
      Kept (r.before.roots.TouchedBy (r.DueFor (r.course.fates.map Prod.fst)) r.machine.disk)
        r.machine.disk m.disk :=
    fun hpasses => hpasses.kept.mono fun x hx => touchedBy_due (List.Subset.refl _) hx
  cases r.runs with
  | complete _ hids hpasses => exact hids ▸ hpassed hpasses
  | @broken id e rest m₁ _ hids hpasses hbreaks =>
      obtain ⟨f, hdue, hkept⟩ := kept_of_breaksOff hbreaks
      have hearlier := hpassed hpasses
      rw [hids]
      refine (hearlier.mono fun x hx => hx.mono ?_ rfl).trans (hkept.mono fun x hx => ?_)
      · exact fun g ⟨id', hid', hg⟩ => ⟨id', List.mem_append_left _ hid', hg⟩
      · exact ⟨f, ⟨id, List.mem_append_right _ List.mem_cons_self, hdue⟩,
          (OutputRoots.touches_of_workingDirectory hearlier.workingDirectory).mp hx⟩

/-- The models that come after one in a round are known from the fates that come after its own. -/
theorem later_eq {ids earlier later before after : List DeclarationId} (hnodup : ids.Nodup)
    (h : ids = earlier ++ id :: later) (h' : ids = before ++ id :: after) : after = later := by
  have hnot : ∀ {xs ys : List DeclarationId}, ids = xs ++ id :: ys → id ∉ xs ∧ id ∉ ys := by
    rintro xs ys rfl
    have hparts := List.nodup_append.mp hnodup
    exact ⟨fun hmem => hparts.2.2 id hmem id List.mem_cons_self rfl,
      (List.nodup_cons.mp hparts.2.1).1⟩
  have heq := h'.symm.trans h
  rw [List.append_cons_inj_of_notMem (hnot h').1 (hnot h').2] at heq
  exact heq.2.2

/-- **A file that was stored in a round is in place then**, and from there on only the places of
later files that are due are touched. -/
theorem inPlace_of_stored {earlier later : List DeclarationId} (h : (id, file) ∈ r.stored)
    (hready : r.before.ready r.source = earlier ++ id :: later) :
    ∃ f status d, r.before.dueFile? r.source id = some f ∧ file = r.before.roots.outcome f status
      ∧ r.before.roots.InPlace f d ∧ d.workingDirectory = r.machine.disk.workingDirectory
      ∧ Kept (r.before.roots.TouchedBy (r.DueFor later) d) d r.run.2.disk := by
  obtain ⟨found, hfate⟩ := Course.mem_stored.mp h
  obtain ⟨before, after, hsplit⟩ := List.append_of_mem hfate
  obtain ⟨f, status, hdue, hfile⟩ := due_of_fate hfate
  have hids : r.course.fates.map Prod.fst = before.map Prod.fst ++ id :: after.map Prod.fst := by
    rw [hsplit, List.map_append, List.map_cons]
  have hnodup : (r.before.ready r.source).Nodup :=
    (nodup_ready_names r.source r.before.options.markers).of_map
  -- this much holds of the fates alone, whether the round breaks off behind them or not
  have hpassed : ∀ {m : Machine}, Processor.Passes r.source r.before r.opened r.course.fates m →
      ∃ d, r.before.roots.InPlace f d ∧ d.workingDirectory = r.machine.disk.workingDirectory
        ∧ Kept (r.before.roots.TouchedBy (r.DueFor (after.map Prod.fst)) d) d m.disk := by
    intro m hpasses
    rw [hsplit] at hpasses
    obtain ⟨g, status', d, hgenerates, _, hplace, hdirectory, hkept⟩ := hpasses.inPlace
    obtain rfl := hgenerates.unique (Processor.dueFile?_eq_some.mp hdue).2
    have hsub : after ⊆ r.course.fates := fun x hx => by
      rw [hsplit]
      exact List.mem_append_right _ (List.mem_cons_of_mem _ hx)
    exact ⟨d, hplace, hdirectory, hkept.mono fun x hx => touchedBy_due hsub hx⟩
  cases r.runs with
  | complete _ hready' hpasses =>
      obtain ⟨d, hplace, hdirectory, hkept⟩ := hpassed hpasses
      rw [later_eq hnodup hready (hready'.symm.trans hids)] at hkept
      exact ⟨f, status, d, hdue, hfile, hplace, hdirectory, hkept⟩
  | @broken failing e rest m₁ _ hready' hpasses hbreaks =>
      obtain ⟨d, hplace, hdirectory, hkept⟩ := hpassed hpasses
      obtain ⟨g, hg, hbroken⟩ := kept_of_breaksOff hbreaks
      rw [hids, List.append_assoc, List.cons_append] at hready'
      rw [← later_eq hnodup hready hready']
      refine ⟨f, status, d, hdue, hfile, hplace, hdirectory,
        (hkept.mono fun x hx => hx.mono ?_ rfl).trans (hbroken.mono fun x hx => ?_)⟩
      · exact fun g ⟨id', hid', hg⟩ => ⟨id', List.mem_append_left _ hid', hg⟩
      · exact ⟨g, ⟨failing, List.mem_append_right _ List.mem_cons_self, hg⟩,
          (OutputRoots.touches_of_workingDirectory hkept.workingDirectory).mp hx⟩

end PlayedRound

end WrapperGen
