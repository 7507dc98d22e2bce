import WrapperGen.Proofs.StoredFiles

/-!
# Generating again

Once a round has stored its files, another processor that runs the same round finds all of them in
place. It takes each model as the first one did, and of each file it sees that there is nothing to
do; so it returns the same, with every file unchanged, and leaves the disk as it was. This takes two
things: no two files of the first round were written to the same place, and what can be looked at is
not made to fail in the second.
-/

namespace WrapperGen

open Disk Script

/-- A fate as it is met when the file was in place already. -/
def Fate.atRest : Fate → Fate
  | stored file found => stored file.atRest found
  | fate => fate

namespace Fate

theorem isNew_atRest (fate : Fate) : fate.atRest.isNew = fate.isNew := by cases fate <;> rfl

theorem diagnostics_atRest (fate : Fate) : fate.atRest.diagnostics = fate.diagnostics := by
  cases fate <;> rfl

theorem file?_atRest (fate : Fate) : fate.atRest.file? = fate.file?.map WrittenFile.atRest := by
  cases fate <;> rfl

end Fate

/-- The fates of models when all files were in place already. -/
def fatesAtRest (fates : List (DeclarationId × Fate)) : List (DeclarationId × Fate) :=
  fates.map fun x => (x.1, x.2.atRest)

/-- Such a course reports the same, with every file unchanged. -/
theorem Course.result_atRest {fates : List (DeclarationId × Fate)} {found o : RoundOutcome}
    (hfound : found.written = []) (h : ({ fates := fates } : Course).result found = .ok o) :
    ({ fates := fatesAtRest fates } : Course).result found
      = .ok { o with written := o.written.map WrittenFile.atRest } := by
  rw [← Except.ok.inj h]
  simp only [Course.result, Course.stored, Course.diagnostics, fatesAtRest, List.flatMap_map,
    List.filterMap_map, List.map_filterMap, hfound, List.nil_append, Function.comp_def,
    Fate.diagnostics_atRest, Fate.file?_atRest, Option.map_map]

namespace OutputRoots

/-- Roots that differ in nothing but the mark of the running program. -/
structure Twin (roots roots' : OutputRoots) : Prop where
  sources : roots'.sources = roots.sources
  records : roots'.records = roots.records

variable {roots roots' : OutputRoots} {f : GeneratedFile}

/-! The mark plays no part in where files are stored, and in what is reported about them. -/

theorem Twin.sourcePath_eq (h : roots.Twin roots') : roots'.sourcePath f = roots.sourcePath f := by
  rw [sourcePath, sourcePath, h.sources]

theorem Twin.recordPath_eq (h : roots.Twin roots') : roots'.recordPath f = roots.recordPath f := by
  rw [recordPath, recordPath, h.records]

theorem Twin.recordOf_eq (h : roots.Twin roots') : roots'.recordOf f = roots.recordOf f := by
  rw [recordOf, recordOf, h.sourcePath_eq]

theorem Twin.outcome_eq (h : roots.Twin roots') (status : WriteStatus) :
    roots'.outcome f status = roots.outcome f status := by
  rw [outcome, outcome, h.sourcePath_eq, h.recordPath_eq, h.recordOf_eq]

theorem Twin.inPlace {d : Disk} (h : roots.Twin roots') (hplace : roots.InPlace f d) :
    roots'.InPlace f d := by
  refine ⟨?_, ?_⟩
  · rw [h.sourcePath_eq]
    exact hplace.source
  · rw [h.recordPath_eq, recordText, h.recordOf_eq]
    exact hplace.record

end OutputRoots

namespace Processor

/-- Processors that do the same work in the same places. -/
structure Twin (p p' : Processor) : Prop where
  options : p'.options = p.options
  handled : p'.handled = p.handled
  roots : p.roots.Twin p'.roots

variable {s : SymbolSource} {p p' : Processor} {id : DeclarationId} {m m' : Machine} {fate : Fate}
  {fates : List (DeclarationId × Fate)} {d d' : Disk} {unsure : DiskCall → Prop}

theorem Twin.settle (h : p.Twin p') (id : DeclarationId) (fate : Fate) :
    (p.settle s id fate).Twin (p'.settle s id fate.atRest) := by
  refine ⟨h.options, ?_, h.roots⟩
  rw [Processor.settle, Processor.settle, Fate.isNew_atRest, handleAll_handled,
    handleAll_handled, h.handled]

/-- **A model whose file is in place meets the same fate**, and nothing is changed. -/
theorem takeUp_again {answer : Except IoError Fate} (htwin : p.Twin p')
    (hmeets : Meets s p id m fate m')
    (hplace : ∀ f, fate.file?.isSome → p.Generates s id f → p.roots.InPlace f d)
    (hsure : ∀ c, looks c → ¬unsure c) (h : (p'.takeUp s id).Leads unsure d answer d') :
    answer = .ok fate.atRest ∧ d' = d := by
  rw [takeUp, htwin.handled, htwin.options] at h
  cases fate with
  | known =>
      cases hmeets with
      | known hknown =>
          rw [if_pos hknown] at h
          obtain ⟨_, d₁, hlog, h⟩ := leads_bind.mp h
          rw [leads_log.mp hlog] at h
          exact leads_pure.mp h
  | refused why =>
      cases hmeets with
      | refused hnew hmodel =>
          rw [if_neg hnew, hmodel] at h
          obtain ⟨_, d₁, hlog, h⟩ := leads_bind.mp h
          rw [leads_log.mp hlog] at h
          exact leads_pure.mp h
  | stored file found =>
      obtain ⟨model, status, hnew, hmodel, hfound, hfile, _, _⟩ := hmeets.of_stored
      -- this is the only fate that touches the disk, and its file is in place
      have hthere := htwin.roots.inPlace (hplace _ rfl ⟨model, hmodel, rfl⟩)
      have hrest : (Fate.stored file found).atRest
          = .stored (p.roots.outcome (generate s model p.options).file .unchanged)
              (generate s model p.options).diagnostics := by
        rw [Fate.atRest, hfile, hfound, OutputRoots.atRest_outcome]
      rw [if_neg hnew, hmodel] at h
      obtain ⟨_, d₁, hlog, h⟩ := leads_bind.mp h
      rw [leads_logAll.mp hlog] at h
      obtain ⟨answer', d₂, hstore, h⟩ := leads_bind.mp h
      obtain ⟨hanswer, hd⟩ := OutputRoots.store_again hthere hsure hstore
      rw [hanswer, hd, htwin.roots.outcome_eq] at h
      rw [hrest]
      exact leads_pure.mp h

/-- **A course whose files are in place is taken again** without a change. -/
theorem course_again {c : Course} (htwin : p.Twin p') (hpasses : Passes s p m fates m')
    (hplace : ∀ x ∈ fates, ∀ f, x.2.file?.isSome → p.Generates s x.1 f → p.roots.InPlace f d)
    (hsure : ∀ c, looks c → ¬unsure c)
    (h : (course s (fates.map Prod.fst) p').Leads unsure d c d') :
    c = { fates := fatesAtRest fates } ∧ d' = d := by
  induction hpasses generalizing p' c d' with
  | nil => exact leads_pure.mp h
  | @cons p m m₁ m' id fate fates hmeets _ ih =>
      rw [List.map_cons, course] at h
      obtain ⟨answer, d₁, htake, h⟩ := leads_bind.mp h
      obtain ⟨hanswer, hd₁⟩ := takeUp_again htwin hmeets (hplace _ List.mem_cons_self) hsure htake
      rw [hanswer, hd₁] at h
      dsimp only at h
      obtain ⟨c', d₂, hcourse, h⟩ := leads_bind.mp h
      obtain ⟨hc', hd₂⟩ :=
        ih (htwin.settle id fate) (fun x hx => hplace x (List.mem_cons_of_mem _ hx)) hcourse
      rw [hc', hd₂] at h
      exact leads_pure.mp h

/--
**Generating again changes nothing.**

Another processor with the same options and the same roots, which has handled the same models,
runs the round on the disk that a successful round has left. It succeeds with the same paths,
records, deferred models and diagnostics, every file is reported as unchanged, and the disk stays
as it is. In the first round any call may have failed; in the second any may but those that open
directories and read files.
-/
theorem regenerated_unchanged {r r' : PlayedRound} {o : RoundOutcome}
    (hoptions : r'.before.options = r.before.options)
    (hsources : r'.before.roots.sources = r.before.roots.sources)
    (hrecords : r'.before.roots.records = r.before.roots.records)
    (hhandled : r'.before.handled = r.before.handled) (hsource : r'.source = r.source)
    (hdisk : r'.machine.disk = r.run.2.disk) (hok : r.result = .ok o)
    (hsourcePlaces : (o.written.map fun file => r.run.2.disk.placeOf file.path).Nodup)
    (hrecordPlaces : (o.written.map fun file => r.run.2.disk.placeOf file.recordPath).Nodup)
    (hsure : (r'.before.runRound r'.source).FailsOnly (¬looks ·) r'.machine) :
    r'.result
      = .ok { o with written := o.written.map fun file => { file with status := .unchanged } }
      ∧ r'.run.2.disk = r'.machine.disk := by
  obtain ⟨hfailure, hids, hpasses⟩ := PlayedRound.passes_of_ok hok
  have htwin : r.before.Twin r'.before := ⟨hoptions, hhandled, hsources, hrecords⟩
  -- all files of the first round are in place
  have hplaces : ∀ p, r.run.2.disk.placeOf p = r.opened.disk.placeOf p := hpasses.kept.placeOf_eq
  rw [PlayedRound.written_eq_filesOf hok] at hsourcePlaces hrecordPlaces
  simp only [hplaces] at hsourcePlaces hrecordPlaces
  have hplace : ∀ x ∈ r.course.fates, ∀ f, x.2.file?.isSome → r.before.Generates r.source x.1 f →
      r.before.roots.InPlace f r'.machine.disk := by
    rintro ⟨id, fate⟩ hx f hfate hgenerates
    cases fate with
    | known => exact absurd hfate (by simp [Fate.file?])
    | refused why => exact absurd hfate (by simp [Fate.file?])
    | stored file found =>
        obtain ⟨g, status, hgenerates', _,
            hplace⟩ := hpasses.all_inPlace hsourcePlaces hrecordPlaces hx
        rw [hdisk, hgenerates.unique hgenerates']
        exact hplace
  -- so the second takes the same course
  have hleads : (r'.before.runRound r'.source).Leads
      (¬looks ·) r'.machine.disk r'.run.1 r'.run.2.disk :=
    leads_play _ _ hsure
  rw [runRound_eq, hsource] at hleads
  obtain ⟨_, d₁, hlog, hleads⟩ := leads_bind.mp hleads
  obtain ⟨c, d₂, hcourse, hleads⟩ := leads_bind.mp hleads
  obtain ⟨hresult, hend⟩ := leads_pure.mp hleads
  rw [leads_logAll.mp hlog] at hcourse
  have hready : r'.before.ready r.source = r.course.fates.map Prod.fst := by
    rw [hids, ready, ready, hoptions]
  rw [hready] at hcourse
  obtain ⟨hc, hd⟩ :=
    course_again htwin hpasses hplace (fun _ hlook hunsure => hunsure hlook) hcourse
  have hfound : r'.before.found r.source = r.before.found r.source := by rw [found, found, hoptions]
  have hfirst : ({ fates := r.course.fates } : Course).result (r.before.found r.source)
      = .ok o := by
    rw [← hok, r.result_eq, ← hfailure]
  rw [PlayedRound.result, hresult, hend, hc, hd, hfound]
  exact ⟨Course.result_atRest rfl hfirst, rfl⟩

/-! ## Two models in one package -/

/-- A source with two models in one package, whose wrappers have these names. -/
def twoModels (first second : String) : SymbolSource where
  table := {
    declarations := [
      ⟨⟨⟨"dev.example", ["First"]⟩, .plainClass, none⟩,
        .ofList [("Config", .ofList [("wrapperName", .string first)])], []⟩,
      ⟨⟨⟨"dev.example", ["Second"]⟩, .plainClass, none⟩,
        .ofList [("Config", .ofList [("wrapperName", .string second)])], []⟩]
    distinct := (by decide : ["dev.example.First", "dev.example.Second"].Nodup) }

theorem twoModels_isReady (first second : String) {id : DeclarationId}
    (h : id ∈ [(⟨0⟩ : DeclarationId), ⟨1⟩]) :
    (twoModels first second).isReady "Nest" id = true := by
  rcases List.mem_pair.mp h with rfl | rfl
  · rw [SymbolSource.isReady, SymbolSource.metFrom_of_none rfl, SymbolSource.metFrom]
    rfl
  · rw [SymbolSource.isReady, SymbolSource.metFrom_of_none rfl, SymbolSource.metFrom]
    rfl

theorem twoModels_ready (first second : String) :
    freshProcessor.ready (twoModels first second) = [⟨0⟩, ⟨1⟩] := by
  have hmodels : models (twoModels first second) ⟨"Config", "Nest", "Hook"⟩ = [⟨0⟩, ⟨1⟩] := rfl
  rw [ready, show freshProcessor.options.markers = ⟨"Config", "Nest", "Hook"⟩ from rfl,
    scan, hmodels]
  exact List.filter_eq_self.mpr fun id hid => twoModels_isReady first second hid

/-- The models of the source. -/
def firstModel (name : String) : ConfigModel := ⟨⟨0⟩, ⟨"dev.example", ["First"]⟩, name, false, none⟩

def secondModel (name : String) : ConfigModel :=
  ⟨⟨1⟩, ⟨"dev.example", ["Second"]⟩, name, false, none⟩

/-- The files that are due for them. -/
def twoFiles (first second : String) : List GeneratedFile :=
  [firstModel first, secondModel second].map fun model =>
    (generate (twoModels first second) model freshProcessor.options).file

/-- A round over the source, on an empty disk. -/
def twoRound (first second : String) : PlayedRound :=
  ⟨freshProcessor, twoModels first second, { disk := {} }⟩

theorem buildModel_twoModels {first second name : String} (hname : name ≠ "") {id : DeclarationId}
    {info : DeclarationInfo} {arguments : Arguments}
    (hinfo : (twoModels first second).declaration? id = some info)
    (harguments : (twoModels first second).arguments? (.declaration id) "Config" = some arguments)
    (htext : arguments.text? "wrapperName" = some name)
    (hflag : arguments.flag? "defaultHook" = none) :
    buildModel (twoModels first second) id freshProcessor.options.markers
      = .ok ⟨id, info.name, name, false, info.source⟩ := by
  unfold buildModel
  rw [hinfo]
  dsimp only
  rw [show freshProcessor.options.markers.config = "Config" from rfl, harguments,
    Option.getD_some, htext, hflag]
  split
  · exact absurd ‹some name = none› (by simp)
  · exact absurd (Option.some.inj ‹some name = some ""›) hname
  · rename_i wrapperName _ heq
    rw [Option.some.inj heq]
    rfl

theorem buildModel_firstOfTwo {first second : String} (h : first ≠ "") :
    buildModel (twoModels first second) ⟨0⟩ freshProcessor.options.markers
      = .ok (firstModel first) := by
  have hinfo : (twoModels first second).declaration? ⟨0⟩
      = some ⟨⟨"dev.example", ["First"]⟩, .plainClass, none⟩ := rfl
  exact buildModel_twoModels h hinfo rfl rfl rfl

theorem buildModel_secondOfTwo {first second : String} (h : second ≠ "") :
    buildModel (twoModels first second) ⟨1⟩ freshProcessor.options.markers
      = .ok (secondModel second) := by
  have hinfo : (twoModels first second).declaration? ⟨1⟩
      = some ⟨⟨"dev.example", ["Second"]⟩, .plainClass, none⟩ := rfl
  exact buildModel_twoModels h hinfo rfl rfl rfl

/-- The files that are due are those of the models. -/
theorem due_twoModels {first second : String} (hfirst : first ≠ "") (hsecond : second ≠ "") :
    freshProcessor.due (twoModels first second) (freshProcessor.ready (twoModels first second))
      = twoFiles first second := by
  rw [twoModels_ready, due, List.filterMap_cons, List.filterMap_cons, dueFile?, dueFile?,
    buildModel_firstOfTwo hfirst, buildModel_secondOfTwo hsecond]
  rfl

/-- A round over the source succeeds if the paths are tidy. -/
theorem twoRound_result {first second : String} {sources records : List Path} (hfirst : first ≠ "")
    (hsecond : second ≠ "")
    (hsources : (twoFiles first second).map freshProcessor.roots.sourcePath = sources)
    (hrecords : (twoFiles first second).map freshProcessor.roots.recordPath = records)
    (htidy : ∀ path ∈ sources ++ records, Disk.Tidy "1" path) :
    ∃ o, (twoRound first second).result = .ok o := by
  refine PlayedRound.result_of_orderly orderly_empty rfl fun f hf => ?_
  have hmem : f ∈ twoFiles first second := by
    rw [← due_twoModels hfirst hsecond]
    exact hf
  subst hsources hrecords
  exact ⟨htidy _ (List.mem_append_left _ (List.mem_map_of_mem hmem)),
    htidy _ (List.mem_append_right _ (List.mem_map_of_mem hmem))⟩

/-- A first round over two models with wrappers of their own, and one over them by another
processor, which is run by another program. -/
def firstRound : PlayedRound := twoRound "FirstConfig" "SecondConfig"

def otherProcessor : Processor := { freshProcessor with roots := ⟨⟨"sources"⟩, ⟨"records"⟩, "2"⟩ }

def secondRound : PlayedRound :=
  ⟨otherProcessor, twoModels "FirstConfig" "SecondConfig", { disk := firstRound.run.2.disk }⟩

theorem sourcePaths_first :
    (twoFiles "FirstConfig" "SecondConfig").map freshProcessor.roots.sourcePath
    = [⟨"sources/dev/example/FirstConfig.kt"⟩, ⟨"sources/dev/example/SecondConfig.kt"⟩] := rfl

theorem recordPaths_first :
    (twoFiles "FirstConfig" "SecondConfig").map freshProcessor.roots.recordPath
    = [⟨"records/dev.example.FirstConfig.json"⟩, ⟨"records/dev.example.SecondConfig.json"⟩] := rfl

theorem firstRound_result : ∃ o, firstRound.result = .ok o :=
  twoRound_result (by decide) (by decide) sourcePaths_first recordPaths_first (by decide)

/-- The files of the first round have different places. -/
theorem nodup_firstPlaces {o : RoundOutcome} (h : firstRound.result = .ok o) :
    (o.written.map fun file => firstRound.run.2.disk.placeOf file.path).Nodup
      ∧ (o.written.map fun file => firstRound.run.2.disk.placeOf file.recordPath).Nodup := by
  have hplaces : ∀ p, firstRound.run.2.disk.placeOf p = endOf [] p.names :=
    placeOf_of_root firstRound.kept.workingDirectory
  have hdue : firstRound.before.due firstRound.source (firstRound.before.ready firstRound.source)
      = twoFiles "FirstConfig" "SecondConfig" := due_twoModels (by decide) (by decide)
  obtain ⟨hsources, hrecords⟩ := PlayedRound.written_paths h
  rw [hdue] at hsources hrecords
  replace hsources := hsources.trans sourcePaths_first
  replace hrecords := hrecords.trans recordPaths_first
  simp only [hplaces]
  rw [← Function.comp_def (fun p : Path => endOf [] p.names) WrittenFile.path,
    ← Function.comp_def (fun p : Path => endOf [] p.names) WrittenFile.recordPath, ← List.map_map,
    ← List.map_map, hsources, hrecords]
  exact ⟨by decide, by decide⟩

theorem regenerated_unchanged_twoModels : ∃ o, firstRound.result = .ok o
    ∧ otherProcessor.handled = freshProcessor.handled
    ∧ secondRound.machine.disk = firstRound.run.2.disk
    ∧ (o.written.map fun file => firstRound.run.2.disk.placeOf file.path).Nodup
    ∧ (o.written.map fun file => firstRound.run.2.disk.placeOf file.recordPath).Nodup
    ∧ (otherProcessor.runRound secondRound.source).FailsOnly (¬looks ·) secondRound.machine
    ∧ secondRound.result
      = .ok { o with written := o.written.map fun file => { file with status := .unchanged } }
    ∧ secondRound.run.2.disk = secondRound.machine.disk := by
  obtain ⟨o, hok⟩ := firstRound_result
  obtain ⟨hsources, hrecords⟩ := nodup_firstPlaces hok
  have hsure : (otherProcessor.runRound secondRound.source).FailsOnly
      (¬looks ·) secondRound.machine :=
    failsOnly_faultless _ _ rfl
  exact ⟨o, hok, rfl, rfl, hsources, hrecords, hsure,
    regenerated_unchanged (r := firstRound) rfl rfl rfl rfl rfl rfl hok hsources hrecords hsure⟩

end Processor

end WrapperGen
