import WrapperGen.Proofs.OutputPaths
import WrapperGen.Proofs.Regenerating

/-!
# Models that share an output

Nothing keeps two models from having wrappers of the same name in the same package. In a round over
both, the file of the first is stored and then replaced by that of the second, and so is its record;
both are reported as written. The two records are the same already when the dotted names of the
wrappers are, as those of `C` in the package `a.b` and of `b.C` in the package `a`. No file is lost
in another way (`shared_iff_same_wrapper`).
-/

namespace WrapperGen

open Disk

/-- The qualified name of the wrapper of a model. -/
def ConfigModel.wrapperClass (m : ConfigModel) : String :=
  if m.package = "" then m.wrapperName else m.package ++ "." ++ m.wrapperName

/-- Two models whose wrappers have the same name in the same package. -/
structure ConfigModel.SameWrapper (a b : ConfigModel) : Prop where
  package : a.package = b.package
  wrapperName : a.wrapperName = b.wrapperName

namespace PlayedRound

variable {r : PlayedRound} {o : RoundOutcome} {id : DeclarationId}

/-- The table of a round is loaded, and the wrappers that are generated in
it have names for files. -/
structure NamesFiles (r : PlayedRound) : Prop where
  loaded : r.source.table.Loaded
  noSlash : ∀ id model, buildModel r.source id r.before.options.markers = .ok model →
    '/' ∉ model.wrapperName.toList

/-- The file that a round generates for a model. -/
def fileOf (r : PlayedRound) (model : ConfigModel) : GeneratedFile :=
  (generate r.source model r.before.options).file

theorem NamesFiles.named (h : r.NamesFiles) {model : ConfigModel}
    (hmodel : buildModel r.source id r.before.options.markers = .ok model) :
    (r.fileOf model).Named model.name :=
  named_of_buildModel h.loaded hmodel (h.noSlash id model hmodel)

/-- A file that is due is that of a model. -/
theorem model_of_due {f : GeneratedFile} (h : r.before.dueFile? r.source id = some f) :
    ¬r.Knew id ∧ ∃ model, buildModel r.source id r.before.options.markers = .ok model
      ∧ f = r.fileOf model :=
  Processor.dueFile?_eq_some.mp h

/-- In a round that returns an outcome, the file of a new model is stored. -/
theorem stored_of_ok {model : ConfigModel} (h : r.result = .ok o)
    (hready : id ∈ r.before.ready r.source) (hnew : ¬r.Knew id)
    (hmodel : buildModel r.source id r.before.options.markers = .ok model) :
    ∃ file, (id, file) ∈ r.stored := by
  obtain ⟨_, hids, _⟩ := passes_of_ok h
  rw [← hids] at hready
  rcases exactlyOne hready with ⟨hknew, _⟩ | ⟨_, hrefused, _⟩ | ⟨_, _, hstored⟩
  · exact absurd hknew hnew
  · obtain ⟨d, hd⟩ := buildModel_of_refused hrefused
    exact absurd (hd.symm.trans hmodel) (by simp)
  · obtain ⟨x, hx, rfl⟩ := List.mem_map.mp hstored
    exact ⟨x.2, hx⟩

end PlayedRound

namespace Processor

/--
**Two models of a round share an output exactly when their wrappers share a name, and no
file is lost otherwise.**

Of the files that are stored in a round, two have the same source path when their wrappers have the
same name in the same package, and the same record path when their wrappers have the same qualified
name. A source is in place at the end unless the wrapper of a later model has the same name in the
same package, and a record is in place unless the wrapper of a later model has the same qualified
name. This is said of every round, also of those that break off.
-/
theorem shared_iff_same_wrapper {r : PlayedRound} {id : DeclarationId} {file : WrittenFile}
    {earlier later : List DeclarationId} (hnames : r.NamesFiles) (hstored : (id, file) ∈ r.stored)
    (hready : r.before.ready r.source = earlier ++ id :: later) :
    ∃ a, buildModel r.source id r.before.options.markers = .ok a
      ∧ (∀ x ∈ r.stored, ∃ b, buildModel r.source x.1 r.before.options.markers = .ok b
        ∧ (file.path = x.2.path ↔ a.SameWrapper b)
        ∧ (file.recordPath = x.2.recordPath ↔ a.wrapperClass = b.wrapperClass))
      ∧ ((∀ id' ∈ later, ∀ b, ¬r.Knew id' →
        buildModel r.source id' r.before.options.markers = .ok b →
          ¬a.SameWrapper b) →
        r.run.2.disk.Holds file.path (r.fileOf a).content)
      ∧ ((∀ id' ∈ later, ∀ b, ¬r.Knew id' →
        buildModel r.source id' r.before.options.markers = .ok b →
          a.wrapperClass ≠ b.wrapperClass) →
        r.run.2.disk.Holds file.recordPath (r.before.roots.recordText (r.fileOf a))) := by
  obtain ⟨f, status, d, hdue, rfl, hplace, _, hkept⟩ := r.inPlace_of_stored hstored hready
  obtain ⟨_, a, ha, rfl⟩ := PlayedRound.model_of_due hdue
  have hf := hnames.named ha
  rw [OutputRoots.outcome_path, OutputRoots.outcome_recordPath]
  -- wrappers are named without slashes, so paths can be compared by their names
  have hsource : ∀ {id' b}, buildModel r.source id' r.before.options.markers = .ok b →
      (r.before.roots.sourcePath (r.fileOf a) = r.before.roots.sourcePath (r.fileOf b)
        ↔ a.SameWrapper b) :=
    fun hb => (OutputRoots.sourcePath_eq_iff hf (hnames.named hb)).trans
      ⟨fun h => ⟨h.1, h.2⟩, fun h => ⟨h.package, h.wrapperName⟩⟩
  have hrecord : ∀ {id' b}, buildModel r.source id' r.before.options.markers = .ok b →
      (r.before.roots.recordPath (r.fileOf a) = r.before.roots.recordPath (r.fileOf b)
        ↔ a.wrapperClass = b.wrapperClass) :=
    fun hb => OutputRoots.recordPath_eq_iff hf (hnames.named hb)
  refine ⟨a, ha, fun ⟨id', file'⟩ hx => ?_, fun hapart => ?_, fun hapart => ?_⟩
  · obtain ⟨found, hfate⟩ := Course.mem_stored.mp hx
    obtain ⟨g, status', hdue', rfl⟩ := PlayedRound.due_of_fate hfate
    obtain ⟨_, b, hb, rfl⟩ := PlayedRound.model_of_due hdue'
    rw [OutputRoots.outcome_path, OutputRoots.outcome_recordPath]
    exact ⟨b, hb, hsource hb, hrecord hb⟩
  · -- only a file that is due later can take the place of the source
    refine hplace.source_kept hkept ?_
    rintro g ⟨id', hid', hg⟩ heq
    obtain ⟨hnew, b, hb, rfl⟩ := PlayedRound.model_of_due hg
    exact hapart id' hid' b hnew hb ((hsource hb).mp
      ((OutputRoots.placeOf_sourcePath_eq_iff hf (hnames.named hb)).mp heq))
  · -- and in the same way that of the record
    refine hplace.record_kept hkept ?_
    rintro g ⟨id', hid', hg⟩ heq
    obtain ⟨hnew, b, hb, rfl⟩ := PlayedRound.model_of_due hg
    exact hapart id' hid' b hnew hb ((hrecord hb).mp
      ((OutputRoots.placeOf_recordPath_eq_iff hf (hnames.named hb)).mp heq))

/-! ## Two models in one package -/

/-- The source with two models is loaded from a dump. -/
theorem loaded_twoModels (first second : String) : (twoModels first second).table.Loaded := by
  have hfirst : ClassName.read "dev.example.First" = .ok ⟨"dev.example", ["First"]⟩ := by rfl
  have hsecond : ClassName.read "dev.example.Second" = .ok ⟨"dev.example", ["Second"]⟩ := by rfl
  let dump (name wrapper : String) : DeclarationDump :=
    { name := name
      annotations := .ofList [("Config", .ofList [("wrapperName", .string wrapper)])] }
  refine SymbolTable.loaded_iff.mpr
    ⟨[dump "dev.example.First" first, dump "dev.example.Second" second], .cons ?_ (.cons ?_ .nil)⟩
  · rw [DeclarationEntry.ofDump, hfirst]
    rfl
  · rw [DeclarationEntry.ofDump, hsecond]
    rfl

/-- A model of the source is one of the two. -/
theorem model_of_twoModels {first second : String} (hfirst : first ≠ "") (hsecond : second ≠ "")
    {id : DeclarationId} {model : ConfigModel}
    (h : buildModel (twoModels first second) id freshProcessor.options.markers = .ok model) :
    (id = ⟨0⟩ ∧ model = firstModel first) ∨ (id = ⟨1⟩ ∧ model = secondModel second) := by
  obtain ⟨i⟩ := id
  match i with
  | 0 => exact Or.inl ⟨rfl, Except.ok.inj (h.symm.trans (buildModel_firstOfTwo hfirst))⟩
  | 1 => exact Or.inr ⟨rfl, Except.ok.inj (h.symm.trans (buildModel_secondOfTwo hsecond))⟩
  | i + 2 =>
      have hnone : (twoModels first second).declaration? ⟨i + 2⟩ = none := by
        unfold SymbolSource.declaration? SymbolSource.entry?
        rfl
      unfold buildModel at h
      rw [hnone] at h
      exact absurd h (by simp)

theorem namesFiles_twoRound {first second : String} (hfirst : first ≠ "") (hsecond : second ≠ "")
    (hslash : '/' ∉ first.toList) (hslash' : '/' ∉ second.toList) :
    (twoRound first second).NamesFiles := by
  refine ⟨loaded_twoModels first second, fun id model hmodel => ?_⟩
  rcases model_of_twoModels hfirst hsecond hmodel with ⟨_, rfl⟩ | ⟨_, rfl⟩
  · exact hslash
  · exact hslash'

/-- The models of the round in order. -/
theorem twoRound_ready (first second : String) :
    (twoRound first second).before.ready (twoRound first second).source = [⟨0⟩, ⟨1⟩] :=
  twoModels_ready first second

theorem shared_iff_same_wrapper_twoModels :
    ∃ file, firstRound.NamesFiles ∧ (⟨0⟩, file) ∈ firstRound.stored
    ∧ firstRound.before.ready firstRound.source = [] ++ ⟨0⟩ :: [⟨1⟩]
    ∧ firstRound.run.2.disk.Holds file.path
      (firstRound.fileOf (firstModel "FirstConfig")).content := by
  have hnames : firstRound.NamesFiles :=
    namesFiles_twoRound (by decide) (by decide) (by decide) (by decide)
  have hready : firstRound.before.ready firstRound.source = [] ++ ⟨0⟩ :: [⟨1⟩] := twoRound_ready _ _
  obtain ⟨o, hok⟩ := firstRound_result
  obtain ⟨file, hstored⟩ :=
    PlayedRound.stored_of_ok hok (hready ▸ List.mem_cons_self) List.not_mem_nil
      (buildModel_firstOfTwo (by decide))
  obtain ⟨a, ha, _, hsource, _⟩ := shared_iff_same_wrapper hnames hstored hready
  obtain rfl := Except.ok.inj (ha.symm.trans (buildModel_firstOfTwo (by decide)))
  refine ⟨file, hnames, hstored, hready, hsource fun id hid b _ hb hsame => ?_⟩
  obtain rfl := List.mem_singleton.mp hid
  obtain rfl := Except.ok.inj (hb.symm.trans (buildModel_secondOfTwo (by decide)))
  exact absurd hsame.wrapperName (by decide)

/-! ## Two wrappers of the same name -/

/-- A round over two models in one package whose wrappers have the same name. -/
def sharedRound : PlayedRound := twoRound "SharedConfig" "SharedConfig"

theorem sourcePaths_shared :
    (twoFiles "SharedConfig" "SharedConfig").map freshProcessor.roots.sourcePath
    = [⟨"sources/dev/example/SharedConfig.kt"⟩, ⟨"sources/dev/example/SharedConfig.kt"⟩] := rfl

theorem recordPaths_shared :
    (twoFiles "SharedConfig" "SharedConfig").map freshProcessor.roots.recordPath
    = [⟨"records/dev.example.SharedConfig.json"⟩, ⟨"records/dev.example.SharedConfig.json"⟩] := rfl

theorem sharedRound_result : ∃ o, sharedRound.result = .ok o :=
  twoRound_result (by decide) (by decide) sourcePaths_shared recordPaths_shared (by decide)

/-- The models have no members. -/
theorem content_of_twoModels {first second : String} {model : ConfigModel}
    (h : model.declaration ∈ [(⟨0⟩ : DeclarationId), ⟨1⟩]) :
    ((twoRound first second).fileOf model).content = Wrapper.emit model [] {} := by
  have hcollected : collectModel (twoModels first second) model freshProcessor.options = {} := by
    have hmembers : Collector.members ⟨twoModels first second, freshProcessor.options.markers,
        ⟨model.package, freshProcessor.options.namespaces⟩⟩ model.declaration = [] := by
      rcases List.mem_pair.mp h with h | h <;> rw [h] <;> rfl
    rw [collectModel, Collector.collect, Collector.collectFrom, hmembers, Collector.collectMembers]
  have hcontent : ((twoRound first second).fileOf model).content
      = Wrapper.emit model
        (collectModel (twoModels first second) model freshProcessor.options).fields
          (collectModel (twoModels first second) model freshProcessor.options).nested := rfl
  rw [hcontent, hcollected]

/-- Two wrappers of the same name show which models they are of. -/
theorem emit_ne (name : String) :
    Wrapper.emit (firstModel name) [] {} ≠ Wrapper.emit (secondModel name) [] {} := by
  intro h
  simp [Wrapper.emit, Wrapper.file, Wrapper.wrapperClass, firstModel, secondModel,
    ConfigModel.package, Wrapper.imports, Block.render, Block.allLines, Block.lines,
    ClassName.nested, Text.joined, String.join_cons, String.append_assoc, String.append_right_inj,
    Block.indented] at h

/--
**A file that was stored can be lost in the same round.** Two models of one package, whose wrappers
have the same name, are both reported as written, at the same paths. What is there in the end is the
wrapper of the second; that of the first is gone.
-/
theorem shared_output_is_lost : ∃ o, sharedRound.before.handled = [] ∧ sharedRound.NamesFiles
    ∧ sharedRound.result = .ok o
    ∧ o.written.map WrittenFile.path
      = [⟨"sources/dev/example/SharedConfig.kt"⟩, ⟨"sources/dev/example/SharedConfig.kt"⟩]
    ∧ o.written.map WrittenFile.recordPath
      = [⟨"records/dev.example.SharedConfig.json"⟩, ⟨"records/dev.example.SharedConfig.json"⟩]
    ∧ (∀ x ∈ sharedRound.stored, sharedRound.run.2.disk.Holds x.2.path
        (sharedRound.fileOf (secondModel "SharedConfig")).content)
    ∧ (sharedRound.fileOf (firstModel "SharedConfig")).content
      ≠ (sharedRound.fileOf (secondModel "SharedConfig")).content := by
  obtain ⟨o, hok⟩ := sharedRound_result
  have hnames : sharedRound.NamesFiles :=
    namesFiles_twoRound (by decide) (by decide) (by decide) (by decide)
  have hready : sharedRound.before.ready sharedRound.source = [⟨0⟩] ++ ⟨1⟩ :: [] :=
    twoRound_ready _ _
  have hdue : sharedRound.before.due sharedRound.source
      (sharedRound.before.ready sharedRound.source)
      = twoFiles "SharedConfig" "SharedConfig" := due_twoModels (by decide) (by decide)
  obtain ⟨hsources, hrecords⟩ := PlayedRound.written_paths hok
  rw [hdue] at hsources hrecords
  replace hsources := hsources.trans sourcePaths_shared
  replace hrecords := hrecords.trans recordPaths_shared
  -- the second file stays where it was stored
  obtain ⟨file, hstored⟩ := PlayedRound.stored_of_ok hok (by rw [hready]; simp) List.not_mem_nil
    (buildModel_secondOfTwo (by decide))
  obtain ⟨f, status, d, hf, rfl, hplace, _, hkept⟩ := PlayedRound.inPlace_of_stored hstored hready
  obtain ⟨_, model, hmodel, rfl⟩ := PlayedRound.model_of_due hf
  obtain rfl := Except.ok.inj (hmodel.symm.trans (buildModel_secondOfTwo (by decide)))
  have hheld := hplace.source_kept hkept fun g ⟨id', hid', _⟩ => absurd hid' List.not_mem_nil
  refine ⟨o, rfl, hnames, hok, hsources, hrecords, fun x hx => ?_, ?_⟩
  · have hpaths : ∀ y ∈ sharedRound.stored, y.2.path = ⟨"sources/dev/example/SharedConfig.kt"⟩ := by
      intro y hy
      have hmem : y.2.path ∈ o.written.map WrittenFile.path := by
        rw [(PlayedRound.completed hok).written, List.map_map]
        exact List.mem_map_of_mem hy
      rw [hsources] at hmem
      exact (List.mem_pair.mp hmem).elim id id
    rw [hpaths x hx, ← hpaths _ hstored, OutputRoots.outcome_path]
    exact hheld
  · rw [sharedRound, content_of_twoModels (by decide), content_of_twoModels (by decide)]
    exact emit_ne _

end Processor

end WrapperGen
