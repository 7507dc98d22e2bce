import WrapperGen.Proofs.SharedOutputs

/-!
# Outputs and their roots

A source is meant to be below the root of the sources, and a record below that of the records. So it
is for every wrapper whose name is a name for a file; and where all wrappers of a round have such
names, the round changes no file that is not below the roots (`outputs_below_roots`). But the name
of a wrapper can be any text. With enough steps back in it, or with a slash in front, the source and
the record are stored anywhere.
-/

namespace WrapperGen

namespace Disk

/-- A place is below another. -/
def Below (root x : Location) : Prop := ∃ rest, rest ≠ [] ∧ x = root ++ rest

variable {d : Disk} {process : String} {path : Path} {root x : Location}

theorem not_below_of_ne {a b : String} (h : a ≠ b) : ¬Below [a] [b] := by
  rintro ⟨rest, -, heq⟩
  exact h (List.cons.inj heq).1.symm

/-- A file that is written touches places next to it. -/
theorem WrittenAt.below {steps : List String} {last : String} (h : d.WrittenAt process path x)
    (hplace : d.placeOf path = root ++ (steps ++ [last])) : Below root x := by
  obtain ⟨name, hname, hx | hx⟩ := h
  · exact ⟨steps ++ [last], by simp, hx.trans hplace⟩
  · rw [← placeIn_of_fileName? hname, placeIn, ← List.append_assoc] at hplace
    have hdirectory : d.placeOf path.directory = root ++ steps := (List.append_inj' hplace rfl).1
    exact ⟨steps ++ [temporaryName name process], by simp,
      by rw [hx, placeIn, hdirectory, List.append_assoc]⟩

end Disk

open Disk

/-- **Storing a file touches places below the roots only**, if the file is named like one. -/
theorem OutputRoots.Touches.below {roots : OutputRoots} {f : GeneratedFile} {n : ClassName}
    {d : Disk} {x : Location} (hf : f.Named n) (h : roots.Touches f d x) :
    Below (d.placeOf roots.sources) x ∨ Below (d.placeOf roots.records) x := by
  rcases h with hsource | hrecord
  · exact Or.inl (hsource.below (placeOf_sourcePath hf))
  · have hplace : d.placeOf (roots.recordPath f)
        = d.placeOf roots.records ++ ([] ++ [f.recordName]) :=
      placeOf_recordPath hf
    exact Or.inr (hrecord.below hplace)

namespace Processor

/--
**What a round writes is below its roots, as long as the wrappers have names for files.**

The source of a model whose wrapper has a name without a slash is one step beyond the directories of
its package, and its record is one step beyond the root of the records; none of these steps leads
back. If all wrappers of the round have such names, all files that are not below the roots are as
they were, whatever fails.
-/
theorem outputs_below_roots {r : PlayedRound} (hloaded : r.source.table.Loaded) :
    (∀ id model, buildModel r.source id r.before.options.markers = .ok model →
      '/' ∉ model.wrapperName.toList →
        (r.before.roots.sourcePath (r.fileOf model)).names
            = r.before.roots.sources.names
              ++ (model.name.packageSegments ++ [model.wrapperName ++ ".kt"])
          ∧ (r.before.roots.sourcePath (r.fileOf model)).isAbsolute
            = r.before.roots.sources.isAbsolute
          ∧ ".." ∉ model.name.packageSegments ++ [model.wrapperName ++ ".kt"]
          ∧ (r.before.roots.recordPath (r.fileOf model)).names
            = r.before.roots.records.names ++ [model.wrapperClass ++ ".json"]
          ∧ (r.before.roots.recordPath (r.fileOf model)).isAbsolute
            = r.before.roots.records.isAbsolute
          ∧ model.wrapperClass ++ ".json" ≠ "..")
      ∧ (r.NamesFiles → ∀ x, ¬Below (r.machine.disk.placeOf r.before.roots.sources) x →
        ¬Below (r.machine.disk.placeOf r.before.roots.records) x →
        ∀ content, r.run.2.disk.at? x = some (.file content)
          ↔ r.machine.disk.at? x = some (.file content)) := by
  refine ⟨fun id model hmodel hname => ?_, fun hnames x hsources hrecords => r.kept.file_iff x ?_⟩
  · have hf : (r.fileOf model).Named model.name := named_of_buildModel hloaded hmodel hname
    obtain ⟨hsource, habs⟩ := OutputRoots.names_sourcePath r.before.roots hf
    obtain ⟨hrecord, habs'⟩ := OutputRoots.names_recordPath r.before.roots hf
    rw [GeneratedFile.recordName_eq] at hrecord
    have hlast := hf.recordName.2.2
    rw [GeneratedFile.recordName_eq] at hlast
    exact ⟨hsource, habs, hf.not_dots, hrecord, habs', hlast⟩
  · -- a round touches only places of its files, and these lie below the roots
    rintro ⟨f, ⟨id, _, hdue⟩, htouches⟩
    obtain ⟨_, model, hmodel, rfl⟩ := PlayedRound.model_of_due hdue
    exact (htouches.below (hnames.named hmodel)).elim hsources hrecords

theorem outputs_below_roots_twoModels : firstRound.source.table.Loaded
    ∧ buildModel firstRound.source ⟨0⟩ firstRound.before.options.markers
      = .ok (firstModel "FirstConfig")
    ∧ (firstRound.before.roots.sourcePath (firstRound.fileOf (firstModel "FirstConfig"))).names
      = ["sources", "dev", "example", "FirstConfig.kt"]
    ∧ firstRound.NamesFiles ∧ ¬Below ["sources"] ["FirstConfig.kt"]
    ∧ ¬Below ["records"] ["FirstConfig.kt"]
    ∧ ∀ content, firstRound.run.2.disk.at? ["FirstConfig.kt"] ≠ some (.file content) := by
  have hloaded : firstRound.source.table.Loaded := loaded_twoModels _ _
  have hnames : firstRound.NamesFiles :=
    namesFiles_twoRound (by decide) (by decide) (by decide) (by decide)
  have hmodel : buildModel firstRound.source ⟨0⟩ firstRound.before.options.markers
      = .ok (firstModel "FirstConfig") :=
    buildModel_firstOfTwo (by decide)
  obtain ⟨hpaths, hfiles⟩ := outputs_below_roots hloaded
  have hsources : ¬Below ["sources"] ["FirstConfig.kt"] := not_below_of_ne (by decide)
  have hrecords : ¬Below ["records"] ["FirstConfig.kt"] := not_below_of_ne (by decide)
  refine ⟨hloaded, hmodel, (hpaths _ _ hmodel (by decide)).1, hnames, hsources, hrecords,
    fun content hfile => ?_⟩
  exact absurd ((hfiles hnames _ hsources hrecords content).mp hfile)
    (by simp [firstRound, twoRound, at?])

/-! ## A wrapper that leads back -/

/-- A round over two models; the name of the second wrapper leads back to where the roots are. -/
def leadingBack : PlayedRound := twoRound "FirstConfig" "../../../Outside"

theorem sourcePaths_leadingBack :
    (twoFiles "FirstConfig" "../../../Outside").map freshProcessor.roots.sourcePath
    = [⟨"sources/dev/example/FirstConfig.kt"⟩, ⟨"sources/dev/example/../../../Outside.kt"⟩] := rfl

theorem recordPaths_leadingBack :
    (twoFiles "FirstConfig" "../../../Outside").map freshProcessor.roots.recordPath
    = [⟨"records/dev.example.FirstConfig.json"⟩, ⟨"records/dev.example.../../../Outside.json"⟩] :=
  rfl

theorem leadingBack_result : ∃ o, leadingBack.result = .ok o :=
  twoRound_result (by decide) (by decide) sourcePaths_leadingBack
    recordPaths_leadingBack (by decide)

/--
**An output can be stored outside of both roots.** The marker of a model of a loaded table names its
wrapper `../../../Outside`; the model is accepted, and in a round that succeeds its source and its
record are stored beside the roots, where there was nothing before.
-/
theorem output_beside_roots : leadingBack.source.table.Loaded
    ∧ buildModel leadingBack.source ⟨1⟩ leadingBack.before.options.markers
      = .ok (secondModel "../../../Outside")
    ∧ (∃ o, leadingBack.result = .ok o)
    ∧ (leadingBack.before.roots.sourcePath
      (leadingBack.fileOf (secondModel "../../../Outside"))).names
      = ["sources", "dev", "example", "..", "..", "..", "Outside.kt"]
    ∧ ∀ x ∈ [["Outside.kt"], ["Outside.json"]],
      ¬Below (leadingBack.machine.disk.placeOf leadingBack.before.roots.sources) x
        ∧ ¬Below (leadingBack.machine.disk.placeOf leadingBack.before.roots.records) x
        ∧ leadingBack.machine.disk.at? x = none
        ∧ ∃ content, leadingBack.run.2.disk.at? x = some (.file content) := by
  have hmodel : buildModel leadingBack.source ⟨1⟩ leadingBack.before.options.markers
      = .ok (secondModel "../../../Outside") := buildModel_secondOfTwo (by decide)
  have hready : leadingBack.before.ready leadingBack.source = [⟨0⟩] ++ ⟨1⟩ :: [] :=
    twoRound_ready _ _
  obtain ⟨o, hok⟩ := leadingBack_result
  obtain ⟨file, hstored⟩ :=
    PlayedRound.stored_of_ok hok (by rw [hready]; simp) List.not_mem_nil hmodel
  obtain ⟨f, status, d, hf, rfl, hplace, _, hkept⟩ := PlayedRound.inPlace_of_stored hstored hready
  obtain ⟨_, model, hmodel', rfl⟩ := PlayedRound.model_of_due hf
  obtain rfl := Except.ok.inj (hmodel'.symm.trans hmodel)
  -- no file is stored after these
  have hsource := hplace.source_kept hkept fun g ⟨_, hid, _⟩ => absurd hid List.not_mem_nil
  have hrecord := hplace.record_kept hkept fun g ⟨_, hid, _⟩ => absurd hid List.not_mem_nil
  have hplaces : ∀ p, leadingBack.run.2.disk.placeOf p = endOf [] p.names :=
    placeOf_of_root leadingBack.kept.workingDirectory
  have hsourceFile := hsource.file
  have hrecordFile := hrecord.file
  rw [hplaces] at hsourceFile hrecordFile
  have hsources : leadingBack.machine.disk.placeOf leadingBack.before.roots.sources = ["sources"] :=
    rfl
  have hrecords : leadingBack.machine.disk.placeOf leadingBack.before.roots.records = ["records"] :=
    rfl
  rw [hsources, hrecords]
  refine ⟨loaded_twoModels _ _, hmodel, ⟨o, hok⟩, rfl, fun x hx => ?_⟩
  rcases List.mem_pair.mp hx with rfl | rfl
  · exact ⟨not_below_of_ne (by decide), not_below_of_ne (by decide), rfl, _, hsourceFile⟩
  · exact ⟨not_below_of_ne (by decide), not_below_of_ne (by decide), rfl, _, hrecordFile⟩

end Processor

end WrapperGen
