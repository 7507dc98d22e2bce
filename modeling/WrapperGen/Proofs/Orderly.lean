import WrapperGen.Proofs.Storing

/-!
# Disks in good order

Whether a file can be stored depends on what is on the disk. On a disk in good order it always can:
files have the endings of files that are stored, and directories have other names, so nothing is
ever in the way (`Orderly.writable`). Storing files keeps a disk in good order (`Orderly.written`),
and so any number of them can be stored one after the other (`storesAll_of_orderly`).
-/

namespace WrapperGen

namespace Disk

/-! ## Names -/

/-- The name of a file that is stored. -/
def IsStored (n : String) : Prop := ".kt".toList <:+ n.toList ∨ ".json".toList <:+ n.toList

instance (n : String) : Decidable (IsStored n) := inferInstanceAs (Decidable (_ ∨ _))

/-- The name of a directory that is in no file's way. -/
structure Plain (n : String) : Prop where
  short : isTooLong n = false
  not_stored : ¬IsStored n
  not_temporary : ¬".tmp".toList <:+ n.toList

theorem plain_iff {n : String} :
    Plain n ↔ isTooLong n = false ∧ ¬IsStored n ∧ ¬".tmp".toList <:+ n.toList :=
  ⟨fun h => ⟨h.short, h.not_stored, h.not_temporary⟩,
    fun ⟨hshort, hstored, htemporary⟩ => ⟨hshort, hstored, htemporary⟩⟩

instance (n : String) : Decidable (Plain n) := decidable_of_iff' _ plain_iff

theorem IsStored.not_temporary {n : String} (h : IsStored n) : ¬".tmp".toList <:+ n.toList :=
  h.elim (fun h => not_temporary_of_suffix h (by decide) (by decide))
    (fun h => not_temporary_of_suffix h (by decide) (by decide))

/-- A path to a file whose name is not too long, and neither that of its temporary file, in
directories with plain names. -/
structure Tidy (process : String) (path : Path) : Prop where
  short : ∀ name ∈ path.fileName?, isTooLong name = false
    ∧ isTooLong (temporaryName name process) = false
  plain : ∀ n ∈ path.directory.names, Plain n

theorem tidy_iff {process : String} {path : Path} : Tidy process path
    ↔ (∀ name ∈ path.fileName?, isTooLong name = false
      ∧ isTooLong (temporaryName name process) = false) ∧ ∀ n ∈ path.directory.names, Plain n :=
  ⟨fun h => ⟨h.short, h.plain⟩, fun ⟨hshort, hplain⟩ => ⟨hshort, hplain⟩⟩

instance (process : String) (path : Path) : Decidable (Tidy process path) :=
  decidable_of_iff' _ tidy_iff

/-! ## Disks -/

/-- Files have the endings of stored files, and directories have neither these nor
that of temporary files. -/
structure Orderly (d : Disk) : Prop where
  start : ∀ x, x <+: d.workingDirectory → d.at? x = some .directory
  files : ∀ place n content, d.at? (place ++ [n]) = some (.file content) → IsStored n
  directories : ∀ place n, d.at? (place ++ [n]) = some .directory →
    ¬IsStored n ∧ ¬".tmp".toList <:+ n.toList

variable {d d' : Disk} {process name content : String} {path : Path}

/-- Where paths start from the root, their names tell their places. -/
theorem placeOf_of_root (h : d.workingDirectory = []) (p : Path) :
    d.placeOf p = endOf [] p.names := by
  rw [placeOf, Disk.start, h]
  exact congrArg (endOf · p.names) (ite_self _)

/-- The empty disk is in good order. -/
theorem orderly_empty : ({} : Disk).Orderly := by
  have hnothing : ∀ place n, ({} : Disk).at? (place ++ [n]) = none :=
    fun place n => if_neg (by simp)
  refine ⟨fun x hx => ?_, fun place n content hfile => ?_, fun place n hdirectory => ?_⟩
  · rw [List.prefix_nil.mp hx]
    rfl
  · exact absurd ((hnothing place n).symm.trans hfile) (by simp)
  · exact absurd ((hnothing place n).symm.trans hdirectory) (by simp)

namespace Orderly

/-- The places above the start of a path are directories. -/
theorem start_directory (h : d.Orderly) (p : Path) {x : Location} (hx : x <+: d.start p) :
    d.at? x = some .directory := by
  rw [Disk.start] at hx
  split at hx
  · rw [List.prefix_nil.mp hx]
    rfl
  · exact h.start x hx

/-- A place that was passed on the way to a directory does not have the name of a file. -/
theorem not_passed (h : d.Orderly) (htidy : Tidy process path) {n : String}
    (hn : IsStored n ∨ ".tmp".toList <:+ n.toList) {place : Location} :
    place ++ [n] ∉ through (d.start path.directory) path.directory.names := by
  have hnot : ¬(¬IsStored n ∧ ¬".tmp".toList <:+ n.toList) :=
    fun hneither => hn.elim hneither.1 hneither.2
  intro hmem
  rcases mem_through_cases hmem with habove | ⟨y, m, hm, heq⟩
  · exact hnot (h.directories place n (h.start_directory _ habove))
  · obtain rfl := List.singleton_inj.mp (List.append_inj' heq rfl).2
    exact hnot ⟨(htidy.plain n hm).not_stored, (htidy.plain n hm).not_temporary⟩

/-- **Nothing is in the way of a file** on a disk in good order. -/
theorem writable (h : d.Orderly) (content : String) (htidy : Tidy process path)
    (hname : path.fileName? = some name) (hstored : IsStored name) :
    d.Writable process path name content := by
  obtain ⟨hshort, htemporary⟩ := htidy.short name hname
  have htmp := suffix_temporaryName name process
  -- no file stands on the way, and no place in the directory lies on it
  have hway : ∀ x ∈ through (d.start path.directory) path.directory.names, d.NoFileAt x := by
    intro x hx content hfile
    rcases mem_through_cases hx with habove | ⟨y, n, hn, rfl⟩
    · exact absurd (hfile.symm.trans (h.start_directory _ habove)) (by simp)
    · exact (htidy.plain n hn).not_stored (h.files _ _ _ hfile)
  have hat : ∀ d₁, d.OpenedTo path.directory d₁ → ∀ n, IsStored n ∨ ".tmp".toList <:+ n.toList →
      d₁.at? (d.placeIn path.directory n) = d.at? (d.placeIn path.directory n) :=
    fun d₁ hopened n hn => (hopened.at? _).trans (if_neg (h.not_passed htidy hn))
  refine ⟨⟨fun x hx => ?_, fun n hn => (htidy.plain n hn).short⟩, hshort,
    fun d₁ hopened => Or.inr ⟨htemporary, ?_, ?_⟩⟩
  · rcases (hway x hx).cases with hnone | hdirectory
    · refine Or.inr ⟨hnone, .of_mem_through hx fun habove => ?_⟩
      exact absurd (hnone.symm.trans (h.start_directory _ habove)) (by simp)
    · exact Or.inl hdirectory
  · rw [hat d₁ hopened _ (Or.inr htmp)]
    cases hthere : d.at? (d.placeIn path.directory (temporaryName name process)) with
    | none => rfl
    | some entry =>
        cases entry with
        | directory => exact absurd htmp (h.directories _ _ hthere).2
        | file content => exact absurd htmp (h.files _ _ _ hthere).not_temporary
  · rw [hat d₁ hopened _ (Or.inl hstored)]
    exact fun hdirectory => (h.directories _ _ hdirectory).1 hstored

/-- **Writing a file keeps a disk in good order.** -/
theorem written (h : d.Orderly) (htidy : Tidy process path) (hstored : IsStored name)
    (hwritten : d.Written path name content d') : d'.Orderly := by
  obtain ⟨d₁, hopened, hfilled⟩ := hwritten
  have hd : d'.workingDirectory = d.workingDirectory :=
    hfilled.workingDirectory.trans hopened.workingDirectory
  -- the file stands where no directory was, and where none was made
  have hopen : d₁.Orderly := by
    refine ⟨fun x hx => ?_, fun place n content hfile => ?_, fun place n hdirectory => ?_⟩
    · rw [hopened.workingDirectory] at hx
      rw [hopened.at?, h.start x hx]
      exact ite_self _
    · rw [hopened.at?] at hfile
      split at hfile
      · exact absurd hfile (by simp)
      · exact h.files place n content hfile
    · rw [hopened.at?] at hdirectory
      split at hdirectory
      · rename_i hpassed
        exact ⟨fun hn => h.not_passed htidy (Or.inl hn) hpassed,
          fun hn => h.not_passed htidy (Or.inr hn) hpassed⟩
      · exact h.directories place n hdirectory
  refine ⟨fun x hx => ?_, fun place n content hfile => ?_, fun place n hdirectory => ?_⟩
  · rw [hfilled.workingDirectory] at hx
    have hother : x ≠ d.placeIn path.directory name := by
      intro heq
      have hdirectory := hopen.start x hx
      rw [heq] at hdirectory
      exact (hopen.directories _ _ hdirectory).1 hstored
    rw [hfilled.at_other hother]
    exact hopen.start x hx
  · rw [hfilled.at?] at hfile
    split at hfile
    · rename_i heq
      obtain rfl := List.singleton_inj.mp (List.append_inj' heq rfl).2
      exact hstored
    · exact hopen.files place n content hfile
  · rw [hfilled.at?] at hdirectory
    split at hdirectory
    · exact absurd hdirectory (by simp)
    · exact hopen.directories place n hdirectory

end Orderly

end Disk

namespace OutputRoots

open Disk Script

variable {roots : OutputRoots} {f : GeneratedFile} {files : List GeneratedFile} {d : Disk}

/-- The paths at which a file and its record are stored are tidy. -/
structure Tidy (roots : OutputRoots) (f : GeneratedFile) : Prop where
  source : Disk.Tidy roots.process (roots.sourcePath f)
  record : Disk.Tidy roots.process (roots.recordPath f)

/-- **On a disk in good order any files can be stored** whose paths are tidy. -/
theorem storesAll_of_orderly (h : d.Orderly) (htidy : ∀ f ∈ files, roots.Tidy f) :
    ∃ d', roots.StoresAll files d d' := by
  induction files generalizing d with
  | nil => exact ⟨d, .nil⟩
  | cons f files ih =>
      obtain ⟨source, record, hstores⟩ := roots.exists_stores f
      have hf := htidy f List.mem_cons_self
      have hsource :=
        h.writable f.content hf.source hstores.source_eq (Or.inl hstores.source_suffix)
      obtain ⟨_, d₁, _, hwritten₁⟩ := writeAtomic_on hstores.source_eq hsource
      have h₁ := h.written hf.source (Or.inl hstores.source_suffix) hwritten₁
      have hrecord :=
        h₁.writable (roots.recordText f) hf.record hstores.record_eq (Or.inr hstores.record_suffix)
      obtain ⟨_, d₂, _, hwritten₂⟩ := writeAtomic_on hstores.record_eq hrecord
      -- what is stored is determined, and so is the disk that the rest is stored on
      obtain ⟨file, e₁, e₂, hon, hto, _⟩ := store_on hstores ⟨hsource, hwritten₁,
        hrecord, hwritten₂⟩
      have h₂ :=
        (h.written hf.source (Or.inl hstores.source_suffix) hto.sourceWritten).written hf.record
          (Or.inr hstores.record_suffix) hto.recordWritten
      obtain ⟨d', hrest⟩ := ih h₂ fun g hg => htidy g (List.mem_cons_of_mem _ hg)
      exact ⟨d', .cons hstores hto hon hrest⟩

end OutputRoots

end WrapperGen
