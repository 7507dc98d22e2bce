import WrapperGen.Proofs.Atomicity
import WrapperGen.Proofs.Causes
import WrapperGen.Proofs.JsonRecords
import WrapperGen.Proofs.JsonTexts

/-!
# Records of stored files

A record is read back from its text, whatever the paths in it are made of (`decode_text`). When a
file has been stored, its record is there, says where the file is, and holds the digest of what is
there now; no other file has changed (`store_describes`).
-/

namespace WrapperGen

/-! ## Records that are read back -/

namespace DependencyRecord

theorem nesting_toJson (r : DependencyRecord) : r.toJson.nesting ≤ Json.maximalNesting := by
  have hsources : ∀ sources : List String, Json.nestingItems (sources.map .string) = 0 := by
    intro sources
    induction sources with
    | nil => rfl
    | cons s sources ih => rw [List.map_cons, Json.nestingItems, Json.nesting, ih, Nat.max_self]
  simp only [toJson, Json.nesting, Json.nestingMembers, hsources]
  decide

theorem readsBack : decode.ReadsBack toJson := by
  intro r levels hlevels
  obtain ⟨inside, rfl, hinside⟩ := Json.exists_inside_object hlevels
  have hpath : Json.decodePath.ReadsBack .string := fun _ _ _ => rfl
  have hsources : (Json.array (r.sources.map .string)).nesting ≤ inside :=
    Nat.le_trans (Json.nesting_le_members (List.mem_cons_of_mem _ List.mem_cons_self)) hinside
  have hfilled : Json.Fills fields inside
      [("output", .string r.output), ("sources", .array (r.sources.map .string)),
        ("aggregating", .bool r.aggregating), ("sha256", .string r.sha256)] {} r :=
    .cons rfl rfl
      (.cons rfl (Json.store_of (Json.readsBack_list hpath r.sources inside hsources) _ _ _)
        (.cons rfl rfl (.cons rfl rfl .nil)))
  have hwritten : ∀ field ∈ fields, field.required = true →
      field.name ∈ ["output", "sources", "aggregating", "sha256"] := by decide
  exact Json.decodeRecord_of_fills hfilled (by decide)
    (List.Sublist.refl _) hwritten "DependencyRecord"

/-- **A record is read back from its text.** -/
theorem decode_text (r : DependencyRecord) : Json.decode decode (r.text ++ "\n") = .ok r := by
  rw [Json.decode, text, Json.scan_spreadText]
  dsimp only
  rw [readsBack r Json.maximalNesting r.nesting_toJson]
  rfl

end DependencyRecord

/-! ## What storing a file comes to -/

namespace OutputRoots

open Disk Script

variable {roots : OutputRoots} {f : GeneratedFile} {d d' : Disk} {unsure : DiskCall → Prop}

theorem outcome_record (status : WriteStatus) :
    (roots.outcome f status).record = roots.recordOf f := by
  rw [outcome]

theorem FreeFor.source (h : roots.FreeFor [f] d) :
    d.NoTemporary roots.process (roots.sourcePath f) :=
  fun _ hname => h f List.mem_cons_self _ _ ⟨Or.inl rfl, hname⟩

theorem FreeFor.record (h : roots.FreeFor [f] d) :
    d.NoTemporary roots.process (roots.recordPath f) :=
  fun _ hname => h f List.mem_cons_self _ _ ⟨Or.inr rfl, hname⟩

/-- A file and its record are stored, and nothing else has changed. -/
structure StoredAs (roots : OutputRoots) (f : GeneratedFile) (w : WrittenFile)
    (d d' : Disk) : Prop where
  path : w.path = roots.sourcePath f
  recordPath : w.recordPath = roots.recordPath f
  source : d'.Holds w.path f.content
  record : ∃ text, d'.Holds w.recordPath text
    ∧ Json.decode DependencyRecord.decode text = .ok w.record
  output : w.record.output = w.path.text
  sources : w.record.sources = f.sources
  aggregating : w.record.aggregating = f.aggregating
  sha256 : ∀ text, d'.Holds w.path text → w.record.sha256 = Sha256.hexDigest text
  others : ∀ x, x ≠ d.placeOf w.path → x ≠ d.placeOf w.recordPath →
    ∀ content, d'.at? x = some (.file content) ↔ d.at? x = some (.file content)

theorem storedAs_of_leads {w : WrittenFile} (hfree : roots.FreeFor [f] d)
    (h : (roots.store f).Leads unsure d (.ok w) d') : roots.StoredAs f w d d' := by
  obtain ⟨hplaced, status, rfl⟩ := inPlace_of_store h
  obtain ⟨source, record, hstores⟩ := roots.exists_stores f
  have hothers : ∀ x, x ≠ d.placeOf (roots.sourcePath f) → x ≠ d.placeOf (roots.recordPath f) →
      ∀ content, d'.at? x = some (.file content) ↔ d.at? x = some (.file content) := by
    intro x hx hx' content
    rcases store_cases h with ⟨_, herror, _⟩ | ⟨_, d₁, hwrite, ⟨_, herror, _⟩ | ⟨_, _, hrecord⟩⟩
    · exact absurd herror (by simp)
    · exact absurd herror (by simp)
    · -- the record is written on the disk that the source left, which has no temporary file of
      -- the record either
      have hfirst := writtenWhole_of_leads hfree.source hwrite
      have hfree₁ := hfirst.noTemporary hstores.source_eq hstores.not_temporary_source hfree.record
      have hsecond := writtenWhole_of_leads hfree₁ hrecord
      rw [← placeOf_of_workingDirectory hfirst.others.workingDirectory] at hx'
      exact (hsecond.others.file_iff hx').trans (hfirst.others.file_iff hx)
  have hrecord : Json.decode DependencyRecord.decode (roots.recordText f)
      = .ok (roots.recordOf f) :=
    DependencyRecord.decode_text (roots.recordOf f)
  have hdigest : ∀ text, d'.Holds (roots.sourcePath f) text →
      (roots.recordOf f).sha256 = Sha256.hexDigest text := by
    intro text hheld
    have hsame := hheld.file.symm.trans hplaced.source.file
    rw [Content.text.inj (Entry.file.inj (Option.some.inj hsame)), recordOf]
  constructor <;> simp only [outcome_path, outcome_recordPath, outcome_record]
  case source => exact hplaced.source
  case record => exact ⟨_, hplaced.record, hrecord⟩
  case output => rw [recordOf]
  case sources => rw [recordOf]
  case aggregating => rw [recordOf]
  case sha256 => exact hdigest
  case others => exact hothers

/--
**The record of a stored file describes what is there.**

Any calls may fail, with any cause that a system gives; a missing file name is never the cause.
-/
theorem store_describes (m : Machine) (hfree : roots.FreeFor [f] m.disk)
    (hfaults : m.FailsLikeSystem) :
    (∀ w, ((roots.store f).play m).1 = .ok w →
      roots.StoredAs f w m.disk ((roots.store f).play m).2.disk)
      ∧ ∀ e, ((roots.store f).play m).1 = .error e → e.cause ≠ .noFileName "output" := by
  have hleads := leads_play_any (roots.store f) m
  refine ⟨fun w hw => ?_, fun e he hcause => ?_⟩
  · rw [hw] at hleads
    exact storedAs_of_leads hfree hleads
  · have hsystem := ofSystem_store hfaults he
    rw [hcause] at hsystem
    exact hsystem

/-- Where files go, from the directory of the program. -/
def menuRoots : OutputRoots := ⟨⟨"kotlin"⟩, ⟨"deps"⟩, "7"⟩

/-- A file with a source whose path has to be escaped. -/
def menuFile : GeneratedFile where
  package := "dev.example"
  fileName := "MenuConfig"
  content := "class MenuConfig\n"
  sources := ["src/\"Menu\".kt"]
  aggregating := true

/-- A machine whose disk is empty. -/
def emptyMachine : Machine where
  disk := {}

theorem store_describes_menu :
    menuRoots.FreeFor [menuFile] emptyMachine.disk ∧ emptyMachine.FailsLikeSystem
    ∧ ∃ w, ((menuRoots.store menuFile).play emptyMachine).1 = .ok w
      ∧ menuRoots.StoredAs menuFile w emptyMachine.disk
        ((menuRoots.store menuFile).play emptyMachine).2.disk := by
  have hfree : menuRoots.FreeFor [menuFile] emptyMachine.disk := by
    intro f _ path name _ content hfile
    rw [at?, if_neg placeIn_ne_nil] at hfile
    exact absurd hfile (by simp [emptyMachine])
  have hfaults : emptyMachine.FailsLikeSystem := fun _ hfault => absurd hfault List.not_mem_nil
  have hok : ((menuRoots.store menuFile).play emptyMachine).1.isOk = true := by decide +kernel
  obtain ⟨w, hw⟩ := exists_ok_of_isOk hok
  exact ⟨hfree, hfaults, w, hw, (store_describes emptyMachine hfree hfaults).1 w hw⟩

end OutputRoots

end WrapperGen
