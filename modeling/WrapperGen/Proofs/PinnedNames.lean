import WrapperGen.Name.Written
import WrapperGen.Proofs.JsonTexts
import WrapperGen.Proofs.NameSpelling

/-!
# Pinned names that are read again

The pinned form of a name marks with a slash where its package ends, unless the package is empty. A
text with a slash never means a class of the root package, so such a class has been guessed from the
case of its letters, and the same guess finds it again (`Readable`). Nothing of a name is lost in
its pinned form (`read_pinned`), whatever the case of the letters in it says.
-/

namespace WrapperGen.ClassName

open Text

/-- A name that a text can mean: it is made of identifiers, and if it has no package, the case of
the letters does not find one. -/
structure Readable (n : ClassName) : Prop extends n.Spelled where
  noPackage : n.package = "" → Boundary [] n.simpleNames

/-- A name that stands in a text can be read. -/
theorem readable_of_nameAt {s rest : List Char} {n : ClassName} (h : NameAt s n rest) :
    n.Readable := by
  refine ⟨spelled_of_nameAt h, fun hempty => ?_⟩
  cases h with
  | guessed hrow hboundary =>
      -- identifiers in front of the boundary would be a package
      have hfront := (joined_eq_empty_iff fun x hx =>
        ne_empty_of_isIdentifier (hrow.identifiers x (List.mem_append_left _ hx))).mp hempty
      rwa [hfront] at hboundary
  | pinned hrow _ =>
      have hnil :=
        (joined_eq_empty_iff fun x hx => ne_empty_of_isIdentifier (hrow.identifiers x hx)).mp hempty
      exact absurd hnil hrow.ne_nil

/-- **The pinned form of a name that can be read stands for that name.** -/
theorem nameAt_pinned {n : ClassName} (h : n.Readable) : NameAt n.pinned.toList n [] := by
  have hrow : Row '.' IdentifierAt n.nested.toList n.simpleNames [] := by
    have hjoined :=
      row_joined h.simpleNames_ne_nil (fun x hx => h.identifiers x (List.mem_append_right _ hx)) []
    rwa [List.append_nil] at hjoined
  by_cases hempty : n.package = ""
  · obtain ⟨package, names⟩ := n
    obtain rfl : package = "" := hempty
    have hname : NameAt (pinned ⟨"", names⟩).toList ⟨joined "." [], names⟩ [] := by
      rw [pinned, if_pos rfl]
      exact .guessed hrow (h.noPackage rfl)
    exact hname
  · have htext : n.pinned.toList = (joined "." n.packageSegments).toList
        ++ '/' :: n.nested.toList := by
      rw [← package_eq, pinned, if_neg hempty, String.toList_append, String.toList_append,
        List.append_assoc]
      rfl
    have hsegments := row_joined (mt (packageSegments_eq_nil_iff n).mp hempty)
      (fun x hx => h.identifiers x (List.mem_append_left _ hx)) ('/' :: n.nested.toList)
    rw [← htext] at hsegments
    have hpinned := NameAt.pinned hsegments hrow
    rwa [← package_eq] at hpinned

/-- In JSON a name that can be read comes back as it is. -/
theorem decode_toJson {n : ClassName} (h : n.Readable) (levels : Nat) :
    decode levels (Json.Reading.ofJson n.toJson) = .ok n := by
  have hread : read n.pinned = .ok n := read_of_nameAt (nameAt_pinned h)
  have hstring : Json.decodeString levels (Json.Reading.ofJson n.toJson) = .ok n.pinned := rfl
  simp only [decode, hstring, bind, Except.bind, hread]
  rfl

/--
**Nothing of a class name is lost in its pinned form.**

What a text is read as can be written in the pinned form and read again: package and simple names
are the same, also where the case of the letters would put the end of the package elsewhere. So a
name comes back from its JSON text, and names that are written the same are the same.
-/
theorem read_pinned {text : String} {n : ClassName} (h : read text = .ok n) :
    read n.pinned = .ok n
      ∧ Json.decode decode n.toJson.compactText = .ok n
      ∧ ∀ other m, read other = .ok m → n.pinned = m.pinned → n = m := by
  have hpinned : ∀ {text : String} {n : ClassName}, read text = .ok n → n.Readable := by
    intro text n hread
    obtain ⟨_, hname, _⟩ := nameAt_of_read hread
    exact readable_of_nameAt hname
  have hback : read n.pinned = .ok n := read_of_nameAt (nameAt_pinned (hpinned h))
  refine ⟨hback, ?_, fun other m hother hsame => ?_⟩
  · rw [Json.decode, Json.scan_compactText]
    dsimp only
    rw [decode_toJson (hpinned h)]
    rfl
  · have hother : read m.pinned = .ok m := read_of_nameAt (nameAt_pinned (hpinned hother))
    rw [hsame] at hback
    exact Except.ok.inj (hback.symm.trans hother)

/-- A package with a capital, and a class with none in front of one with a capital. -/
theorem read_pinned_againstConvention :
    read " été.Big/small.Größe\n" = .ok ⟨"été.Big", ["small", "Größe"]⟩
      ∧ read (pinned ⟨"été.Big", ["small", "Größe"]⟩) = .ok ⟨"été.Big", ["small", "Größe"]⟩
      ∧ (∀ other m, read other = .ok m → "été.Big/small.Größe" = m.pinned →
        ⟨"été.Big", ["small", "Größe"]⟩ = m) := by
  have hread : read " été.Big/small.Größe\n" = .ok ⟨"été.Big", ["small", "Größe"]⟩ := by rfl
  obtain ⟨hback, _, hsame⟩ := read_pinned hread
  exact ⟨hread, hback, hsame⟩

end WrapperGen.ClassName
