/-!
# Maps in the order of their keys

Annotations and their arguments are keyed by text, and are always written in the order of the keys.
Keeping the entries strictly ascending makes two maps with the same contents the same value.
-/

namespace WrapperGen

/-- Entries with distinct keys, in ascending order of the keys. -/
structure KeyMap (α : Type) where
  entries : List (String × α) := []
  ascending : entries.Pairwise (fun a b => a.1 < b.1) := by exact List.Pairwise.nil
deriving Repr

namespace KeyMap

variable {α : Type}

/-- The map without entries. -/
def empty : KeyMap α := {}

instance : Inhabited (KeyMap α) := ⟨empty⟩

instance [DecidableEq α] : DecidableEq (KeyMap α) := fun a b =>
  if h : a.entries = b.entries then isTrue (by cases a; cases b; simp_all)
  else isFalse (fun e => h (by rw [e]))

/-- The value of a key. -/
def get? (m : KeyMap α) (key : String) : Option α := m.entries.lookup key

/-- Whether the key has a value. -/
def contains (m : KeyMap α) (key : String) : Bool := (m.get? key).isSome

/-- Whether there are no entries. -/
def isEmpty (m : KeyMap α) : Bool := m.entries.isEmpty

/-- Puts an entry in its place in ascending entries, instead of any other with its key. -/
def place (key : String) (value : α) : List (String × α) → List (String × α)
  | [] => [(key, value)]
  | entry :: rest =>
    if key < entry.1 then (key, value) :: entry :: rest
    else if key = entry.1 then (key, value) :: rest
    else entry :: place key value rest

theorem mem_place {key : String} {value : α} {entries : List (String × α)} {e : String × α}
    (h : e ∈ place key value entries) : e = (key, value) ∨ e ∈ entries := by
  induction entries with
  | nil => simpa [place] using h
  | cons entry rest ih =>
    simp only [place] at h
    split at h
    · simpa using h
    · split at h
      · simp only [List.mem_cons] at h ⊢
        exact h.imp_right Or.inr
      · simp only [List.mem_cons] at h ⊢
        rcases h with h | h
        · exact Or.inr (Or.inl h)
        · exact (ih h).imp_right Or.inr

theorem place_ascending {key : String} {value : α} {entries : List (String × α)}
    (h : entries.Pairwise fun a b => a.1 < b.1) :
    (place key value entries).Pairwise fun a b => a.1 < b.1 := by
  induction entries with
  | nil => simp [place]
  | cons entry rest ih =>
    obtain ⟨head, tail⟩ := List.pairwise_cons.mp h
    simp only [place]
    split
    · rename_i before
      refine List.pairwise_cons.mpr ⟨fun e he => ?_, h⟩
      rcases List.mem_cons.mp he with rfl | he
      · exact before
      · exact String.lt_trans before (head e he)
    · split
      · rename_i same
        exact List.pairwise_cons.mpr ⟨fun e he => same ▸ head e he, tail⟩
      · rename_i notBefore notSame
        refine List.pairwise_cons.mpr ⟨fun e he => ?_, ih tail⟩
        rcases mem_place he with rfl | he
        · rcases String.le_total key entry.1 with le | le
          · exact absurd (Std.lt_of_le_of_ne le notSame) notBefore
          · exact Std.lt_of_le_of_ne le (fun e => notSame e.symm)
        · exact head e he

/-- The map with the key set to a value. -/
def insert (m : KeyMap α) (key : String) (value : α) : KeyMap α where
  entries := place key value m.entries
  ascending := place_ascending m.ascending

/-- The map of a list of entries; of two with the same key the later one counts. -/
def ofList (entries : List (String × α)) : KeyMap α :=
  entries.foldl (fun m e => m.insert e.1 e.2) empty

end KeyMap

end WrapperGen
