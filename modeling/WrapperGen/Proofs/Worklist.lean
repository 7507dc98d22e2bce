import Mathlib.Data.List.Perm.Subperm
import Mathlib.Logic.Relation
import WrapperGen.Proofs.RoundCourse
import WrapperGen.Proofs.SectionSearch

/-!
# The worklist of the scan

A model is ready when it and all sections that can be reached from it are resolved. `metFrom` finds
them by taking every section that turns up to the end before anything is judged. The search can as
well be done turn by turn, on a list of what is still to be looked at: the declaration put on the
list last is taken off and judged, its sections that were not met before are put on the list, and
the first declaration that is not resolved breaks the search off.

The two agree (`Search.Sound.search_eq`). What carries the turns is `Search.Sound`: whatever was met
can be reached, stands once among what was taken and what is pending, and the sections of what was
taken are met. So nothing is put on the list twice, the list runs empty, and when it does everything
that can be reached was judged.

`scan_exact` puts this together with what a scan returns.
-/

namespace WrapperGen

namespace SymbolSource

variable {s : SymbolSource} {marker : String} {root : DeclarationId}

theorem length_handles (s : SymbolSource) : s.handles.length = s.table.size := by
  simp [handles]

/-! ## What can be reached -/

/-- A property of `u` is marked as a section, and its type names the section `v`. -/
def Opens (s : SymbolSource) (marker : String) (u v : DeclarationId) : Prop :=
  ∃ p ∈ s.properties u, s.isMarked (.property p) marker = true ∧ s.NamesSection (s.typeOf p) v

/-- The section `v` is reached from `u` in any number of steps. -/
def OpensInside (s : SymbolSource) (marker : String) : DeclarationId → DeclarationId → Prop :=
  Relation.ReflTransGen (s.Opens marker)

theorem mem_sections_iff_opens {u v : DeclarationId} :
    v ∈ s.sections marker u ↔ s.Opens marker u v :=
  mem_sections

/-- What is closed under sections and has the root has everything that can be reached. -/
theorem OpensInside.mem_of_closed {met : List DeclarationId} {v : DeclarationId}
    (h : s.OpensInside marker root v) (hroot : root ∈ met)
    (hclosed : ∀ u ∈ met, s.sections marker u ⊆ met) : v ∈ met := by
  induction h with
  | refl => exact hroot
  | tail _ hopens ih => exact hclosed _ ih (mem_sections_iff_opens.mpr hopens)

/-- The search meets nothing that cannot be reached. -/
theorem opensInside_of_mem_metFrom {met pending : List DeclarationId}
    (hmet : ∀ x ∈ met, s.OpensInside marker root x) (hpending : pending ⊆ met) :
    ∀ x ∈ s.metFrom marker met pending, s.OpensInside marker root x := by
  induction met, pending using metFrom.induct s marker with
  | case1 met =>
      rw [metFrom]
      exact hmet
  | case2 met id pending found fresh hnone ih =>
      rw [metFrom_of_none hnone]
      exact ih hmet (List.subset_of_cons_subset hpending)
  | case3 met id pending found fresh hsome _ ih =>
      rw [metFrom_of_fresh rfl hsome]
      have hfresh : ∀ x ∈ fresh, s.OpensInside marker root x := by
        intro x hx
        have hfound : x ∈ s.sections marker id := of_decide_eq_true (List.mem_filter.mp hx).2
        exact (hmet id (hpending List.mem_cons_self)).tail (mem_sections_iff_opens.mp hfound)
      refine ih (fun x hx => ?_) ?_
      · exact (List.mem_append.mp hx).elim (hmet x) (hfresh x)
      · exact List.append_subset.mpr ⟨List.subset_append_right met fresh,
          List.Subset.trans (List.subset_of_cons_subset hpending)
            (List.subset_append_left met fresh)⟩

/-- **The search meets what can be reached, and nothing else.** -/
theorem mem_metFrom_iff {v : DeclarationId} :
    v ∈ s.metFrom marker [root] [root] ↔ s.OpensInside marker root v := by
  have hstart : ∀ x ∈ [root], s.OpensInside marker root x := by
    intro x hx
    rw [List.mem_singleton.mp hx]
    exact Relation.ReflTransGen.refl
  have hclosed : ∀ u ∈ s.metFrom marker [root] [root], s.sections marker u
      ⊆ s.metFrom marker [root] [root] :=
    sections_subset_metFrom [root] [root] fun x hx hdone => absurd hx hdone
  constructor
  · exact opensInside_of_mem_metFrom hstart (List.Subset.refl _) v
  · exact fun h => h.mem_of_closed (mem_metFrom List.mem_cons_self) hclosed

/-- **A declaration is ready when everything that can be reached from it is resolved.** -/
theorem isReady_iff :
    s.isReady marker root = true ↔ ∀ v, s.OpensInside marker root v → s.isResolved v = true := by
  rw [isReady, List.all_eq_true]
  simp only [mem_metFrom_iff]

/-! ## Turn by turn -/

/-- The search between two turns: what was met, and the part of it that is still to be looked at. -/
structure Search where
  met : List DeclarationId
  pending : List DeclarationId

namespace Search

/-- The search before the first turn. -/
def start (root : DeclarationId) : Search := ⟨[root], [root]⟩

/-- A declaration that was not met before is put on the list. -/
def meet (w : Search) (v : DeclarationId) : Search :=
  if v ∈ w.met then w else ⟨w.met ++ [v], v :: w.pending⟩

/-- One declaration after the other is met. -/
def meetAll (w : Search) (vs : List DeclarationId) : Search := vs.foldl meet w

end Search

/-- The search for as many turns as given; no answer when they do not suffice. -/
def search (s : SymbolSource) (marker : String) : ℕ → Search → Option Bool
  | 0, _ => none
  | _ + 1, ⟨_, []⟩ => some true
  | turns + 1, ⟨met, id :: pending⟩ =>
    if s.isResolved id then
      s.search marker turns (Search.meetAll ⟨met, pending⟩ (s.sections marker id))
    else some false

/-- The search gets from `root` to where it is, with `taken` taken off the
list one after the other. -/
inductive Gets (s : SymbolSource) (marker : String) (root : DeclarationId) :
    List DeclarationId → Search → Prop where
  | start : Gets s marker root [] (.start root)
  | turn {taken met pending : List DeclarationId} {id : DeclarationId} :
      Gets s marker root taken ⟨met, id :: pending⟩ → s.isResolved id = true →
      Gets s marker root (taken ++ [id]) (Search.meetAll ⟨met, pending⟩ (s.sections marker id))

namespace Search

/-- Meeting declarations puts those on the list, once each, that were not met before. -/
theorem meetAll_eq (w : Search) (vs : List DeclarationId) :
    ∃ fresh, w.meetAll vs = ⟨w.met ++ fresh, fresh.reverse ++ w.pending⟩
      ∧ (w.met.Nodup → (w.met ++ fresh).Nodup) ∧ fresh ⊆ vs ∧ vs ⊆ w.met ++ fresh := by
  induction vs generalizing w with
  | nil => exact ⟨[], by simp [meetAll], by simp, List.Subset.refl _, List.nil_subset _⟩
  | cons v vs ih =>
      by_cases hv : v ∈ w.met
      · have hmeet : w.meetAll (v :: vs) = w.meetAll vs := by
          rw [meetAll, List.foldl_cons, meet, if_pos hv, meetAll]
        obtain ⟨fresh, heq, honce, hsub, hall⟩ := ih w
        refine ⟨fresh, hmeet.trans heq, honce, List.subset_cons_of_subset v hsub, ?_⟩
        exact List.cons_subset.mpr ⟨List.mem_append_left _ hv, hall⟩
      · have hmeet : w.meetAll (v :: vs) = meetAll ⟨w.met ++ [v], v :: w.pending⟩ vs := by
          rw [meetAll, List.foldl_cons, meet, if_neg hv, meetAll]
        obtain ⟨fresh, heq, honce, hsub, hall⟩ := ih ⟨w.met ++ [v], v :: w.pending⟩
        simp only [List.append_assoc, List.singleton_append] at heq honce hall
        refine ⟨v :: fresh, by rw [hmeet, heq]; simp, fun hw => honce ?_,
          List.cons_subset_cons v hsub, ?_⟩
        · exact (List.perm_append_singleton v w.met).nodup_iff.mpr (List.nodup_cons.mpr ⟨hv, hw⟩)
        · exact List.cons_subset.mpr ⟨by simp, hall⟩

/-- What holds of the search between two turns. -/
structure Sound (s : SymbolSource) (marker : String) (root : DeclarationId)
    (taken : List DeclarationId) (w : Search) : Prop where
  /-- What was met was taken or is pending. -/
  entered : (taken ++ w.pending).Perm w.met
  /-- Nothing was met twice. -/
  once : w.met.Nodup
  /-- The search began somewhere. -/
  begun : root ∈ w.met
  /-- What was met can be reached. -/
  reached : ∀ v ∈ w.met, s.OpensInside marker root v
  /-- What was taken is resolved. -/
  resolved : ∀ u ∈ taken, s.isResolved u = true
  /-- The sections of what was taken were met. -/
  closed : ∀ u ∈ taken, s.sections marker u ⊆ w.met

theorem sound_start (s : SymbolSource) (marker : String) (root : DeclarationId) :
    Sound s marker root [] (start root) where
  entered := List.Perm.refl _
  once := List.nodup_singleton root
  begun := List.mem_singleton_self root
  reached v hv := by
    rw [List.mem_singleton.mp hv]
    exact Relation.ReflTransGen.refl
  resolved u hu := absurd hu List.not_mem_nil
  closed u hu := absurd hu List.not_mem_nil

/-- **A turn keeps the search sound.** -/
theorem Sound.turn {taken met pending : List DeclarationId} {id : DeclarationId}
    (h : Sound s marker root taken ⟨met, id :: pending⟩) (hid : s.isResolved id = true) :
    Sound s marker root (taken ++ [id]) (meetAll ⟨met, pending⟩ (s.sections marker id)) := by
  have hmet : id ∈ met := h.entered.subset (by simp)
  obtain ⟨fresh, heq, honce, hsub, hall⟩ := meetAll_eq ⟨met, pending⟩ (s.sections marker id)
  rw [heq]
  refine ⟨?_, honce h.once, List.mem_append_left _ h.begun, fun v hv => ?_, fun u hu => ?_,
    fun u hu => ?_⟩
  · have hback : (taken ++ [id] ++ (fresh.reverse ++ pending)).Perm
        (taken ++ [id] ++ (pending ++ fresh.reverse)) :=
      List.perm_append_comm.append_left (taken ++ [id])
    have hmoved : taken ++ [id] ++ (pending ++ fresh.reverse)
        = taken ++ id :: pending ++ fresh.reverse := by simp
    exact hback.trans (hmoved ▸ h.entered.append (List.reverse_perm fresh))
  · rcases List.mem_append.mp hv with hv | hv
    · exact h.reached v hv
    · exact (h.reached id hmet).tail (mem_sections_iff_opens.mp (hsub hv))
  · rcases List.mem_append.mp hu with hu | hu
    · exact h.resolved u hu
    · rw [List.mem_singleton.mp hu]
      exact hid
  · rcases List.mem_append.mp hu with hu | hu
    · exact List.Subset.trans (h.closed u hu) (List.subset_append_left met fresh)
    · rw [List.mem_singleton.mp hu]
      exact hall

/-- Nothing was put on the list twice. -/
theorem Sound.nodup {taken : List DeclarationId} {w : Search} (h : Sound s marker root taken w) :
    (taken ++ w.pending).Nodup :=
  h.entered.nodup_iff.mpr h.once

/-- There are no more turns than declarations, but for a root that is not in the table. -/
theorem Sound.length_le {taken : List DeclarationId} {w : Search}
    (h : Sound s marker root taken w) :
    taken.length ≤ s.table.size + 1 := by
  have hknown : ∀ v, s.OpensInside marker root v → v ∈ root :: s.handles := by
    intro v hv
    cases hv with
    | refl => exact List.mem_cons_self
    | tail _ hopens =>
        exact List.mem_cons_of_mem
          _ (mem_handles_of_mem_sections (mem_sections_iff_opens.mpr hopens))
  have hsub : taken ⊆ root :: s.handles := fun u hu =>
    hknown u (h.reached u (h.entered.subset (List.mem_append_left _ hu)))
  have hlength : taken.length ≤ (root :: s.handles).length :=
    (List.subperm_of_subset (List.nodup_append.mp h.nodup).1 hsub).length_le
  rwa [List.length_cons, length_handles] at hlength

end Search

/-- The search is sound wherever it gets. -/
theorem Gets.sound {taken : List DeclarationId} {w : Search} (h : s.Gets marker root taken w) :
    Search.Sound s marker root taken w := by
  induction h with
  | start => exact Search.sound_start s marker root
  | turn _ hid ih => exact ih.turn hid

/-- From wherever it is sound, the search ends with the right answer, within the
turns that are left to it. -/
theorem Search.Sound.search_eq {taken : List DeclarationId} {w : Search}
    (h : Search.Sound s marker root taken w) {turns : ℕ}
    (hturns : s.table.size + 2 ≤ taken.length + turns) :
    s.search marker turns w = some (s.isReady marker root) := by
  induction turns generalizing taken w with
  | zero =>
      have := h.length_le
      omega
  | succ turns ih =>
      obtain ⟨met, pending⟩ := w
      cases pending with
      | nil =>
          -- All that was met was taken, so it is closed under sections and resolved.
          have htaken : ∀ u ∈ met, u ∈ taken := fun u hu => by simpa using h.entered.symm.subset hu
          have hready : s.isReady marker root = true := isReady_iff.mpr fun v hv =>
            h.resolved v (htaken v (hv.mem_of_closed h.begun fun u hu => h.closed u (htaken u hu)))
          rw [SymbolSource.search, hready]
      | cons id pending =>
          rw [SymbolSource.search]
          by_cases hid : s.isResolved id = true
          · rw [if_pos hid]
            exact ih (h.turn hid) (by simp only [List.length_append, List.length_singleton]; omega)
          · rw [if_neg hid]
            have hreached : s.OpensInside marker root id :=
              h.reached id (h.entered.subset (by simp))
            have hnot : s.isReady marker root = false := by
              rw [← Bool.not_eq_true, isReady_iff]
              exact fun hall => hid (hall id hreached)
            rw [hnot]

end SymbolSource

/-! ## What a scan returns -/

/--
**A scan returns each model once, as ready or as deferred, and a model is ready exactly when
everything that can be reached from it is resolved.**

The search behind it ends for every source, within a turn for each declaration and two more, and
nothing is put on its list twice.
-/
theorem scan_exact (s : SymbolSource) (markers : Markers) :
    (scan s markers).ready.Sublist (s.marked markers.config)
      ∧ (scan s markers).deferred.Sublist (s.marked markers.config)
      ∧ ((scan s markers).ready ++ (scan s markers).deferred).Nodup
      ∧ (∀ id, id ∈ (scan s markers).ready ∨ id ∈ (scan s markers).deferred ↔ s.IsModel markers id)
      ∧ (∀ id, id ∈ (scan s markers).ready
          ↔ s.IsModel markers id ∧ ∀ v, s.OpensInside markers.nest id v → s.isResolved v = true)
      ∧ ∀ id, (∀ turns, s.table.size + 2 ≤ turns →
            s.search markers.nest turns (.start id) = some (s.isReady markers.nest id))
          ∧ ∀ taken w, s.Gets markers.nest id taken w → (taken ++ w.pending).Nodup := by
  have hmarked : (s.marked markers.config).Nodup := s.nodup_handles.filter _
  refine ⟨ready_sublist s markers, deferred_sublist s markers, ?_, fun id => ?_, fun id => ?_,
    fun id => ⟨?_, ?_⟩⟩
  · refine List.nodup_append.mpr
      ⟨(ready_sublist s markers).nodup hmarked, (deferred_sublist s markers).nodup hmarked, ?_⟩
    intro u hu v hv heq
    have hready : s.isReady markers.nest u = true := (mem_ready.mp hu).2
    rw [heq, (mem_deferred.mp hv).2] at hready
    exact Bool.false_ne_true hready
  · rw [mem_ready, mem_deferred, ← and_or_left]
    cases s.isReady markers.nest id <;> simp
  · rw [mem_ready, SymbolSource.isReady_iff]
  · exact fun turns hturns => (SymbolSource.Search.sound_start s markers.nest id).search_eq
      (by simpa using hturns)
  · exact fun taken w h => h.sound.nodup

end WrapperGen
