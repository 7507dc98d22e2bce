import Mathlib.Data.List.Perm.Subperm
import WrapperGen.Proofs.Visits

/-!
# One trail for all calls

The collector is handed the declarations around a section anew with each section. It can as well
keep them in one list that all its calls share: a declaration is put at the end of the list before
it is collected and taken off after, and a section that stands on the list is not entered. Nothing
bounds such a walk but the room that there is for calls that have not returned (`walk`), and each
call is noted with the list it found and the list it left.

The two agree (`walk_collectsAlike`): a section leaves the list as it was, so the property
behind it finds what the collector would be handed. The calls are then the visits of the
collector and their lists its simple paths, and these are no longer than there are declarations,
but for a root that is not declared.
-/

namespace WrapperGen

/-- A declaration of the table that is known and can be a section. -/
def SymbolSource.IsSection (s : SymbolSource) (v : DeclarationId) : Prop :=
  v ∈ s.handles ∧ ∃ info, s.declaration? v = some info ∧ info.kind.isClassLike = true

theorem SymbolSource.NamesSection.isSection {s : SymbolSource} {type : TypeRef} {v : DeclarationId}
    (h : s.NamesSection type v) : s.IsSection v := by
  have hmem := h.mem_handles
  obtain ⟨_, info, _, _, hinfo, hlike⟩ := h
  exact ⟨hmem, info, hinfo, hlike⟩

/-- A call that has returned, with the trail that it found and the one that it left,
outermost declaration first. -/
structure Call where
  declaration : DeclarationId
  onEntry : List DeclarationId
  onReturn : List DeclarationId

/-- What the calls of a walk share. -/
structure Shared where
  /-- The declarations that are being collected, outermost first. -/
  trail : List DeclarationId
  /-- The calls that have returned. -/
  calls : List Call := []

/-- A computation on what is shared; it gives no answer where there is no room. -/
abbrev Walk := StateT Shared Option

/-- Runs a computation with one more declaration at the end of the trail. -/
def Walk.inside (target : DeclarationId) (walk : Walk Collected) : Walk Collected := do
  modify fun w => { w with trail := w.trail ++ [target] }
  let collected ← walk
  modify fun w => { w with trail := w.trail.dropLast }
  return collected

namespace Collector

variable {c : Collector}

/-! ## Walking -/

/-- Adds a property to what is collected. A section off the trail is collected by `enter`. -/
def walkProperty (c : Collector) (enter : DeclarationId → Bool → Walk Collected) (owner : String)
    (subscribe : Bool) (collected : Collected) (p : PropertyId) : Walk Collected :=
  match c.member? p with
  | none => return collected
  | some m =>
    match m.shape with
    | .computed => return collected.report (m.computedDiagnostic owner)
    | .generic => return collected.report (m.genericDiagnostic owner)
    | .opens target => do
      if target ∈ (← get).trail then return collected.report (m.selfReferenceDiagnostic owner)
      let found ← Walk.inside target (enter target (subscribe || m.hooked))
      return collected.addSection m.info.name (c.classNameOf target) found
    | .misplacedMarker =>
      return (collected.report (m.misplacedMarkerDiagnostic owner)).addValue
        (c.valueField m (subscribe || m.hooked))
    | .plain => return collected.addValue (c.valueField m (subscribe || m.hooked))

/-- Collects the declaration at the end of the trail, with room for that many calls at a time. -/
def walk (c : Collector) : ℕ → DeclarationId → Bool → Walk Collected
  | 0, _, _ => failure
  | room + 1, id, subscribe => do
    let onEntry := (← get).trail
    let collected ← (c.source.properties id).foldlM
        (c.walkProperty (c.walk room) (c.source.nameOf id) subscribe) {}
    modify fun w => { w with calls := w.calls ++ [⟨id, onEntry, w.trail⟩] }
    return collected

end Collector

/-! ## The calls of a walk -/

/-- The call that collects the declaration at the front of a path, and leaves
the trail as it found it. -/
def Call.keeping (path : List DeclarationId) (id : DeclarationId) : Call :=
  ⟨id, path.reverse, path.reverse⟩

/-- The call of a visit. -/
def Visit.call (v : Visit) : Call := .keeping (v.target :: v.around) v.target

/-- Whether all trails are shorter than `limit`. -/
def fits (limit : ℕ) (calls : List Call) : Bool := calls.all fun call => call.onEntry.length < limit

@[simp] theorem fits_nil (limit : ℕ) : fits limit [] = true := rfl

@[simp] theorem fits_append (limit : ℕ) (calls more : List Call) :
    fits limit (calls ++ more) = (fits limit calls && fits limit more) := List.all_append

namespace Collector

variable {c : Collector}

/-- The calls made through a property, in the order in which they return. -/
def callsThrough (c : Collector) (trail : List DeclarationId) (subscribe : Bool)
    (p : PropertyId) : List Call :=
  (c.visitsThrough trail subscribe p).map Visit.call

/-- The calls made to collect a declaration, in the order in which they return. -/
def callsOf (c : Collector) (trail : List DeclarationId) (id : DeclarationId)
    (subscribe : Bool) : List Call :=
  (c.visits trail id subscribe).map Visit.call ++ [.keeping trail id]

theorem callsOf_eq_flatMap (trail : List DeclarationId) (id : DeclarationId) (subscribe : Bool) :
    c.callsOf trail id subscribe
      = (c.source.properties id).flatMap (c.callsThrough trail subscribe)
        ++ [.keeping trail id] := by
  rw [callsOf, visits_eq_flatMap, List.map_flatMap]
  rfl

theorem callsThrough_of_not_entered {trail : List DeclarationId} {subscribe : Bool} {p : PropertyId}
    (h : c.entered? trail p = none) : c.callsThrough trail subscribe p = [] := by
  rw [callsThrough, visitsThrough_of_not_entered h, List.map_nil]

theorem callsThrough_of_entered {trail : List DeclarationId} {subscribe : Bool} {p : PropertyId}
    {v : DeclarationId} (h : c.entered? trail p = some v) :
    c.callsThrough trail subscribe p = c.callsOf (v :: trail) v (subscribe || c.isHooked p) := by
  rw [callsThrough, visitsThrough_of_entered h, List.map_append, List.map_map]
  rfl

/-! ## What a walk does -/

/-- What comes of making some calls: no answer where a trail is too long, else what was collected,
with the trail as it was before and the calls noted. -/
def outcome (limit : ℕ) (trail : List DeclarationId) (noted made : List Call)
    (collected : Collected) :
    Option (Collected × Shared) :=
  if fits limit made then some (collected, ⟨trail.reverse, noted ++ made⟩) else none

/-- **What is put on the trail for a computation is taken off after it.** -/
theorem run_inside {target : DeclarationId} {walk : Walk Collected} {limit : ℕ}
    {trail : List DeclarationId} {noted made : List Call} {collected : Collected}
    (h : walk.run ⟨(target :: trail).reverse, noted⟩
      = outcome limit (target :: trail) noted made collected) :
    (Walk.inside target walk).run ⟨trail.reverse, noted⟩
      = outcome limit trail noted made collected := by
  rw [List.reverse_cons] at h
  simp only [Walk.inside, StateT.run_bind, StateT.run_modify, StateT.run_pure, pure_bind]
  rw [h, outcome, outcome]
  cases fits limit made with
  | true =>
      have hback : (trail.reverse ++ [target]).dropLast = trail.reverse := List.dropLast_concat
      simp [hback]
  | false => rfl

/-- Declarations are collected as the collector does it, with room for that many calls at a time. -/
def CollectsAlike (c : Collector) (enter : DeclarationId → Bool → Walk Collected)
    (room : ℕ) : Prop :=
  ∀ (trail : List DeclarationId) (id : DeclarationId) (subscribe : Bool) (noted : List Call),
    (enter id subscribe).run ⟨trail.reverse, noted⟩
      = outcome (trail.length + room) trail noted (c.callsOf trail id subscribe)
        (c.collectFrom trail id subscribe)

section Property

variable {enter : DeclarationId → Bool → Walk Collected} {room : ℕ} {trail : List DeclarationId}
  (owner : String) (subscribe : Bool) (collected : Collected) (noted : List Call)

/-- A property through which no section is entered makes no call. -/
theorem run_walkProperty_of_not_entered {p : PropertyId} (h : c.entered? trail p = none) :
    (c.walkProperty enter owner subscribe collected p).run ⟨trail.reverse, noted⟩
      = some (c.addProperty trail owner subscribe collected p, ⟨trail.reverse, noted⟩) := by
  rcases member?_cases c p with ⟨_, hm⟩ | ⟨info, shape, hs⟩
  · rw [walkProperty, addProperty, hm]
    rfl
  · rw [walkProperty, addProperty, member?_eq_some hs]
    cases hs with
    | @opens v hn =>
        -- a section that is not entered is on the trail
        have hv : v ∈ trail := by
          by_contra hnew
          rw [entered?_eq_some.mpr ⟨⟨info, hn⟩, hnew⟩] at h
          exact absurd h (by simp)
        have hmet : v ∉ c.source.unmet trail :=
          fun hunmet => (SymbolSource.mem_unmet.mp hunmet).2 hv
        simp [addMember, hv, hmet]
    | computed _ _ => rfl
    | generic _ _ _ => rfl
    | misplacedMarker _ => rfl
    | plain _ _ => rfl

/-- **A property leaves the trail as it was** and adds what the collector adds. -/
theorem run_walkProperty (henter : c.CollectsAlike enter room) (p : PropertyId) :
    (c.walkProperty enter owner subscribe collected p).run ⟨trail.reverse, noted⟩
      = outcome (trail.length + (room + 1)) trail noted (c.callsThrough trail subscribe p)
        (c.addProperty trail owner subscribe collected p) := by
  cases h : c.entered? trail p with
  | none =>
      rw [run_walkProperty_of_not_entered owner subscribe collected noted h,
        callsThrough_of_not_entered h]
      simp [outcome]
  | some v =>
      obtain ⟨⟨info, hn⟩, hv⟩ := entered?_eq_some.mp h
      have hunmet := mem_unmet_of_entered? h
      have hinside := henter (v :: trail) v (subscribe || c.isHooked p) noted
      -- the trail of the section is longer by one, and there is room for one call less behind it
      have hlimit : (v :: trail).length + room = trail.length + (room + 1) := by
        rw [List.length_cons]
        omega
      rw [hlimit] at hinside
      rw [callsThrough_of_entered h, walkProperty, addProperty, member?_eq_some (.opens hn)]
      simp [addMember, hv, hunmet, run_inside hinside, outcome]

/-- One property after the other does so too. -/
theorem run_walkProperties (henter : c.CollectsAlike enter room) (ps : List PropertyId) :
    (ps.foldlM (c.walkProperty enter owner subscribe) collected).run ⟨trail.reverse, noted⟩
      = outcome (trail.length + (room + 1)) trail noted
        (ps.flatMap (c.callsThrough trail subscribe))
          (ps.foldl (c.addProperty trail owner subscribe) collected) := by
  induction ps generalizing collected noted with
  | nil => simp [outcome]
  | cons p ps ih =>
      rw [List.foldlM_cons, StateT.run_bind,
        run_walkProperty owner subscribe collected noted henter, List.flatMap_cons, List.foldl_cons]
      by_cases hp : fits (trail.length + (room + 1)) (c.callsThrough trail subscribe p) = true
      · rw [outcome, if_pos hp]
        simp only [Option.bind_eq_bind, Option.bind_some]
        rw [ih]
        simp [outcome, hp]
      · simp [outcome, hp]

end Property

/-- **A walk collects what the collector does**, where there is room for its trails, and
leaves the trail as it was. -/
theorem walk_collectsAlike (c : Collector) (room : ℕ) : c.CollectsAlike (c.walk room) room := by
  induction room with
  | zero =>
      intro trail id subscribe noted
      -- there is no room for the call itself
      have hfull : fits (trail.length + 0) (c.callsOf trail id subscribe) = false := by
        simp [callsOf, fits, Call.keeping]
      rw [outcome, hfull]
      rfl
  | succ room ih =>
      intro trail id subscribe noted
      have hself : fits (trail.length + (room + 1)) [Call.keeping trail id] = true := by
        simp [fits, Call.keeping]
      rw [walk, callsOf_eq_flatMap, collectFrom_eq_foldl]
      simp only [StateT.run_bind, StateT.run_get, StateT.run_modify, StateT.run_pure, pure_bind]
      rw [run_walkProperties _ _ _ _ ih, outcome, outcome, fits_append, hself, Bool.and_true]
      cases fits (trail.length + (room + 1))
        ((c.source.properties id).flatMap (c.callsThrough trail subscribe)) with
      | true => simp [Call.keeping]
      | false => rfl

end Collector

/-! ## What holds of every call -/

/-- What holds of a call that is made when `root` is collected. -/
structure Call.Sound (s : SymbolSource) (root : DeclarationId) (call : Call) : Prop where
  /-- The trail begins with the root. -/
  begins : call.onEntry.head? = some root
  /-- The trail ends with the declaration that is collected. -/
  ends : call.onEntry.getLast? = some call.declaration
  /-- No declaration is on the trail twice. -/
  once : call.onEntry.Nodup
  /-- Behind the root there are sections of the table. -/
  sections : ∀ v ∈ call.onEntry.tail, s.IsSection v
  /-- The trail is left as it was found. -/
  restored : call.onReturn = call.onEntry

/-- A trail is no longer than there are declarations, but for the root. -/
theorem Call.Sound.length_le {s : SymbolSource} {root : DeclarationId} {call : Call}
    (h : call.Sound s root) :
    call.onEntry.length ≤ s.table.size + 1 := by
  have hknown : call.onEntry.tail ⊆ s.handles := fun v hv => (h.sections v hv).1
  have hlength := (List.subperm_of_subset h.once.tail hknown).length_le
  rw [SymbolSource.handles, List.length_map, List.length_range, List.length_tail] at hlength
  omega

namespace Collector

variable {c : Collector}

/-- Behind its root a simple path has sections. -/
theorem SimplePath.isSection {root : DeclarationId} {path : List DeclarationId}
    (h : c.SimplePath [root] path) :
    path.getLast? = some root ∧ ∀ v ∈ path.dropLast, c.source.IsSection v := by
  induction h with
  | here => simp
  | enter _ he _ ih =>
      obtain ⟨_, _, hn⟩ := he
      rw [List.getLast?_cons_cons, List.dropLast_cons_cons]
      exact ⟨ih.1, List.forall_mem_cons.mpr ⟨hn.names.isSection, ih.2⟩⟩

/-- **Every call is sound**, as its trail is a simple path from the root. -/
theorem sound_of_mem_callsOf {root : DeclarationId} {subscribe : Bool} {call : Call}
    (h : call ∈ c.callsOf [root] root subscribe) :
    c.SimplePath [root] call.onEntry.reverse ∧ call.Sound c.source root := by
  obtain ⟨around, id, hpath, rfl⟩ :
      ∃ around id, c.SimplePath [root] (id :: around) ∧ call = .keeping (id :: around) id := by
    rcases List.mem_append.mp h with h | h
    · obtain ⟨v, hv, rfl⟩ := List.mem_map.mp h
      exact ⟨v.around, v.target, (follows_of_mem_visits [root] root [] subscribe v rfl hv).path,
        rfl⟩
    · exact ⟨[], root, .here, List.mem_singleton.mp h⟩
  obtain ⟨hlast, hsections⟩ := hpath.isSection
  have hnodup := hpath.nodup (List.nodup_singleton root)
  rw [Call.keeping, List.reverse_reverse]
  refine ⟨hpath, ?_, ?_, List.nodup_reverse.mpr hnodup, ?_, rfl⟩
  · rw [List.head?_reverse, hlast]
  · simp
  · simpa only [List.tail_reverse, List.mem_reverse] using hsections

/-- Every simple path from the root is the trail of a call. -/
theorem exists_call_of_simplePath {root : DeclarationId} (subscribe : Bool)
    {path : List DeclarationId} (h : c.SimplePath [root] path) :
    ∃ call ∈ c.callsOf [root] root subscribe, call.onEntry.reverse = path := by
  by_cases hroot : path = [root]
  · exact ⟨.keeping [root] root, by simp [callsOf], by simp [Call.keeping, hroot]⟩
  · obtain ⟨v, hv, hpath⟩ := exists_visit_of_simplePath [root] root [] path subscribe rfl h hroot
    refine ⟨v.call, List.mem_append_left _ (List.mem_map_of_mem hv), ?_⟩
    rw [← hpath, Visit.call, Call.keeping, List.reverse_reverse]

/--
**A walk ends, at most one call deeper than there are declarations, and every call
gives the trail back.**

No call finds a declaration twice on its trail, which begins with the root, declared or not, and
goes on with sections of the table. The trails are just the simple paths from the root, and the walk
has an answer, the one of the collector, where there is room for the longest of them.
-/
theorem walk_ends (c : Collector) (root : DeclarationId) (subscribe : Bool) :
    ∃ calls : List Call,
      (∀ room, c.source.table.size + 1 ≤ room →
        (c.walk room root subscribe).run ⟨[root], []⟩
          = some (c.collect root subscribe, ⟨[root], calls⟩))
      ∧ (∀ call ∈ calls, call.Sound c.source root ∧ call.onEntry.length ≤ c.source.table.size + 1)
      ∧ (∀ path, c.SimplePath [root] path ↔ ∃ call ∈ calls, call.onEntry.reverse = path)
      ∧ ∀ room, ((c.walk room root subscribe).run ⟨[root], []⟩).isSome
          ↔ ∀ call ∈ calls, call.onEntry.length ≤ room := by
  -- with enough room the walk is that of the collector, and its calls tell how much is enough
  have hrun : ∀ room, (c.walk room root subscribe).run ⟨[root], []⟩
      = outcome (1 + room) [root] [] (c.callsOf [root] root subscribe) (c.collect root subscribe) :=
    fun room => walk_collectsAlike c room [root] root subscribe []
  have hfits : ∀ room, fits (1 + room) (c.callsOf [root] root subscribe) = true
      ↔ ∀ call ∈ c.callsOf [root] root subscribe, call.onEntry.length ≤ room := by
    intro room
    simp [fits, Nat.lt_one_add_iff]
  have hshort : ∀ call ∈ c.callsOf [root] root subscribe, call.onEntry.length
      ≤ c.source.table.size + 1 :=
    fun call hcall => (sound_of_mem_callsOf hcall).2.length_le
  refine ⟨c.callsOf [root] root subscribe, fun room hroom => ?_,
    fun call hcall => ⟨(sound_of_mem_callsOf hcall).2, hshort call hcall⟩, fun path => ⟨?_, ?_⟩,
    fun room => ?_⟩
  · have hroomy := (hfits room).mpr fun call hcall => Nat.le_trans (hshort call hcall) hroom
    rw [hrun, outcome, if_pos hroomy]
    rfl
  · exact exists_call_of_simplePath subscribe
  · rintro ⟨call, hcall, rfl⟩
    exact (sound_of_mem_callsOf hcall).1
  · rw [← hfits, hrun, outcome]
    cases fits (1 + room) (c.callsOf [root] root subscribe) <;> simp

end Collector

end WrapperGen
