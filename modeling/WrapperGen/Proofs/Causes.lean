import WrapperGen.Proofs.Footprint

/-!
# Where causes come from

Storing a file fails with a cause that the system gave. The one cause that the program gives itself,
that a path has no file name, never comes up: the paths of sources and of records always end in a
name (`ofSystem_store`). What the system answers is looked at call by call, then script by script.
-/

namespace WrapperGen

/-- The causes that a system gives. -/
def IoCause.OfSystem : IoCause → Prop
  | .noFileName _ => False
  | _ => True

open IoCause

/-- Of two steps that may fail one did. -/
theorem bind_eq_error {ε α β : Type} {x : Except ε α} {f : α → Except ε β} {e : ε} :
    (x >>= f) = .error e ↔ x = .error e ∨ ∃ a, x = .ok a ∧ f a = .error e := by
  cases x with
  | error e' => simp [Bind.bind, Except.bind]
  | ok a => simp [Bind.bind, Except.bind]

theorem exists_ok_of_isOk {ε α : Type} {x : Except ε α} (h : x.isOk = true) : ∃ a, x = .ok a := by
  cases x with
  | error e => cases h
  | ok a => exact ⟨a, rfl⟩

theorem exists_error_of_isOk {ε α : Type} {x : Except ε α} (h : x.isOk = false) :
    ∃ e, x = .error e := by
  cases x with
  | error e => exact ⟨e, rfl⟩
  | ok a => cases h

namespace Disk

variable {d : Disk} {p : Path} {name : String} {cause : IoCause}

/-! ## Operations -/

theorem ofSystem_follow {segments : List String} {place : Location}
    (h : d.follow place segments = .error cause) :
    cause.OfSystem := by
  induction segments generalizing place with
  | nil => cases h
  | cons segment rest ih =>
      rw [follow] at h
      -- each condition gives its own cause, or the way goes on
      split at h
      · cases h
        trivial
      · split at h
        · exact ih h
        · split at h
          · exact ih h
          · split at h
            · cases h
              trivial
            · split at h
              · cases h
                trivial
              · exact ih h

theorem ofSystem_locateDirectory (h : d.locateDirectory p = .error cause) : cause.OfSystem := by
  rcases bind_eq_error.mp h with h | ⟨place, _, h⟩
  · rw [locate] at h
    split at h
    · cases h
      trivial
    · exact ofSystem_follow h
  · split at h
    · cases h
    · cases h
      trivial

theorem ofSystem_child (h : d.child p name = .error cause) : cause.OfSystem := by
  rcases bind_eq_error.mp h with h | ⟨place, _, h⟩
  · exact ofSystem_locateDirectory h
  · split at h
    · cases h
      trivial
    · cases h

theorem ofSystem_contentAt {place : Location} (h : d.contentAt place = .error cause) :
    cause.OfSystem := by
  rw [contentAt] at h
  split at h
  · cases h
    trivial
  · cases h
    trivial
  · cases h

theorem ofSystem_makeDirectory (h : d.makeDirectory p = .error cause) : cause.OfSystem := by
  rw [makeDirectory] at h
  split at h
  · rcases bind_eq_error.mp h with h | ⟨_, _, h⟩
    · exact ofSystem_locateDirectory h
    · cases h
      trivial
  · rcases bind_eq_error.mp h with h | ⟨place, _, h⟩
    · exact ofSystem_child h
    · split at h
      · cases h
        trivial
      · cases h

theorem ofSystem_createFile (h : d.createFile p name = .error cause) : cause.OfSystem := by
  rcases bind_eq_error.mp h with h | ⟨place, _, h⟩
  · exact ofSystem_child h
  · split at h
    · cases h
      trivial
    · cases h

theorem ofSystem_fill {content : Content} (h : d.fill p name content = .error cause) :
    cause.OfSystem := by
  rcases bind_eq_error.mp h with h | ⟨place, _, h⟩
  · exact ofSystem_child h
  · rcases bind_eq_error.mp h with h | ⟨_, _, h⟩
    · exact ofSystem_contentAt h
    · cases h

theorem ofSystem_rename {target : String} (h : d.rename p name target = .error cause) :
    cause.OfSystem := by
  rcases bind_eq_error.mp h with h | ⟨old, _, h⟩
  · exact ofSystem_child h
  · rcases bind_eq_error.mp h with h | ⟨new, _, h⟩
    · exact ofSystem_child h
    · rcases bind_eq_error.mp h with h | ⟨_, _, h⟩
      · exact ofSystem_contentAt h
      · split at h
        · cases h
          trivial
        · cases h

end Disk

/-! ## Calls -/

/-- All failures that a machine has in store have causes that a system gives. -/
def Machine.FailsLikeSystem (m : Machine) : Prop :=
  ∀ fault, some fault ∈ m.faults → fault.cause.OfSystem

namespace Script

variable {α : Type} {m : Machine} {p path : Path} {name content process : String} {cause : IoCause}

theorem failsLikeSystem_answer (h : m.FailsLikeSystem) (c : DiskCall) :
    (m.answer c).2.FailsLikeSystem := by
  obtain ⟨disk, faults, events⟩ := m
  match faults with
  | [] => exact h
  | none :: _ => exact fun fault hfault => h fault (List.mem_cons_of_mem _ hfault)
  | some _ :: _ => exact fun fault hfault => h fault (List.mem_cons_of_mem _ hfault)

theorem failsLikeSystem_play (h : m.FailsLikeSystem) (x : Script α) :
    (x.play m).2.FailsLikeSystem := by
  induction x generalizing m with
  | done a => exact h
  | note event next ih => exact ih h
  | call c next ih => exact ih _ (failsLikeSystem_answer h c)

theorem ofSystem_apply {d : Disk} {after : Except IoCause Disk}
    (hafter : ∀ cause, after = .error cause → cause.OfSystem)
    (h : (d.apply after).1 = .error cause) :
    cause.OfSystem := by
  cases after with
  | error c =>
      cases h
      exact hafter _ rfl
  | ok e => cases h

/-- A call fails with a cause of its operation, or with that of a failure in store. -/
theorem ofSystem_answer (c : DiskCall) {answer : c.Answer} (hm : m.FailsLikeSystem)
    (h : (m.answer c).1 = answer) (htrue : (m.disk.answer c).1 = answer → cause.OfSystem)
    (hfailing : ∀ fault : DiskFault, (m.disk.answerFailing fault c).1 = answer →
      cause = fault.cause) :
    cause.OfSystem := by
  obtain ⟨disk, faults, events⟩ := m
  match faults with
  | [] => exact htrue h
  | none :: _ => exact htrue h
  | some fault :: _ =>
      rw [hfailing fault h]
      exact hm fault List.mem_cons_self

theorem ofSystem_openDirectory (hm : m.FailsLikeSystem)
    (h : (m.answer (.openDirectory p)).1 = .error cause) :
    cause.OfSystem := by
  refine ofSystem_answer (.openDirectory p) hm h (fun h => ?_)
    fun _ h => (Except.error.inj h).symm
  rcases bind_eq_error.mp h with h | ⟨_, _, h⟩
  · exact Disk.ofSystem_locateDirectory h
  · cases h

theorem ofSystem_makeDirectory (hm : m.FailsLikeSystem)
    (h : (m.answer (.makeDirectory p)).1 = .error cause) :
    cause.OfSystem :=
  ofSystem_answer (.makeDirectory p) hm h (ofSystem_apply fun _ => Disk.ofSystem_makeDirectory)
    fun _ h => (Except.error.inj h).symm

theorem ofSystem_createFile (hm : m.FailsLikeSystem)
    (h : (m.answer (.createFile p name)).1 = .error cause) :
    cause.OfSystem :=
  ofSystem_answer (.createFile p name) hm h (ofSystem_apply fun _ => Disk.ofSystem_createFile)
    fun _ h => (Except.error.inj h).symm

theorem ofSystem_fill (hm : m.FailsLikeSystem)
    (h : (m.answer (.fill p name content)).1 = .error cause) :
    cause.OfSystem :=
  ofSystem_answer (.fill p name content) hm h (ofSystem_apply fun _ => Disk.ofSystem_fill)
    fun _ h => (Except.error.inj h).symm

theorem ofSystem_rename {target : String} (hm : m.FailsLikeSystem)
    (h : (m.answer (.rename p name target)).1 = .error cause) : cause.OfSystem :=
  ofSystem_answer (.rename p name target) hm h (ofSystem_apply fun _ => Disk.ofSystem_rename)
    fun _ h => (Except.error.inj h).symm

/-! ## Scripts -/

theorem ofSystem_makeDirectories {paths : List Path} (hm : m.FailsLikeSystem)
    (h : ((makeDirectories paths).play m).1 = .error cause) : cause.OfSystem := by
  -- a directory that is there after all is no failure
  have hcheck : ∀ {m : Machine} {path : Path} {c : IoCause}, c.OfSystem →
      ((ask (.isDirectory path) >>= fun there => if there = true then pure (.ok ())
        else pure (.error c) :
        Script (Except IoCause Unit)).play m).1 = .error cause → cause.OfSystem := by
    intro m path c hc h
    rw [play_bind] at h
    split at h
    · cases h
    · cases h
      exact hc
  induction paths generalizing m with
  | nil => cases h
  | cons path around ih =>
      rw [makeDirectories, play_bind, play_ask] at h
      have hmade := failsLikeSystem_answer hm (.makeDirectory path)
      split at h
      · cases h
      · rw [play_bind] at h
        have haround := failsLikeSystem_play hmade (makeDirectories around)
        split at h
        · rename_i c heq
          cases h
          exact ih hmade heq
        · rw [play_bind, play_ask] at h
          split at h
          · cases h
          · rename_i c heq
            exact hcheck (ofSystem_makeDirectory haround heq) h
      · rename_i c _ heq
        exact hcheck (ofSystem_makeDirectory hm heq) h

variable {e : IoError}

theorem ofSystem_ensureDirectory (hm : m.FailsLikeSystem)
    (h : ((ensureDirectory path).play m).1 = .error e) :
    e.cause.OfSystem := by
  rw [ensureDirectory, play_bind, play_ask] at h
  have hopened := failsLikeSystem_answer hm (.openDirectory path)
  split at h
  · cases h
  · rw [play_bind] at h
    have hmade := failsLikeSystem_play hopened (makeDirectories path.outwards)
    split at h
    · rename_i c heq
      cases h
      exact ofSystem_makeDirectories hopened heq
    · rw [play_bind, play_ask] at h
      split at h
      · cases h
      · rename_i c heq
        cases h
        exact ofSystem_openDirectory hmade heq
  · rename_i c _ heq
    cases h
    exact ofSystem_openDirectory hm heq

theorem ofSystem_fillTemporary (hm : m.FailsLikeSystem)
    (h : ((fillTemporary p name content).play m).1 = .error cause) : cause.OfSystem := by
  rw [fillTemporary, play_bind, play_ask] at h
  have hcreated := failsLikeSystem_answer hm (.createFile p name)
  split at h
  · rename_i c heq
    cases h
    exact ofSystem_createFile hm heq
  · exact ofSystem_fill hcreated h

theorem ofSystem_replaceFile (hm : m.FailsLikeSystem)
    (h : ((replaceFile process path p name content).play m).1 = .error e) : e.cause.OfSystem := by
  -- what becomes of the temporary file afterwards does not change the error
  rw [replaceFile, play_bind] at h
  have hfilled := failsLikeSystem_play hm (fillTemporary p (temporaryName name process) content)
  split at h
  · rename_i c heq
    rw [play_bind] at h
    cases h
    exact ofSystem_fillTemporary hm heq
  · rw [play_bind, play_ask] at h
    split at h
    · rename_i c heq
      rw [play_bind] at h
      cases h
      exact ofSystem_rename hfilled heq
    · cases h

/-- Where the path ends in a name, writing a file fails with a cause of the system. -/
theorem ofSystem_writeAtomic (hm : m.FailsLikeSystem) (hname : path.fileName? = some name)
    (h : ((writeAtomic process path content).play m).1 = .error e) : e.cause.OfSystem := by
  rw [writeAtomic, hname] at h
  dsimp only at h
  rw [play_bind] at h
  have hopened := failsLikeSystem_play hm (ensureDirectory path.directory)
  split at h
  · rename_i e' heq
    cases h
    exact ofSystem_ensureDirectory hm heq
  · rw [play_bind, play_ask] at h
    -- that the file cannot be read is no failure
    have hread := failsLikeSystem_answer hopened (.readText path.directory name)
    split at h
    · split at h
      · cases h
      · exact ofSystem_replaceFile hread h
    · exact ofSystem_replaceFile hread h

/-- **Storing a file fails with a cause of the system.** -/
theorem ofSystem_store {roots : OutputRoots} {f : GeneratedFile} (hm : m.FailsLikeSystem)
    (h : ((roots.store f).play m).1 = .error e) : e.cause.OfSystem := by
  obtain ⟨source, record, hstores⟩ := roots.exists_stores f
  rw [OutputRoots.store, play_bind] at h
  have hwritten :=
    failsLikeSystem_play hm (writeAtomic roots.process (roots.sourcePath f) f.content)
  split at h
  · rename_i e' heq
    cases h
    exact ofSystem_writeAtomic hm hstores.source_eq heq
  · rw [play_bind] at h
    split at h
    · rename_i e' heq
      cases h
      exact ofSystem_writeAtomic hwritten hstores.record_eq heq
    · cases h

end Script

end WrapperGen
