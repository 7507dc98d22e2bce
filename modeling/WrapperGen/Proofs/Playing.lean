import WrapperGen.Disk.Script

/-!
# Playing scripts

Scripts form a lawful monad, and playing goes along with it: a script made of two is played by
playing the first and then the second where the first ended.

What a script does to a disk is looked at in two ways. `Leads` lets any call fail that may fail, at
any moment, and forgets events and the list of failures: it says what can come out at all. `on` lets
no call fail. A machine does one of the things that `Leads` allows (`leads_play`), and one without
failures does what `on` says (`play_faultless`). `Ends` is about a single machine: how it plays a
script, and which calls fail then.
-/

namespace WrapperGen

/-! ## Machines -/

namespace Machine

/-- The machine with more events logged. -/
def noted (m : Machine) (events : List Event) : Machine := { m with events := m.events ++ events }

@[simp] theorem noted_disk (m : Machine) (events : List Event) : (m.noted events).disk = m.disk :=
  rfl

@[simp] theorem noted_faults (m : Machine) (events : List Event) :
    (m.noted events).faults = m.faults := rfl

end Machine

namespace Script

variable {α β : Type}

/-! ## One script after another -/

theorem bind_assoc {γ : Type} (x : Script α) (f : α → Script β) (g : β → Script γ) :
    (x.bind f).bind g = x.bind fun a => (f a).bind g := by
  induction x with
  | done a => rfl
  | note event next ih => exact congrArg (note event) ih
  | call c next ih => exact congrArg (call c) (funext ih)

theorem bind_done (x : Script α) : x.bind done = x := by
  induction x with
  | done a => rfl
  | note event next ih => exact congrArg (note event) ih
  | call c next ih => exact congrArg (call c) (funext ih)

instance : LawfulMonad Script :=
  LawfulMonad.mk' _ bind_done (fun _ _ => rfl) bind_assoc

@[simp] theorem play_pure (a : α) (m : Machine) : (pure a : Script α).play m = (a, m) := rfl

@[simp] theorem play_ask (c : DiskCall) (m : Machine) : (ask c).play m = m.answer c := rfl

@[simp] theorem play_log (event : Event) (m : Machine) :
    (log event).play m = ((), m.noted [event]) := rfl

@[simp] theorem play_bind (x : Script α) (f : α → Script β) (m : Machine) :
    (x >>= f).play m = (f (x.play m).1).play (x.play m).2 := by
  show (x.bind f).play m = _
  induction x generalizing m with
  | done a => rfl
  | note event next ih => exact ih _
  | call c next ih => exact ih _ _

@[simp] theorem play_logAll (events : List Event) (m : Machine) :
    (logAll events).play m = ((), m.noted events) := by
  induction events generalizing m with
  | nil => simp [logAll, play, Machine.noted]
  | cons event events ih =>
      rw [logAll, play, ih]
      simp [Machine.noted]

end Script

/-! ## What can come out -/

/-- What a disk may answer to a call when the calls in `unsure` may fail:
the truth, or a failure. -/
def Disk.Answers (unsure : DiskCall → Prop) (d : Disk) (c : DiskCall) (answer : c.Answer)
    (d' : Disk) : Prop :=
  (answer, d') = d.answer c ∨ ∃ fault, unsure c ∧ (answer, d') = d.answerFailing fault c

/-- A machine answers truthfully, or makes the call fail that its next failure meets. -/
theorem Machine.answers_answer {unsure : DiskCall → Prop} (m : Machine) (c : DiskCall)
    (h : ∀ fault faults, m.faults = some fault :: faults → unsure c) :
    m.disk.Answers unsure c (m.answer c).1 (m.answer c).2.disk := by
  obtain ⟨disk, faults, events⟩ := m
  match faults with
  | [] => exact Or.inl rfl
  | none :: _ => exact Or.inl rfl
  | some fault :: _ => exact Or.inr ⟨fault, h _ _ rfl, rfl⟩

namespace Script

variable {α β : Type} {unsure : DiskCall → Prop}

/-- Played on the disk `d`, a script can end with the result `a` and leave the disk `d'`. -/
inductive Leads (unsure : DiskCall → Prop) : Script α → Disk → α → Disk → Prop where
  | done {a : α} {d : Disk} : Leads unsure (done a) d a d
  | note {event : Event} {next : Script α} {d d' : Disk} {a : α} :
      Leads unsure next d a d' → Leads unsure (note event next) d a d'
  | call {c : DiskCall} {next : c.Answer → Script α} {d d₁ d' : Disk} {answer : c.Answer} {a : α} :
      d.Answers unsure c answer d₁ → Leads unsure (next answer) d₁ a d' →
      Leads unsure (call c next) d a d'

theorem leads_pure {a b : α} {d d' : Disk} :
    (pure a : Script α).Leads unsure d b d' ↔ b = a ∧ d' = d := by
  constructor
  · intro h
    cases h
    exact ⟨rfl, rfl⟩
  · rintro ⟨rfl, rfl⟩
    exact .done

theorem leads_ask {c : DiskCall} {answer : c.Answer} {d d' : Disk} :
    (ask c).Leads unsure d answer d' ↔ d.Answers unsure c answer d' := by
  constructor
  · intro h
    cases h with
    | call hanswer hnext =>
        cases hnext
        exact hanswer
  · exact fun h => .call h .done

theorem leads_logAll {events : List Event} {d d' : Disk} {a : Unit} :
    (logAll events).Leads unsure d a d' ↔ d' = d := by
  induction events with
  | nil => exact leads_pure.trans (by simp)
  | cons event events ih =>
      rw [← ih]
      constructor
      · intro h
        cases h with
        | note h => exact h
      · exact .note

theorem leads_log {event : Event} {d d' : Disk} {a : Unit} :
    (log event).Leads unsure d a d' ↔ d' = d :=
  (leads_logAll : (logAll [event]).Leads unsure d a d' ↔ d' = d)

theorem leads_bind {x : Script α} {f : α → Script β} {d d' : Disk} {b : β} :
    (x >>= f).Leads unsure d b d' ↔ ∃ a d₁, x.Leads unsure d a d₁ ∧ (f a).Leads unsure d₁ b d' := by
  show (x.bind f).Leads unsure d b d' ↔ _
  constructor
  · intro h
    induction x generalizing d with
    | done a => exact ⟨a, d, .done, h⟩
    | note event next ih =>
        cases h with
        | note h =>
            obtain ⟨a, d₁, hx, hf⟩ := ih h
            exact ⟨a, d₁, .note hx, hf⟩
    | call c next ih =>
        cases h with
        | call hanswer h =>
            obtain ⟨a, d₁, hx, hf⟩ := ih _ h
            exact ⟨a, d₁, .call hanswer hx, hf⟩
  · rintro ⟨a, d₁, hx, hf⟩
    induction hx with
    | done => exact hf
    | note _ ih => exact .note (ih hf)
    | call hanswer _ ih => exact .call hanswer (ih hf)

/-- No failure meets a call that is not in `unsure` while a script is played. -/
def FailsOnly (unsure : DiskCall → Prop) : Script α → Machine → Prop
  | done _, _ => True
  | note event next, m => FailsOnly unsure next (m.noted [event])
  | call c next, m =>
    (∀ fault faults, m.faults = some fault :: faults → unsure c)
      ∧ FailsOnly unsure (next (m.answer c).1) (m.answer c).2

/-- **What a machine does is among what can come out.** -/
theorem leads_play (x : Script α) (m : Machine) (h : x.FailsOnly unsure m) :
    x.Leads unsure m.disk (x.play m).1 (x.play m).2.disk := by
  induction x generalizing m with
  | done a => exact .done
  | note event next ih => exact .note (ih _ h)
  | call c next ih => exact .call (m.answers_answer c h.1) (ih _ _ h.2)

theorem failsOnly_logAll (events : List Event) (m : Machine) :
    (logAll events).FailsOnly unsure m := by
  induction events generalizing m with
  | nil => trivial
  | cons event events ih => exact ih _

theorem failsOnly_bind {x : Script α} {f : α → Script β} {m : Machine} :
    (x >>= f).FailsOnly unsure m ↔ x.FailsOnly unsure m
      ∧ (f (x.play m).1).FailsOnly unsure (x.play m).2 := by
  show (x.bind f).FailsOnly unsure m ↔ _
  induction x generalizing m with
  | done a => exact (and_iff_right trivial).symm
  | note event next ih => exact ih
  | call c next ih => exact (and_congr_right fun _ => ih _).trans and_assoc.symm

theorem failsOnly_of_forall (h : ∀ c, unsure c) (x : Script α) (m : Machine) :
    x.FailsOnly unsure m := by
  induction x generalizing m with
  | done a => trivial
  | note event next ih => exact ih _
  | call c next ih => exact ⟨fun _ _ _ => h c, ih _ _⟩

/-- What any machine does is among what can come out when every call may fail. -/
theorem leads_play_any (x : Script α) (m : Machine) :
    x.Leads (fun _ => True) m.disk (x.play m).1 (x.play m).2.disk :=
  leads_play x m (failsOnly_of_forall (fun _ => trivial) x m)

/-- Played on the machine `m`, a script gives `a` and leaves the machine `m'`, and failures meet
only calls in `unsure` then. -/
def Ends (unsure : DiskCall → Prop) (x : Script α) (m : Machine) (a : α) (m' : Machine) : Prop :=
  x.FailsOnly unsure m ∧ x.play m = (a, m')

theorem ends_pure (a : α) (m : Machine) : (pure a : Script α).Ends unsure m a m := ⟨trivial, rfl⟩

theorem ends_log (event : Event) (m : Machine) : (log event).Ends unsure m () (m.noted [event]) :=
  ⟨trivial, rfl⟩

theorem ends_logAll (events : List Event) (m : Machine) :
    (logAll events).Ends unsure m () (m.noted events) :=
  ⟨failsOnly_logAll _ _, play_logAll _ _⟩

theorem Ends.bind {x : Script α} {f : α → Script β} {m m₁ m' : Machine} {a : α} {b : β}
    (h : x.Ends unsure m a m₁) (h' : (f a).Ends unsure m₁ b m') : (x >>= f).Ends unsure m b m' := by
  rw [Ends, failsOnly_bind, play_bind, h.2]
  exact ⟨⟨h.1, h'.1⟩, h'.2⟩

/-! ## Without failures -/

/-- Plays a script on a disk where no call is made to fail. -/
def on : Script α → Disk → α × Disk
  | done a, d => (a, d)
  | note _ next, d => next.on d
  | call c next, d => (next (d.answer c).1).on (d.answer c).2

@[simp] theorem on_pure (a : α) (d : Disk) : (pure a : Script α).on d = (a, d) := rfl

@[simp] theorem on_ask (c : DiskCall) (d : Disk) : (ask c).on d = d.answer c := rfl

@[simp] theorem on_log (event : Event) (d : Disk) : (log event).on d = ((), d) := rfl

@[simp] theorem on_logAll (events : List Event) (d : Disk) : (logAll events).on d = ((), d) := by
  induction events with
  | nil => rfl
  | cons event events ih => exact ih

@[simp] theorem on_bind (x : Script α) (f : α → Script β) (d : Disk) :
    (x >>= f).on d = (f (x.on d).1).on (x.on d).2 := by
  show (x.bind f).on d = _
  induction x generalizing d with
  | done a => rfl
  | note event next ih => exact ih _
  | call c next ih => exact ih _ _

/-- What happens without failures can happen. -/
theorem leads_on (x : Script α) (d : Disk) : x.Leads unsure d (x.on d).1 (x.on d).2 := by
  induction x generalizing d with
  | done a => exact .done
  | note event next ih => exact .note (ih d)
  | call c next ih => exact .call (Or.inl rfl) (ih _ _)

/-- Where no call may fail, nothing else can happen. -/
theorem on_of_leads {x : Script α} {d d' : Disk} {a : α} (h : x.Leads (fun _ => False) d a d') :
    x.on d = (a, d') := by
  induction h with
  | done => rfl
  | note _ ih => exact ih
  | @call c next d d₁ d' answer a hanswer _ ih =>
      rcases hanswer with htrue | ⟨_, hnever, _⟩
      · rw [on, ← htrue]
        exact ih
      · exact hnever.elim

/-- **A machine without failures** gives the true answers to all calls. -/
theorem play_faultless (x : Script α) (m : Machine) (h : m.faults = []) :
    (x.play m).1 = (x.on m.disk).1 ∧ (x.play m).2.disk = (x.on m.disk).2
      ∧ (x.play m).2.faults = [] := by
  induction x generalizing m with
  | done a => exact ⟨rfl, rfl, h⟩
  | note event next ih => exact ih (m.noted [event]) h
  | call c next ih =>
      obtain ⟨disk, faults, events⟩ := m
      subst h
      exact ih _ _ rfl

theorem failsOnly_faultless (x : Script α) (m : Machine) (h : m.faults = []) :
    x.FailsOnly unsure m := by
  induction x generalizing m with
  | done a => trivial
  | note event next ih => exact ih (m.noted [event]) h
  | call c next ih =>
      obtain ⟨disk, faults, events⟩ := m
      subst h
      exact ⟨by simp, ih _ _ rfl⟩

end Script

end WrapperGen
