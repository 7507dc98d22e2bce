import WrapperGen.Proofs.Retrying

/-!
# Diagnostics that are returned

What is found wrong with a model is put into the outcome of the round that takes it up. A round that
breaks off returns no outcome, but the models it has taken up by then are handled and no later round
says anything about them. So when rounds are run over one source until one succeeds, every model
that is ready is taken up exactly once, and its diagnostics are returned if the round in which that
happens does not break off.
-/

namespace WrapperGen

/-- A diagnostic is raised by a model: the model is refused for it, or it is found while the wrapper
of the model is generated. -/
inductive SymbolSource.Raises (s : SymbolSource) (o : Options) (id : DeclarationId)
    (d : Diagnostic) : Prop where
  | refused : buildModel s id o.markers = .error d → Raises s o id d
  | generated {model : ConfigModel} :
      buildModel s id o.markers = .ok model → d ∈ (generate s model o).diagnostics → Raises s o id d

theorem kind_of_raises {s : SymbolSource} {o : Options} {id : DeclarationId} {d : Diagnostic}
    (h : s.Raises o id d) :
    d.kind ≠ .deferredSymbol := by
  cases h with
  | refused hmodel =>
      rw [(diagnostic_of_buildModel hmodel).1]
      simp
  | generated _ hd => exact (kind_of_generate hd).2

theorem RoundOutcome.hasErrors_iff {o : RoundOutcome} :
    o.hasErrors = true ↔ ∃ d ∈ o.diagnostics, d.severity = .error := by
  rw [hasErrors, decide_eq_true_iff, errorCount, Diagnostic.errorCount, List.countP_pos_iff]
  simp only [decide_eq_true_iff]

namespace PlayedRound

variable {r : PlayedRound} {id : DeclarationId} {d : Diagnostic}

/-- A model was taken up: it was refused, or its file was stored. -/
def TookUp (r : PlayedRound) (id : DeclarationId) : Prop := id ∈ r.course.taken

theorem tookUp_iff : r.TookUp id ↔ r.Refused id ∨ r.Stored id := Course.mem_taken

theorem isReady_of_tookUp (h : r.TookUp id) : r.IsReady id := by
  obtain ⟨x, hx, rfl⟩ := List.mem_map.mp (mem_fates_of_mem_taken h)
  exact isReady_of_fate hx

/-- What is taken up is refused or stored under its name. -/
theorem exists_tookUp_iff {name : String} :
    (∃ id, r.TookUp id ∧ r.source.nameOf id = name)
      ↔ name ∈ r.refusedNames ∨ name ∈ r.storedNames := by
  constructor
  · rintro ⟨id, htook, rfl⟩
    refine (tookUp_iff.mp htook).imp (fun h => List.mem_map_of_mem h) fun h => ?_
    obtain ⟨x, hx, rfl⟩ := List.mem_map.mp h
    exact List.mem_map_of_mem hx
  · rintro (h | h)
    · obtain ⟨id, hrefused, hname⟩ := List.mem_map.mp h
      exact ⟨id, tookUp_iff.mpr (Or.inl hrefused), hname⟩
    · obtain ⟨x, hx, hname⟩ := List.mem_map.mp h
      exact ⟨x.1, tookUp_iff.mpr (Or.inr (List.mem_map_of_mem hx)), hname⟩

/-- **The models that were taken up raise what is said about models.** -/
theorem mem_course_diagnostics :
    d ∈ r.course.diagnostics ↔ ∃ id, r.TookUp id ∧ r.source.Raises r.before.options id d := by
  constructor
  · intro hd
    obtain ⟨⟨id, fate⟩, hfate, hin⟩ := List.mem_flatMap.mp hd
    obtain ⟨m, m', hmeets⟩ := meets hfate
    cases hmeets with
    | known _ => exact absurd hin List.not_mem_nil
    | @refused why _ _ hmodel =>
        rw [List.mem_singleton.mp hin]
        exact ⟨id, tookUp_iff.mpr (Or.inl (Course.mem_refused.mpr ⟨why, hfate⟩)), .refused hmodel⟩
    | @stored model file _ _ _ hmodel _ =>
        have hstored : (id, file) ∈ r.stored := Course.mem_stored.mpr ⟨_, hfate⟩
        exact ⟨id, tookUp_iff.mpr (Or.inr (List.mem_map_of_mem hstored)), .generated hmodel hin⟩
  · rintro ⟨id, htook, hraises⟩
    obtain ⟨⟨id, fate⟩, hfate, rfl⟩ := List.mem_map.mp (mem_fates_of_mem_taken htook)
    -- the source alone decides what a model raises, so its fate has raised the same
    have hnew : ¬r.Knew id := (mem_taken_iff (List.mem_map_of_mem hfate)).mp htook
    refine List.mem_flatMap.mpr ⟨_, hfate, ?_⟩
    obtain ⟨m, m', hmeets⟩ := meets hfate
    cases hmeets with
    | known hknown => exact absurd hknown hnew
    | @refused why _ _ hmodel =>
        cases hraises with
        | refused hd => exact List.mem_singleton.mpr (Except.error.inj (hd.symm.trans hmodel))
        | generated hok _ => exact absurd (hok.symm.trans hmodel) (by simp)
    | @stored model _ _ _ _ hmodel _ =>
        cases hraises with
        | refused herror => exact absurd (herror.symm.trans hmodel) (by simp)
        | generated hok hd =>
            rw [Except.ok.inj (hok.symm.trans hmodel)] at hd
            exact hd

/-- Apart from models that wait, an outcome is about the models that were taken up. -/
theorem mem_diagnostics_iff {o : RoundOutcome} (h : r.result = .ok o)
    (hkind : d.kind ≠ .deferredSymbol) :
    d ∈ o.diagnostics ↔ ∃ id, r.TookUp id ∧ r.source.Raises r.before.options id d := by
  rw [mem_diagnostics h, mem_course_diagnostics]
  exact or_iff_right fun hfound => hkind (kind_of_mem_found hfound)

/-- A round has errors to return if a model that it took up raises one. -/
theorem hasErrors_iff {o : RoundOutcome} (h : r.result = .ok o) :
    o.hasErrors = true ↔ ∃ id d, r.TookUp id ∧ r.source.Raises r.before.options id d
      ∧ d.severity = .error := by
  rw [RoundOutcome.hasErrors_iff]
  constructor
  · rintro ⟨d, hd, herror⟩
    have hkind : d.kind ≠ .deferredSymbol := fun hkind => by
      rw [Diagnostic.severity, hkind] at herror
      exact absurd herror (by decide)
    obtain ⟨id, htook, hraises⟩ := (mem_diagnostics_iff h hkind).mp hd
    exact ⟨id, d, htook, hraises, herror⟩
  · rintro ⟨id, d, htook, hraises, herror⟩
    exact ⟨d, (mem_diagnostics_iff h (kind_of_raises hraises)).mpr ⟨id, htook, hraises⟩, herror⟩

end PlayedRound

/-! ## Runs over one source -/

/-- A diagnostic is in an outcome that one of the rounds returned. -/
def Returned (rounds : List PlayedRound) (d : Diagnostic) : Prop :=
  ∃ r ∈ rounds, ∃ o, r.result = .ok o ∧ d ∈ o.diagnostics

/-- A model is taken up in one of the rounds and in no other. -/
def TakenUpOnce (rounds : List PlayedRound) (id : DeclarationId) : Prop :=
  ∃ earlier r later, rounds = earlier ++ r :: later ∧ r.TookUp id
    ∧ ∀ r' ∈ earlier ++ later, ¬r'.TookUp id

namespace Processor

/-- The settings stay the same in a run. -/
theorem options_of_mem_rounds {p : Processor} {calls : List RoundCall} {r : PlayedRound}
    (h : r ∈ p.rounds calls) :
    r.before.options = p.options ∧ ∃ call ∈ calls, r.source = call.source := by
  induction calls generalizing p with
  | nil => exact absurd h List.not_mem_nil
  | cons call calls ih =>
      rcases List.mem_cons.mp h with rfl | hlater
      · exact ⟨rfl, call, List.mem_cons_self, rfl⟩
      · obtain ⟨hoptions, call', hcall', hsource⟩ := ih hlater
        rw [PlayedRound.after_eq] at hoptions
        exact ⟨hoptions, call', List.mem_cons_of_mem _ hcall', hsource⟩

/-- **What was taken up is not taken up again.** -/
theorem not_tookUp_again {p : Processor} {calls : List RoundCall} {earlier later : List PlayedRound}
    {r r' : PlayedRound} {id id' : DeclarationId} (hrun : p.rounds calls = earlier ++ r :: later)
    (hr' : r' ∈ earlier) (htook : r'.TookUp id')
    (hname : r'.source.nameOf id' = r.source.nameOf id) : ¬r.TookUp id := by
  intro hagain
  have hhandled : r.source.nameOf id ∈ r.before.handled := by
    refine (mem_before_handled hrun).mpr (Or.inr ?_)
    rw [List.mem_flatMap, List.mem_flatMap]
    exact (PlayedRound.exists_tookUp_iff.mp ⟨id', htook, hname⟩).imp
      (fun h => ⟨r', hr', h⟩) fun h => ⟨r', hr', h⟩
  rcases PlayedRound.exists_tookUp_iff.mp ⟨id, hagain, rfl⟩ with hrefused | hstored
  · exact (PlayedRound.not_handled_of_refused hrefused).1 hhandled
  · exact PlayedRound.not_handled_of_stored hstored hhandled

section OneSource

variable {p : Processor} {s : SymbolSource} {machines : List Machine}
    {rounds earlier : List PlayedRound}
  {r : PlayedRound}

theorem of_mem_rounds (hrun : p.rounds (machines.map (RoundCall.mk s)) = rounds) (hr : r ∈ rounds) :
    r.source = s ∧ r.before.options = p.options := by
  obtain ⟨hoptions, call, hcall, hsource⟩ := options_of_mem_rounds (hrun ▸ hr)
  obtain ⟨m, _, rfl⟩ := List.mem_map.mp hcall
  exact ⟨hsource, hoptions⟩

/-- What is in the outcomes of a run, apart from models that wait. -/
theorem mem_diagnostics_of_mem_rounds {o : RoundOutcome} {d : Diagnostic}
    (hrun : p.rounds (machines.map (RoundCall.mk s)) = rounds) (hr : r ∈ rounds)
    (hok : r.result = .ok o) (hkind : d.kind ≠ .deferredSymbol) :
    d ∈ o.diagnostics ↔ ∃ id, r.TookUp id ∧ s.Raises p.options id d := by
  rw [PlayedRound.mem_diagnostics_iff hok hkind, (of_mem_rounds hrun hr).1,
    (of_mem_rounds hrun hr).2]

theorem hasErrors_of_mem_rounds {o : RoundOutcome}
    (hrun : p.rounds (machines.map (RoundCall.mk s)) = rounds) (hr : r ∈ rounds)
    (hok : r.result = .ok o) :
    o.hasErrors = true ↔ ∃ id d, r.TookUp id ∧ s.Raises p.options id d ∧ d.severity = .error := by
  rw [PlayedRound.hasErrors_iff hok, (of_mem_rounds hrun hr).1, (of_mem_rounds hrun hr).2]

/-- A model that is taken up at all is taken up once. -/
theorem takenUpOnce_of_tookUp {id : DeclarationId}
    (hrun : p.rounds (machines.map (RoundCall.mk s)) = rounds) (hr : r ∈ rounds)
    (htook : r.TookUp id) : TakenUpOnce rounds id := by
  have hsource : ∀ r' ∈ rounds, r'.source = s := fun r' hr' => (of_mem_rounds hrun hr').1
  obtain ⟨before, after, hsplit⟩ := List.append_of_mem hr
  refine ⟨before, r, after, hsplit, htook, fun r' hr' htook' => ?_⟩
  have hname : r'.source.nameOf id = r.source.nameOf id := by
    rw [hsource r hr, hsource r' (hsplit ▸ (List.mem_append.mp hr').elim (List.mem_append_left _)
      fun h => List.mem_append_right _ (List.mem_cons_of_mem _ h))]
  rcases List.mem_append.mp hr' with hbefore | hafter
  · exact not_tookUp_again (hrun.trans hsplit) hbefore htook' hname htook
  · obtain ⟨between, rest, hbetween⟩ := List.append_of_mem hafter
    rw [hbetween, ← List.cons_append, ← List.append_assoc] at hsplit
    exact not_tookUp_again (hrun.trans hsplit)
      (List.mem_append_right _ List.mem_cons_self) htook hname.symm htook'

/-- When a round has returned an outcome, every model that is ready was taken up. -/
theorem exists_tookUp {o : RoundOutcome} {id : DeclarationId} (hfresh : p.handled = [])
    (hrun : p.rounds (machines.map (RoundCall.mk s)) = earlier ++ [r]) (hok : r.result = .ok o)
    (hid : id ∈ p.ready s) :
    ∃ r' ∈ earlier ++ [r], r'.TookUp id := by
  have hlast : r ∈ earlier ++ [r] := List.mem_append_right _ List.mem_cons_self
  obtain ⟨hsource, hoptions⟩ := of_mem_rounds hrun hlast
  have hready : r.IsReady id := by
    rw [← PlayedRound.mem_ready, ready, hsource, hoptions]
    exact hid
  rcases (PlayedRound.completed hok).fate id hready with ⟨hknew, _, _⟩ | ⟨_, hreports, _⟩
    | ⟨_, _, hstored⟩
  · -- it was handled in an earlier round, under its name
    rcases (mem_before_handled hrun).mp hknew with hp | hearlier
    · rw [hfresh] at hp
      exact absurd hp List.not_mem_nil
    · rw [List.mem_flatMap, List.mem_flatMap] at hearlier
      obtain ⟨r', hr', hnames⟩ : ∃ r' ∈ earlier,
          r.source.nameOf id ∈ r'.refusedNames ∨ r.source.nameOf id ∈ r'.storedNames :=
        hearlier.elim (fun ⟨r', hr', h⟩ => ⟨r', hr', Or.inl h⟩) fun ⟨r', hr', h⟩ =>
          ⟨r', hr', Or.inr h⟩
      obtain ⟨id', htook, hname⟩ := PlayedRound.exists_tookUp_iff.mpr hnames
      obtain ⟨hsource', hoptions'⟩ := of_mem_rounds hrun (List.mem_append_left _ hr')
      have hmodel := (PlayedRound.isReady_of_tookUp htook).model
      rw [hsource', hoptions', ← hsource, ← hoptions] at hmodel
      rw [hsource', ← hsource] at hname
      obtain rfl : id' = id := hmodel.eq_of_nameOf_eq hready.model hname
      exact ⟨r', List.mem_append_left _ hr', htook⟩
  · exact ⟨r, hlast,
      PlayedRound.tookUp_iff.mpr (Or.inl ((PlayedRound.reports_iff hok hready).mp hreports))⟩
  · exact ⟨r, hlast, PlayedRound.tookUp_iff.mpr (Or.inr hstored)⟩

end OneSource

/-! ## A run with a round that breaks off -/

theorem exists_brokenRound_result : ∃ e, brokenRound.result = .error e := by
  obtain ⟨e, m', hends, _, _⟩ := brokenRound_ends
  have hrun : brokenRound.run = ((.error e, afterFirst), m') := hends.2
  exact ⟨e, by rw [PlayedRound.result, hrun]⟩

theorem rounds_halfNamed :
    freshProcessor.rounds ([brokenMachine, brokenRound.run.2].map (RoundCall.mk halfNamed))
      = [brokenRound] ++ [nextRound] := by
  obtain ⟨e, m', hends, _, _⟩ := brokenRound_ends
  have hrun : brokenRound.run = ((.error e, afterFirst), m') := hends.2
  have hafter : brokenRound.after = afterFirst := by
    rw [PlayedRound.after, hrun]
  exact congrArg (fun p => [brokenRound, ⟨p, halfNamed, brokenRound.run.2⟩]) hafter

/-- Only the second round returns an outcome. -/
theorem eq_nextRound_of_result {r : PlayedRound} {o : RoundOutcome}
    (hr : r ∈ [brokenRound] ++ [nextRound]) (hok : r.result = .ok o) : r = nextRound := by
  obtain ⟨e, hfailed⟩ := exists_brokenRound_result
  rcases List.mem_pair.mp hr with rfl | rfl
  · exact absurd (hok.symm.trans hfailed) (by simp)
  · rfl

theorem nextRound_silent {id : DeclarationId} {d : Diagnostic} (htook : nextRound.TookUp id) :
    ¬halfNamed.Raises afterFirst.options id d := by
  have hready : afterFirst.ready halfNamed = [⟨0⟩, ⟨1⟩] := halfNamed_ready
  have hmem : id ∈ afterFirst.ready halfNamed :=
    PlayedRound.mem_ready.mpr (PlayedRound.isReady_of_tookUp htook)
  rw [hready] at hmem
  rcases List.mem_pair.mp hmem with rfl | rfl
  · -- the first model was handled before
    have hknew : nextRound.Knew ⟨0⟩ := List.mem_cons_self
    exact absurd hknew
      ((PlayedRound.mem_taken_iff (PlayedRound.mem_fates_of_mem_taken htook)).mp htook)
  · -- the second has no properties
    have hmodel : buildModel halfNamed ⟨1⟩ afterFirst.options.markers = .ok second :=
      buildModel_second
    have hnone : (generate halfNamed second afterFirst.options).diagnostics = [] := by
      rw [generate, collectModel, Collector.collect, Collector.collectFrom_eq_foldl]
      rfl
    intro hraises
    cases hraises with
    | refused herror => exact absurd (herror.symm.trans hmodel) (by simp)
    | generated hok hd =>
        rw [Except.ok.inj (hok.symm.trans hmodel), hnone] at hd
        exact absurd hd List.not_mem_nil

/-! ## What is returned -/

/--
**A diagnostic is returned if a model that raises it is taken up in a round that does not
break off**, and only then.

This is said of rounds that are run over one source until one succeeds. Every model that is ready is
taken up once in them, so the diagnostics of a model taken up in a round that breaks off are not
returned at all, unless another model raises the same.
-/
theorem returned_iff_tookUp {p : Processor} {s : SymbolSource} {machines : List Machine}
    {earlier : List PlayedRound} {r : PlayedRound} {o : RoundOutcome} (hfresh : p.handled = [])
    (hrun : p.rounds (machines.map (RoundCall.mk s)) = earlier ++ [r]) (hok : r.result = .ok o) :
    (∀ id ∈ p.ready s, TakenUpOnce (earlier ++ [r]) id)
      ∧ (∀ id ∈ p.ready s, ∀ d, s.Raises p.options id d →
          (Returned (earlier ++ [r]) d ↔ ∃ r' ∈ earlier ++ [r], (∃ o', r'.result = .ok o')
            ∧ ∃ id', r'.TookUp id' ∧ s.Raises p.options id' d))
      ∧ ((∃ r' ∈ earlier ++ [r], ∃ o', r'.result = .ok o' ∧ o'.hasErrors = true)
          ↔ ∃ r' ∈ earlier ++ [r], (∃ o', r'.result = .ok o')
            ∧ ∃ id d, r'.TookUp id ∧ s.Raises p.options id d ∧ d.severity = .error) := by
  refine ⟨fun id hid => ?_, fun id _ d hraises => ⟨?_, ?_⟩, ?_, ?_⟩
  · obtain ⟨r', hr', htook⟩ := exists_tookUp hfresh hrun hok hid
    exact takenUpOnce_of_tookUp hrun hr' htook
  · rintro ⟨r', hr', o', hok', hd⟩
    exact ⟨r', hr', ⟨o', hok'⟩,
      (mem_diagnostics_of_mem_rounds hrun hr' hok' (kind_of_raises hraises)).mp hd⟩
  · rintro ⟨r', hr', ⟨o', hok'⟩, htook⟩
    exact ⟨r', hr', o', hok',
      (mem_diagnostics_of_mem_rounds hrun hr' hok' (kind_of_raises hraises)).mpr htook⟩
  · rintro ⟨r', hr', o', hok', herrors⟩
    exact ⟨r', hr', ⟨o', hok'⟩, (hasErrors_of_mem_rounds hrun hr' hok').mp herrors⟩
  · rintro ⟨r', hr', ⟨o', hok'⟩, htook⟩
    exact ⟨r', hr', o', hok', (hasErrors_of_mem_rounds hrun hr' hok').mpr htook⟩

/-- A model without a name for its wrapper is reported in the round that takes it up, unless
that round breaks off. -/
theorem returned_iff_tookUp_halfNamed :
    (freshProcessor.handled = []
      ∧ freshProcessor.rounds ([brokenMachine, brokenRound.run.2].map (RoundCall.mk halfNamed))
        = [brokenRound] ++ [nextRound]
      ∧ (∃ e, brokenRound.result = .error e) ∧ (∃ o, nextRound.result = .ok o)
      ∧ (∀ id ∈ freshProcessor.ready halfNamed, TakenUpOnce ([brokenRound] ++ [nextRound]) id)
      ∧ halfNamed.Raises freshProcessor.options ⟨0⟩ firstUnnamed
      ∧ ¬Returned ([brokenRound] ++ [nextRound]) firstUnnamed)
    ∧ freshProcessor.rounds ([{ disk := {} }].map (RoundCall.mk unnamed)) = [] ++ [refusingRound]
      ∧ refusingRound.result = .ok { diagnostics := [modelUnnamed] }
      ∧ unnamed.Raises freshProcessor.options ⟨0⟩ modelUnnamed
      ∧ Returned ([] ++ [refusingRound]) modelUnnamed := by
  have hfirst : halfNamed.Raises freshProcessor.options ⟨0⟩ firstUnnamed :=
    .refused buildModel_first
  have hready : ⟨0⟩ ∈ freshProcessor.ready halfNamed := by
    rw [halfNamed_ready]
    exact List.mem_cons_self
  obtain ⟨o, hok⟩ := nextRound_result
  obtain ⟨honce, hdropped, _⟩ := returned_iff_tookUp rfl rounds_halfNamed hok
  refine ⟨⟨rfl, rounds_halfNamed, exists_brokenRound_result, ⟨o, hok⟩, honce, hfirst, fun h => ?_⟩,
    ?_⟩
  · -- the first model was taken up in the round that broke off, and the second raises nothing
    obtain ⟨r, hr, ⟨o', hok'⟩, id, htook, hraises⟩ := (hdropped ⟨0⟩ hready _ hfirst).mp h
    rw [eq_nextRound_of_result hr hok'] at htook
    exact nextRound_silent htook hraises
  · have hunnamed : unnamed.Raises freshProcessor.options ⟨0⟩ modelUnnamed := .refused rfl
    have hready : (⟨0⟩ : DeclarationId) ∈ freshProcessor.ready unnamed := by
      rw [show freshProcessor.ready unnamed = [⟨0⟩] from refusingRound_ready]
      exact List.mem_cons_self
    have htook : refusingRound.TookUp ⟨0⟩ := by
      rw [PlayedRound.TookUp, refusingRound_course]
      exact List.mem_cons_self
    have hrun : freshProcessor.rounds ([{ disk := {} }].map (RoundCall.mk unnamed))
        = [] ++ [refusingRound] := rfl
    obtain ⟨_, hreturned, _⟩ := returned_iff_tookUp rfl hrun refusingRound_result
    exact ⟨hrun, refusingRound_result, hunnamed, (hreturned ⟨0⟩ hready _ hunnamed).mpr
      ⟨refusingRound, List.mem_cons_self, ⟨_, refusingRound_result⟩, ⟨0⟩, htook, hunnamed⟩⟩

/-- **The diagnostics of a round that breaks off are dropped**: the error with the first model is in
no outcome, and no outcome has errors. -/
theorem diagnostic_is_dropped :
    freshProcessor.handled = []
      ∧ freshProcessor.rounds ([brokenMachine, brokenRound.run.2].map (RoundCall.mk halfNamed))
        = [brokenRound] ++ [nextRound]
      ∧ (∃ e, brokenRound.result = .error e) ∧ (∃ o, nextRound.result = .ok o)
      ∧ ⟨0⟩ ∈ freshProcessor.ready halfNamed
      ∧ halfNamed.Raises freshProcessor.options ⟨0⟩ firstUnnamed
      ∧ firstUnnamed.severity = .error ∧ ¬Returned ([brokenRound] ++ [nextRound]) firstUnnamed
      ∧ ∀ r ∈ [brokenRound] ++ [nextRound], ∀ o, r.result = .ok o → o.hasErrors = false := by
  refine ⟨rfl, rounds_halfNamed, exists_brokenRound_result, nextRound_result, ?_,
    .refused buildModel_first, rfl, ?_, ?_⟩
  · rw [halfNamed_ready]
    exact List.mem_cons_self
  · rintro ⟨r, hr, o, hok, hd⟩
    rw [eq_nextRound_of_result hr hok] at hok
    obtain ⟨id, htook, hraises⟩ := (PlayedRound.mem_diagnostics_iff hok (by decide)).mp hd
    exact nextRound_silent htook hraises
  · intro r hr o hok
    rw [eq_nextRound_of_result hr hok] at hok
    rw [← Bool.not_eq_true, PlayedRound.hasErrors_iff hok]
    rintro ⟨id, d, htook, hraises, _⟩
    exact nextRound_silent htook hraises

end Processor

end WrapperGen
