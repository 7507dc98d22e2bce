import WrapperGen.Proofs.RoundAccount
import WrapperGen.Proofs.SectionSearch

/-!
# Models that are skipped

A model is handled when its file is stored, but also when it is refused, and what was handled is
passed over by every later round. So a model that had no name for its wrapper is never stored, even
when it gets one. It is the only kind of model that is skipped: all others are stored in the first
round that gets to them and does not break off.
-/

namespace WrapperGen

/-- The marker of a declaration gives its wrapper a name. -/
def SymbolSource.NamesWrapper (s : SymbolSource) (markers : Markers) (id : DeclarationId) : Prop :=
  ∃ arguments name, s.arguments? (.declaration id) markers.config = some arguments
    ∧ arguments.text? "wrapperName" = some name ∧ name ≠ ""

/-- A model whose wrapper has a name is not refused. -/
theorem buildModel_of_namesWrapper {s : SymbolSource} {markers : Markers} {id : DeclarationId}
    (hmodel : s.IsModel markers id) (hname : s.NamesWrapper markers id) :
    ∃ model, buildModel s id markers = .ok model := by
  obtain ⟨info, hinfo, _⟩ := hmodel.visible
  obtain ⟨arguments, name, hargs, htext, hne⟩ := hname
  unfold buildModel
  rw [hinfo]
  dsimp only
  rw [hargs, Option.getD_some, htext]
  split
  · exact absurd ‹some name = none› (by simp)
  · exact absurd (Option.some.inj ‹some name = some ""›) hne
  · exact ⟨_, rfl⟩

namespace Processor

/-- What was handled when a round of a run began: what was from the start, refused, or stored. -/
theorem mem_before_handled {p : Processor} {calls : List RoundCall}
    {earlier later : List PlayedRound} {r : PlayedRound}
    (h : p.rounds calls = earlier ++ r :: later) {name : String} :
    name ∈ r.before.handled ↔ name ∈ p.handled ∨ name ∈ earlier.flatMap PlayedRound.refusedNames
      ∨ name ∈ earlier.flatMap PlayedRound.storedNames := by
  induction earlier generalizing p calls with
  | nil =>
      cases calls with
      | nil => exact absurd h (by simp [rounds])
      | cons call calls =>
          obtain ⟨rfl, _⟩ := List.cons.inj h
          simp
  | cons r' earlier ih =>
      cases calls with
      | nil => exact absurd h (by simp [rounds])
      | cons call calls =>
          obtain ⟨rfl, hrest⟩ := List.cons.inj h
          rw [ih hrest, PlayedRound.mem_after_handled, List.flatMap_cons, List.flatMap_cons,
            List.mem_append, List.mem_append, or_assoc, or_or_or_comm]

/-- What is refused in a run is not stored in it, before or after. -/
theorem not_stored_of_refused (p : Processor) (calls : List RoundCall) {name : String}
    (h : name ∈ (p.rounds calls).flatMap PlayedRound.refusedNames) :
    name ∉ (p.rounds calls).flatMap PlayedRound.storedNames := by
  induction calls generalizing p with
  | nil => exact List.not_mem_nil
  | cons call calls ih =>
      simp only [rounds, List.flatMap_cons, List.mem_append] at h ⊢
      rcases h with hnow | hlater
      · rintro (hstored | hstored)
        · exact (PlayedRound.not_handled_of_refused hnow).2 hstored
        · exact not_handled_of_rounds _ _ (Or.inr hstored)
            (PlayedRound.mem_after_handled.mpr (Or.inr (Or.inl hnow)))
      · rintro (hstored | hstored)
        · exact not_handled_of_rounds _ _ (Or.inl hlater)
            (PlayedRound.mem_after_handled.mpr (Or.inr (Or.inr hstored)))
        · exact ih _ hlater hstored

/--
**A model whose wrapper has a name is stored, unless one of its name was refused
in an earlier round.**

This is said of every round that returns an outcome, for all models that are ready in its source.
-/
theorem stored_iff_never_refused {p : Processor} {calls : List RoundCall}
    {earlier : List PlayedRound} {r : PlayedRound} {o : RoundOutcome} {id : DeclarationId}
    (hfresh : p.handled = []) (hrun : p.rounds calls = earlier ++ [r]) (hok : r.result = .ok o)
    (hready : r.IsReady id) (hname : r.source.NamesWrapper r.before.options.markers id) :
    r.source.nameOf id ∈ (earlier ++ [r]).flatMap PlayedRound.storedNames
      ↔ r.source.nameOf id ∉ earlier.flatMap PlayedRound.refusedNames := by
  constructor
  · intro hstored hrefused
    rw [← hrun] at hstored
    refine not_stored_of_refused p calls ?_ hstored
    rw [hrun, List.flatMap_append]
    exact List.mem_append_left _ hrefused
  · intro hnever
    rw [List.flatMap_append, List.flatMap_singleton, List.mem_append]
    rcases (PlayedRound.completed hok).fate id hready with ⟨hknew, _, _⟩ | ⟨_, hreports, _⟩
      | ⟨_, _, hstored⟩
    · -- what was handled before can only have been stored
      rcases (mem_before_handled hrun).mp hknew with hp | hrefused | hstored
      · rw [hfresh] at hp
        exact absurd hp List.not_mem_nil
      · exact absurd hrefused hnever
      · exact Or.inl hstored
    · obtain ⟨d, hd⟩ :=
        PlayedRound.buildModel_of_refused ((PlayedRound.reports_iff hok hready).mp hreports)
      obtain ⟨model, hmodel⟩ := buildModel_of_namesWrapper hready.model hname
      exact absurd (hd.symm.trans hmodel) (by simp)
    · obtain ⟨x, hx, rfl⟩ := List.mem_map.mp hstored
      exact Or.inr (List.mem_map.mpr ⟨x, hx, rfl⟩)

/-! ## A model that gets its name late -/

/-- A source with one model, whose marker has these arguments. -/
def singleModel (arguments : Arguments) : SymbolSource where
  table := {
    declarations :=
      [⟨⟨⟨"dev.example", ["Model"]⟩, .plainClass, none⟩, .ofList [("Config", arguments)], []⟩]
    distinct := List.nodup_singleton _ }

/-- A processor that was not called yet. -/
def freshProcessor : Processor where
  options := { markers := ⟨"Config", "Nest", "Hook"⟩ }
  roots := ⟨⟨"sources"⟩, ⟨"records"⟩, "1"⟩

theorem singleModel_isReady (arguments : Arguments) :
    (singleModel arguments).isReady "Nest" ⟨0⟩ = true := by
  have hnone : ((singleModel arguments).unmet [⟨0⟩]).filter
      (· ∈ (singleModel arguments).sections "Nest" ⟨0⟩) = [] :=
    rfl
  rw [SymbolSource.isReady, SymbolSource.metFrom_of_none hnone, SymbolSource.metFrom]
  rfl

theorem singleModel_scan (arguments : Arguments) :
    scan (singleModel arguments) freshProcessor.options.markers = ⟨[⟨0⟩], []⟩ := by
  have hmodels : models (singleModel arguments) ⟨"Config", "Nest", "Hook"⟩ = [⟨0⟩] := rfl
  rw [show freshProcessor.options.markers = ⟨"Config", "Nest", "Hook"⟩ from rfl, scan, hmodels,
    List.filter_singleton, List.filter_singleton, singleModel_isReady]
  rfl

/-- The source as it is in the first round, and as it is in the second. -/
def unnamed : SymbolSource := singleModel .empty

def named : SymbolSource := singleModel (.ofList [("wrapperName", .string "ModelConfig")])

/-- A run of two rounds: between them the wrapper of the model gets its name. -/
def lateName : List RoundCall := [⟨unnamed, { disk := {} }⟩, ⟨named, { disk := {} }⟩]

/-- The rounds of the run. -/
def refusingRound : PlayedRound := ⟨freshProcessor, unnamed, { disk := {} }⟩

def skippingRound : PlayedRound :=
  ⟨freshProcessor.handle "dev.example.Model", named, { disk := {} }⟩

/-- What is reported in the first round. -/
def modelUnnamed : Diagnostic where
  kind := .missingWrapperName
  symbol := "dev.example.Model"
  message := "config marker has no `wrapperName`; no wrapper generated"

theorem refusingRound_ready : refusingRound.before.ready refusingRound.source = [⟨0⟩] :=
  congrArg ScanResult.ready (singleModel_scan _)

theorem refusingRound_course :
    refusingRound.course = { fates := [(⟨0⟩, .refused modelUnnamed)] } := by
  rw [PlayedRound.course, refusingRound_ready]
  rfl

theorem refusingRound_result : refusingRound.result = .ok { diagnostics := [modelUnnamed] } := by
  have hfound : refusingRound.before.found refusingRound.source = {} :=
    congrArg (fun scanned : ScanResult => deferAll unnamed scanned.deferred) (singleModel_scan _)
  rw [PlayedRound.result_eq, refusingRound_course, hfound]
  rfl

theorem skippingRound_ready : skippingRound.before.ready skippingRound.source = [⟨0⟩] :=
  congrArg ScanResult.ready (singleModel_scan _)

theorem skippingRound_course : skippingRound.course = { fates := [(⟨0⟩, .known)] } := by
  rw [PlayedRound.course, skippingRound_ready]
  rfl

theorem rounds_lateName : freshProcessor.rounds lateName = [refusingRound] ++ [skippingRound] := by
  have hafter : refusingRound.after = skippingRound.before := by
    rw [PlayedRound.after_eq, refusingRound_course]
    rfl
  rw [lateName, rounds, rounds, rounds]
  exact congrArg (fun p => [refusingRound, ⟨p, named, { disk := {} }⟩]) hafter

theorem skippingRound_isReady : skippingRound.IsReady ⟨0⟩ := by
  rw [← PlayedRound.mem_ready, skippingRound_ready]
  exact List.mem_cons_self

theorem skippingRound_result : skippingRound.result = .ok {} := by
  have hfound : skippingRound.before.found skippingRound.source = {} :=
    congrArg (fun scanned : ScanResult => deferAll named scanned.deferred) (singleModel_scan _)
  rw [PlayedRound.result_eq, skippingRound_course, hfound]
  rfl

theorem named_namesWrapper : named.NamesWrapper skippingRound.before.options.markers ⟨0⟩ :=
  ⟨_, "ModelConfig", rfl, rfl, by decide⟩

theorem stored_iff_never_refused_lateName :
    freshProcessor.handled = [] ∧ freshProcessor.rounds lateName
      = [refusingRound] ++ [skippingRound]
      ∧ skippingRound.result = .ok {} ∧ skippingRound.IsReady ⟨0⟩
      ∧ named.NamesWrapper skippingRound.before.options.markers ⟨0⟩
      ∧ (named.nameOf ⟨0⟩ ∈ ([refusingRound] ++ [skippingRound]).flatMap PlayedRound.storedNames
        ↔ named.nameOf ⟨0⟩ ∉ [refusingRound].flatMap PlayedRound.refusedNames) :=
  ⟨rfl, rounds_lateName, skippingRound_result, skippingRound_isReady, named_namesWrapper,
    stored_iff_never_refused rfl rounds_lateName skippingRound_result skippingRound_isReady
      named_namesWrapper⟩

/-- **A model that was refused for want of a name is skipped** when it has
got one, without a word. -/
theorem refused_model_is_skipped :
    freshProcessor.rounds lateName = [refusingRound] ++ [skippingRound]
      ∧ skippingRound.result = .ok {}
      ∧ skippingRound.IsReady ⟨0⟩ ∧ named.NamesWrapper skippingRound.before.options.markers ⟨0⟩
      ∧ named.nameOf ⟨0⟩ ∉ ([refusingRound] ++ [skippingRound]).flatMap
        PlayedRound.storedNames := by
  refine ⟨rounds_lateName, skippingRound_result, skippingRound_isReady, named_namesWrapper, ?_⟩
  rw [List.flatMap_append, List.flatMap_singleton, List.flatMap_singleton, PlayedRound.storedNames,
    PlayedRound.storedNames, PlayedRound.stored, PlayedRound.stored, refusingRound_course,
    skippingRound_course]
  exact List.not_mem_nil

end Processor

end WrapperGen
