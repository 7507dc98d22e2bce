import WrapperGen.Proofs.DumpTexts
import WrapperGen.Proofs.Emitting
import WrapperGen.Proofs.InPlace
import WrapperGen.Proofs.LoadedTables
import WrapperGen.Proofs.RoundCourse
import WrapperGen.Proofs.SectionSearch
import WrapperGen.Run

/-!
# The verdict on a run

A run does all its work first and judges it afterwards. The work, from loading the dump to storing
the list of models that wait, takes no notice of whether errors are allowed (`attempt`), and the
judgement touches nothing (`run_eq`). So a run that fails for errors in models leaves the same files
as one that accepts them.

The list of models that wait is written so that the names can be read off its lines: names in a
loaded table are made of identifiers, which are not empty and hold no line feed. It is stored even
when no model waits, and what was there before is gone.
-/

namespace WrapperGen

open Text

/-! ## The list of models that wait -/

/-- The qualified name of a declaration of a loaded table fills a line. -/
theorem SymbolTable.Loaded.oneLine_nameOf {t : SymbolTable} (h : t.Loaded) {id : DeclarationId}
    {info : DeclarationInfo} (hinfo : SymbolSource.declaration? { table := t } id = some info) :
    SymbolSource.nameOf { table := t } id ≠ ""
      ∧ OneLine (SymbolSource.nameOf { table := t } id) := by
  obtain ⟨entry, hentry, rfl⟩ := SymbolSource.entry?_of_declaration? hinfo
  have hspelled : entry.info.name.Spelled := h.spelled (List.mem_of_getElem? hentry)
  rw [SymbolSource.nameOf, hinfo]
  dsimp only
  rw [ClassName.canonical_eq hspelled.simpleNames_ne_nil]
  constructor
  · rw [Ne, joined_eq_empty_iff fun x hx => ne_empty_of_isIdentifier (hspelled.identifiers x hx)]
    exact hspelled.segments_ne_nil
  · exact oneLine_joined (by decide) fun x hx => oneLine_of_isIdentifier (hspelled.identifiers x hx)

namespace Run

/-- **The names can be read off the list**, one from each line, and there is nothing
behind the last line feed. -/
theorem parts_deferredListing {names : List String} (h : ∀ name ∈ names, name ≠ "" ∧ OneLine name) :
    parts '\n' (deferredListing names) = names ++ [""] := by
  have hempty : joined "\n" names = "" ↔ names = [] :=
    joined_eq_empty_iff fun name hname => (h name hname).1
  -- a line feed behind the last name is one before an empty text
  have hlisting : deferredListing names = joined "\n" (names ++ [""]) := by
    rw [deferredListing]
    by_cases hnames : names = []
    · rw [if_pos (hempty.mpr hnames), hnames]
      rfl
    · rw [if_neg (mt hempty.mp hnames), joined_append hnames (List.cons_ne_nil _ _), joined,
        String.append_empty]
  rw [hlisting]
  refine parts_joined rfl (by simp) fun name hname => ?_
  rcases List.mem_append.mp hname with hname | hname
  · exact (h name hname).2
  · rw [List.mem_singleton.mp hname]
    exact List.not_mem_nil

/-! ## Work and verdict -/

/-- The verdict on a round. -/
def verdict (allowErrors : Bool) (o : RoundOutcome) : Except Failure RoundOutcome :=
  if o.hasErrors && !allowErrors then .error (.diagnostics o.errorCount) else .ok o

/-- The work of a run, without the verdict on it. -/
def attempt (s : Settings) (process : String) : Script (Except Failure RoundOutcome) := do
  match s.symbols with
  | none => return .error .missingSymbols
  | some path =>
    match ← SymbolTable.load path with
    | .error e => return .error (.symbols e)
    | .ok table =>
      Script.log (loadedEvent path table)
      let (result, _) ← (processor s process).runRound { table := table }
      match result with
      | .error e => return .error (.output e)
      | .ok o =>
        match ← storeDeferred s process o with
        | .error e => return .error (.output e)
        | .ok () =>
          Script.log (completeEvent o)
          return .ok o

/-- **The verdict comes after the work.** -/
theorem run_eq (s : Settings) (process : String) :
    run s process = attempt s process >>= fun result => pure
      (result >>= verdict s.allowErrors) := by
  -- both do the same up to the verdict, case by case
  unfold run attempt
  cases s.symbols with
  | none => rfl
  | some path =>
      rw [bind_assoc]
      refine bind_congr fun loaded => ?_
      cases loaded with
      | error e => rfl
      | ok t =>
          simp only [generateFrom, bind_assoc]
          refine bind_congr fun _ => bind_congr fun answer => ?_
          obtain ⟨result, p⟩ := answer
          cases result with
          | error e => rfl
          | ok o =>
              simp only [bind_assoc]
              refine bind_congr fun stored => ?_
              cases stored with
              | error e => rfl
              | ok _ =>
                  simp only [bind_assoc]
                  refine bind_congr fun _ => ?_
                  simp only [pure_bind]
                  show _ = pure (verdict s.allowErrors o)
                  rw [verdict]
                  split <;> rfl

/-- The verdict is about a round that found errors when they are not allowed. -/
theorem verdict_eq_error {allowErrors : Bool} {o : RoundOutcome} {n : Nat} :
    verdict allowErrors o = .error (.diagnostics n)
      ↔ 0 < n ∧ n = o.errorCount ∧ allowErrors = false := by
  rw [verdict, RoundOutcome.hasErrors]
  by_cases herrors : 0 < o.errorCount
  · cases allowErrors with
    | true => simp
    | false =>
        simp only [herrors, decide_true, Bool.not_false, Bool.and_self, if_true, Except.error.injEq,
          Failure.diagnostics.injEq, and_true]
        exact ⟨fun heq => ⟨heq ▸ herrors, heq.symm⟩, fun h => h.2.symm⟩
  · simp only [herrors, decide_false, Bool.false_and, Bool.false_eq_true, if_false,
      reduceCtorEq, false_iff]
    rintro ⟨hn, rfl, _⟩
    exact herrors hn

theorem verdict_eq_ok {allowErrors : Bool} {o o' : RoundOutcome} :
    verdict allowErrors o = .ok o' ↔ o' = o ∧ (o.errorCount = 0 ∨ allowErrors = true) := by
  rw [verdict, RoundOutcome.hasErrors]
  cases allowErrors with
  | true => simp [eq_comm]
  | false =>
      by_cases herrors : 0 < o.errorCount
      · simp [herrors, Nat.ne_of_gt herrors]
      · simp [Nat.eq_zero_of_not_pos herrors, eq_comm]

/-! ## What a run gets to -/

/-- Played on the machine `m`, a run loads the table `t`, and the round over it returns `o`. -/
def RoundReturns (s : Settings) (process : String) (m : Machine) (t : SymbolTable)
    (o : RoundOutcome) : Prop :=
  ∃ path m₁ p m₂, s.symbols = some path ∧ (SymbolTable.load path).play m = (.ok t, m₁)
    ∧ ((processor s process).runRound { table := t }).play (m₁.noted [loadedEvent path t])
      = ((.ok o, p), m₂)

variable {s : Settings} {process : String} {m : Machine} {t : SymbolTable} {o : RoundOutcome}

/-- The table of a run is made from a dump. -/
theorem RoundReturns.loaded (h : RoundReturns s process m t o) : t.Loaded := by
  obtain ⟨path, m₁, _, _, _, hload, _⟩ := h
  rw [SymbolTable.load, Script.play_bind] at hload
  replace hload := congrArg Prod.fst hload
  split at hload
  · exact absurd hload (by simp)
  · rename_i text _
    rw [Script.play_bind] at hload
    have htext : SymbolTable.ofText text = .ok t := hload
    rw [SymbolTable.ofText] at htext
    cases hread : SymbolDump.read text with
    | error e => simp [hread] at htext
    | ok dump =>
        rw [hread] at htext
        dsimp only at htext
        cases hdump : SymbolTable.ofDump dump with
        | error e => simp [hdump] at htext
        | ok t' =>
            rw [hdump] at htext
            exact ⟨dump, hdump.trans (congrArg Except.ok (Except.ok.inj htext))⟩

/-- The models that a round puts off are those that the scan defers. -/
theorem RoundReturns.deferred_eq (h : RoundReturns s process m t o) :
    o.deferred = (scan { table := t } s.options.markers).deferred.map
      (SymbolSource.nameOf { table := t }) := by
  obtain ⟨path, m₁, p, m₂, _, _, hround⟩ := h
  rw [Processor.runRound_eq, Script.play_bind, Script.play_bind] at hround
  have hresult := congrArg (fun answer => answer.1.1) hround
  generalize ((Processor.course { table := t } ((processor s process).ready { table := t })
    (processor s process)).play _).1 = c at hresult
  rw [Script.play_pure] at hresult
  dsimp only at hresult
  rw [Course.result] at hresult
  split at hresult
  · exact absurd hresult (by simp)
  · rw [← Except.ok.inj hresult]
    rfl

/-- The names of the models that a round puts off fill a line each. -/
theorem RoundReturns.oneLine (h : RoundReturns s process m t o) :
    ∀ name ∈ o.deferred, name ≠ "" ∧ OneLine name := by
  rw [h.deferred_eq]
  intro name hname
  obtain ⟨id, hid, rfl⟩ := List.mem_map.mp hname
  obtain ⟨info, hinfo, _⟩ := (mem_deferred.mp hid).1.visible
  exact h.loaded.oneLine_nameOf hinfo

/-- The work of a run that gets to the end. -/
theorem play_attempt {path : Path} {p : Processor} {m₁ m₂ m₃ : Machine}
    (hsymbols : s.symbols = some path) (hload : (SymbolTable.load path).play m = (.ok t, m₁))
    (hround : ((processor s process).runRound { table := t }).play (m₁.noted [loadedEvent path t])
      = ((.ok o, p), m₂))
    (hstored : (storeDeferred s process o).play m₂ = (.ok (), m₃)) :
    (attempt s process).play m = (.ok o, m₃.noted [completeEvent o]) := by
  simp only [attempt, hsymbols, Script.play_bind, hload, Script.play_log, hround, hstored]
  rfl

/-- The work of a run gets to the end, or it fails for some other reason than errors in models. -/
theorem attempt_cases (s : Settings) (process : String) (m : Machine) :
    (∃ t o m₂ m₃, (attempt s process).play m = (.ok o, m₃.noted [completeEvent o])
      ∧ RoundReturns s process m t o
        ∧ (storeDeferred s process o).play m₂ = (.ok (), m₃))
      ∨ ∃ f, ((attempt s process).play m).1 = .error f ∧ ∀ n, f ≠ .diagnostics n := by
  cases hsymbols : s.symbols with
  | none => exact Or.inr ⟨.missingSymbols, by simp [attempt, hsymbols], by simp⟩
  | some path =>
      rcases hload : (SymbolTable.load path).play m with ⟨e | t, m₁⟩
      · exact Or.inr ⟨.symbols e, by simp [attempt, hsymbols, hload], by simp⟩
      rcases hround : ((processor s process).runRound { table := t }).play
        (m₁.noted [loadedEvent path t])
        with ⟨⟨e | o, p⟩, m₂⟩
      · exact Or.inr ⟨.output e, by simp [attempt, hsymbols, hload, hround], by simp⟩
      rcases hstored : (storeDeferred s process o).play m₂ with ⟨e | ⟨⟩, m₃⟩
      · exact Or.inr ⟨.output e, by simp [attempt, hsymbols, hload, hround, hstored], by simp⟩
      · have hplay := play_attempt hsymbols hload hround hstored
        exact Or.inl ⟨t, o, m₂, m₃, hplay, ⟨path, m₁, p, m₂, hsymbols, hload, hround⟩, hstored⟩

/-- A list that was stored is in place. -/
theorem holds_of_storeDeferred {path : Path} {m' : Machine} (hpath : s.deferredFile = some path)
    (h : (storeDeferred s process o).play m = (.ok (), m')) :
    m'.disk.Holds path (deferredListing o.deferred) := by
  rw [storeDeferred, hpath] at h
  dsimp only at h
  rw [Script.play_bind] at h
  have hleads := Script.leads_play_any (writeAtomic process path (deferredListing o.deferred)) m
  rcases hwrite : (writeAtomic process path (deferredListing o.deferred)).play m with ⟨result, m₁⟩
  rw [hwrite] at h hleads
  cases result with
  | error e => exact absurd (congrArg Prod.fst h) (by simp)
  | ok status =>
      rw [show m' = m₁ from (congrArg Prod.snd h).symm]
      exact Disk.holds_of_writeAtomic hleads

/-- A run that ends with its outcome, or fails for errors in models. -/
def Concludes (result : Except Failure RoundOutcome) : Prop :=
  (∃ o, result = .ok o) ∨ ∃ n, result = .error (.diagnostics n)

/--
**A run that does all its work fails just when its round found errors that are not allowed**, and
says how many they are.

The list of models that wait has the names of the round on its lines and nothing else, whatever was
there before. Whether errors are allowed makes no difference to anything that the run leaves.
-/
theorem run_verdict (h : Concludes ((run s process).play m).1) :
    ∃ t o, RoundReturns s process m t o
      ∧ (∀ n, ((run s process).play m).1 = .error (.diagnostics n)
        ↔ 0 < n ∧ n = o.errorCount ∧ s.allowErrors = false)
      ∧ (∀ o', ((run s process).play m).1 = .ok o'
        ↔ o' = o ∧ (o.errorCount = 0 ∨ s.allowErrors = true))
      ∧ (∀ path, s.deferredFile = some path →
        ∃ text, ((run s process).play m).2.disk.Holds path text
          ∧ parts '\n' text = o.deferred ++ [""])
      ∧ ∀ allowErrors, ((run { s with allowErrors } process).play m).2
        = ((run s process).play m).2 := by
  -- the verdict comes last and touches nothing, so the machine does not depend on it
  have hallow : ∀ allowErrors, ((run { s with allowErrors } process).play m).2
      = ((run s process).play m).2 := by
    intro allowErrors
    rw [run_eq, run_eq, Script.play_bind, Script.play_bind]
    rfl
  have hplayed : (run s process).play m
      = (((attempt s process).play m).1 >>= verdict s.allowErrors,
        ((attempt s process).play m).2) := by
    rw [run_eq, Script.play_bind, Script.play_pure]
  rcases attempt_cases s process m with ⟨t, o, m₃, m₄, hattempt, hreturns, hstored⟩
    | ⟨f, hfailed, hother⟩
  · rw [hattempt] at hplayed
    have hresult : ((run s process).play m).1 = verdict s.allowErrors o := congrArg Prod.fst hplayed
    have hdisk : ((run s process).play m).2.disk = m₄.disk :=
      congrArg (fun played => played.2.disk) hplayed
    refine ⟨t, o, hreturns, fun n => ?_, fun o' => ?_, fun path hpath => ?_, hallow⟩
    · rw [hresult, verdict_eq_error]
    · rw [hresult, verdict_eq_ok]
    · rw [hdisk]
      exact ⟨_, holds_of_storeDeferred hpath hstored, parts_deferredListing hreturns.oneLine⟩
  · -- a run that fails before the verdict does not get here
    have hresult : ((run s process).play m).1 = .error f := by
      rw [hplayed, hfailed]
      rfl
    rcases h with ⟨o, hok⟩ | ⟨n, herror⟩
    · exact absurd (hresult.symm.trans hok) (by simp)
    · exact absurd (Except.error.inj (hresult.symm.trans herror)) (hother n)

/-! ## A run with an error -/

/-- A dump of a model without a name for its wrapper, and one that waits. -/
def waitingDump : SymbolDump where
  declarations := [
    { name := "dev.example.Model", annotations := .ofList [("Config", .empty)] },
    { name := "dev.example.Waiting"
      annotations := .ofList [("Config", .empty)]
      properties := [{ name := "mode", type := "Mode", resolved := false }] }]

/-- The table of the dump. -/
def waitingTable : SymbolTable where
  declarations := [
    ⟨⟨⟨"dev.example", ["Model"]⟩, .plainClass, none⟩, .ofList [("Config", .empty)], []⟩,
    ⟨⟨⟨"dev.example", ["Waiting"]⟩, .plainClass, none⟩, .ofList [("Config", .empty)],
      [⟨⟨"mode", false, true⟩, .unresolved "Mode", .empty⟩]⟩]
  distinct := by decide

/-- A run over the dump, where an earlier one left a list of models that wait. -/
def waitingSettings : Settings where
  symbols := some ⟨"symbols.json"⟩
  deferredFile := some ⟨"deferred.txt"⟩
  options := { markers := ⟨"Config", "Nest", "Hook"⟩ }

def waitingMachine : Machine where
  disk := { entries := [
    (["symbols.json"], .file (.text waitingDump.write)),
    (["deferred.txt"], .file (.text "dev.example.Model\n"))] }

theorem ofDump_waiting : SymbolTable.ofDump waitingDump = .ok waitingTable := rfl

theorem waiting_load : (SymbolTable.load ⟨"symbols.json"⟩).play waitingMachine
    = (.ok waitingTable, waitingMachine.noted (SymbolTable.eventsOfText waitingDump.write)) := by
  have htext : (SymbolTable.readDumpFile ⟨"symbols.json"⟩).play waitingMachine
      = (.ok waitingDump.write, waitingMachine) := rfl
  have htable : SymbolTable.ofText waitingDump.write = .ok waitingTable := by
    rw [SymbolTable.ofText, SymbolDump.read_write waitingDump (by decide)]
    dsimp only
    rw [ofDump_waiting]
  rw [SymbolTable.load, Script.play_bind, htext]
  dsimp only
  rw [Script.play_bind, Script.play_logAll, Script.play_pure, htable]

theorem waiting_scan :
    scan { table := waitingTable } ⟨"Config", "Nest", "Hook"⟩ = ⟨[⟨0⟩], [⟨1⟩]⟩ := by
  have hready : ∀ id ∈ [(⟨0⟩ : DeclarationId), ⟨1⟩],
      SymbolSource.isReady { table := waitingTable } "Nest" id = decide (id = ⟨0⟩) := by
    intro id hid
    have hnone : (SymbolSource.unmet { table := waitingTable } [id]).filter
        (· ∈ SymbolSource.sections { table := waitingTable } "Nest" id) = [] := by
      revert id
      decide
    rw [SymbolSource.isReady, SymbolSource.metFrom_of_none hnone, SymbolSource.metFrom]
    revert id
    decide
  have hmodels : models { table := waitingTable } ⟨"Config", "Nest", "Hook"⟩ = [⟨0⟩, ⟨1⟩] := rfl
  rw [scan, hmodels, List.filter_congr hready,
    List.filter_congr fun id hid => congrArg not (hready id hid)]
  rfl

/-- What is wrong with the first model. -/
def waitingRefusal : Diagnostic where
  kind := .missingWrapperName
  symbol := "dev.example.Model"
  message := "config marker has no `wrapperName`; no wrapper generated"

/-- What the round over the table returns. -/
def waitingOutcome : RoundOutcome where
  deferred := ["dev.example.Waiting"]
  diagnostics := [Processor.deferredDiagnostic "dev.example.Waiting", waitingRefusal]

theorem waiting_round (m : Machine) : ∃ p events,
    ((processor waitingSettings "1").runRound { table := waitingTable }).play m
      = ((.ok waitingOutcome, p), m.noted events) := by
  have hready : (processor waitingSettings "1").ready { table := waitingTable } = [⟨0⟩] :=
    congrArg ScanResult.ready waiting_scan
  have hfound : (processor waitingSettings "1").found { table := waitingTable }
      = { deferred := ["dev.example.Waiting"]
          diagnostics := [Processor.deferredDiagnostic "dev.example.Waiting"] } :=
    congrArg (fun scanned : ScanResult =>
      Processor.deferAll { table := waitingTable } scanned.deferred) waiting_scan
  have hcourse : ∀ m : Machine,
      (Processor.course { table := waitingTable } [⟨0⟩] (processor waitingSettings "1")).play m
        = ({ fates := [(⟨0⟩, .refused waitingRefusal)] }, m.noted [waitingRefusal.event]) :=
    fun _ => rfl
  refine ⟨(processor waitingSettings "1").afterCourse { table := waitingTable }
      { fates := [(⟨0⟩, .refused waitingRefusal)] },
    (processor waitingSettings "1").openingEvents { table := waitingTable }
      ++ [waitingRefusal.event], ?_⟩
  rw [Processor.runRound_eq, hready, hfound, Script.play_bind, Script.play_logAll,
    Script.play_bind, hcourse, Script.play_pure]
  exact congrArg (Prod.mk _) (by simp [Machine.noted])

theorem waiting_stored {m : Machine} (hdisk : m.disk = waitingMachine.disk)
    (hfaults : m.faults = []) :
    ∃ m', (storeDeferred waitingSettings "1" waitingOutcome).play m = (.ok (), m') := by
  obtain ⟨disk, faults, events⟩ := m
  cases hdisk
  cases hfaults
  exact ⟨_, rfl⟩

/-- The run fails for the one error that its round finds. -/
theorem waiting_result :
    ((run waitingSettings "1").play waitingMachine).1 = .error (.diagnostics 1) := by
  let loaded := waitingMachine.noted (SymbolTable.eventsOfText waitingDump.write)
  let m₁ := loaded.noted [loadedEvent ⟨"symbols.json"⟩ waitingTable]
  obtain ⟨p, events, hround⟩ := waiting_round m₁
  obtain ⟨m', hstored⟩ : ∃ m', (storeDeferred waitingSettings "1" waitingOutcome).play
      (m₁.noted events)
      = (.ok (), m') := waiting_stored (by simp only [m₁, loaded, Machine.noted_disk])
    (by simp only [m₁, loaded, Machine.noted_faults, waitingMachine])
  have hplay := play_attempt rfl waiting_load hround hstored
  rw [run_eq, Script.play_bind, hplay]
  rfl

theorem run_verdict_waiting :
    Concludes ((run waitingSettings "1").play waitingMachine).1
      ∧ (∃ t o text, RoundReturns waitingSettings "1" waitingMachine t o ∧ o.errorCount = 1
        ∧ ((run waitingSettings "1").play waitingMachine).2.disk.Holds ⟨"deferred.txt"⟩ text
        ∧ parts '\n' text = o.deferred ++ [""])
      ∧ ((run { waitingSettings with allowErrors := true } "1").play waitingMachine).2
        = ((run waitingSettings "1").play waitingMachine).2 := by
  have hconcludes : Concludes ((run waitingSettings "1").play waitingMachine).1 :=
    Or.inr ⟨1, waiting_result⟩
  obtain ⟨t, o, hreturns, hfails, _, hlisted, hallow⟩ := run_verdict hconcludes
  obtain ⟨text, hholds, hparts⟩ := hlisted ⟨"deferred.txt"⟩ rfl
  exact ⟨hconcludes,
    ⟨t, o, text, hreturns, ((hfails 1).mp waiting_result).2.1.symm, hholds, hparts⟩, hallow true⟩

end Run

end WrapperGen
