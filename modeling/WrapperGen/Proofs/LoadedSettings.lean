import WrapperGen.Proofs.Playing
import WrapperGen.Proofs.SettingLayers
import WrapperGen.Proofs.SourceTables

/-!
# Loading settings

When settings are loaded, the layers are the command line, the environment and the file that was
chosen, or nothing if there is none. Each setting has the value that the highest of these gives it,
and whatever a lower layer says about it instead, the same settings are loaded (`valueIn_of_load`).
That markers may be given as a list is where layers do leak: a list below takes part only as a whole
(`markers_not_layered`).
-/

namespace WrapperGen

open SettingValue

/-! ## The layers -/

/-- The value that a command line gives a setting. -/
def Setting.option? (c : CommandLine) : Setting → Option SettingValue
  | symbols => (c.value? .symbols).map .text
  | outDirectory => (c.value? .outDirectory).map .text
  | sourcesDirectory => (c.value? .sourcesDirectory).map .text
  | recordsDirectory => (c.value? .recordsDirectory).map .text
  | deferredFile => (c.value? .deferredFile).map .text
  | namespaces =>
      if c.values .simplify = [] then none else some (.list ((c.values .simplify).map .text))
  | allowErrors => if c.allowErrors then some (.flag true) else none
  | marker _ => none

/-- An option that is absent gives nothing. -/
theorem Setting.given?_commandLine (x : Setting) (c : CommandLine) :
    x.given? c.settings = x.option? c := by
  cases x with
  | marker m =>
      rw [Setting.given?, c.lookup_settings]
      rfl
  | _ =>
      rw [Setting.given?, c.lookup_settings]
      · rfl
      · exact fun m h => by cases h

namespace Settings

/-- The layer between the environment and the defaults: what the chosen file gives, or
nothing if there is none. -/
def fileLayer (c : CommandLine) : Script (Except LoadFailure SettingTable) := do
  match ← chooseFile (c.path? .config) with
  | .error e => return .error e
  | .ok none => return .ok []
  | .ok (some path) => readFile path

variable {c : CommandLine} {environment : Environment.Variables} {m : Machine}

/-- Settings are loaded by putting the file between the defaults and the environment. -/
theorem load_eq (c : CommandLine) (environment : Environment.Variables) :
    load c environment = do
      match ← fileLayer c with
      | .error e => return .error e
      | .ok file => return ofSources file (Environment.settings environment) c.settings := by
  rw [load, fileLayer, bind_assoc]
  congr 1
  funext chosen
  match chosen with
  | .error e => rfl
  | .ok none => rfl
  | .ok (some path) => rfl

theorem play_load : (load c environment).play m = (match ((fileLayer c).play m).1 with
    | .error e => .error e
    | .ok file => ofSources file (Environment.settings environment) c.settings,
      ((fileLayer c).play m).2) := by
  rw [load_eq, Script.play_bind]
  cases ((fileLayer c).play m).1 with
  | error e => rfl
  | ok file => rfl

theorem tidy_of_readFile {path : Path} {file : SettingTable}
    (h : ((readFile path).play m).1 = .ok file) :
    TidyTable file := by
  rw [readFile, Script.play_bind] at h
  split at h
  · cases h
  · split at h
    · rename_i hread
      rw [← Except.ok.inj h]
      exact Toml.tidy_of_settings? hread
    · cases h

theorem tidy_of_fileLayer {file : SettingTable} (h : ((fileLayer c).play m).1 = .ok file) :
    TidyTable file := by
  rw [fileLayer, Script.play_bind] at h
  split at h
  · cases h
  · rw [← Except.ok.inj h]
    exact tidyTable_nil
  · exact tidy_of_readFile h

/-- A disk with a settings file in the working directory. -/
def machineWith (text : String) : Machine where
  disk := { entries := [(["kowo-gen.toml"], .file (.text text))] }

theorem play_fileLayer_machineWith {text : String} {file : SettingTable}
    (hnone : c.path? .config = none) (h : Toml.settings? text = some file) :
    (fileLayer c).play (machineWith text) = (.ok file, machineWith text) := by
  have hdirectory : (machineWith text).answer .workingDirectory = (⟨"/"⟩, machineWith text) := by
    rfl
  have houtwards : (⟨"/"⟩ : Path).outwards = [⟨"/"⟩] := by decide
  have hpath : (⟨"/"⟩ : Path).join ⟨fileName⟩ = ⟨"/kowo-gen.toml"⟩ := by decide
  have hfile : (machineWith text).answer (.isFile ⟨"/kowo-gen.toml"⟩)
      = (true, machineWith text) := by rfl
  have hread : (machineWith text).answer (.readFile ⟨"/kowo-gen.toml"⟩)
      = (.ok text, machineWith text) := by rfl
  have hchoose : (chooseFile none).play (machineWith text)
      = (.ok (some ⟨"/kowo-gen.toml"⟩), machineWith text) := by
    rw [chooseFile, Script.play_bind, Script.play_ask, hdirectory, houtwards,
      Script.play_bind, findFile, Script.play_bind, Script.play_ask, hpath, hfile]
    rfl
  rw [fileLayer, hnone, Script.play_bind, hchoose]
  show (readFile ⟨"/kowo-gen.toml"⟩).play (machineWith text) = (.ok file, machineWith text)
  rw [readFile, Script.play_bind, Script.play_ask, hread]
  dsimp only
  rw [h]
  rfl

/-- The number of characters is found first: reading spends it, and a length that is not a numeral
would be counted again at every step. -/
theorem settings?_of_readLines {text : String} {bound : Nat} {d : Toml.Document}
    (hbound : text.toList.length.succ = bound)
    (h : Toml.readLines bound {} (Toml.withoutMark text.toList) = some d) :
    Toml.settings? text = some (Toml.toSettings d.entries) := by
  rw [Toml.settings?, hbound, h]
  rfl

theorem keys?_markersHook :
    Environment.keys? "KOWO_GEN_MARKERS__HOOK" = some ["markers", "hook"] := by rfl

/-! ## What is loaded -/

/-- **Layers do not leak.** Each setting has the value that the highest layer gives which gives it,
an option that is absent gives nothing, and whatever a lower layer says about a setting that a
higher one gives, the same settings are loaded. -/
theorem valueIn_of_load {m' : Machine} {s : Settings}
    (h : (load c environment).play m = (.ok s, m')) :
    ∃ file, ((fileLayer c).play m).1 = .ok file
      ∧ (∀ x : Setting, x.valueIn s
          = (x.highest? [c.settings, Environment.settings environment, file]).or (x.valueIn {}))
      ∧ (∀ x : Setting, x.given? c.settings = x.option? c)
      ∧ ∀ (x : Setting) (c₂ : CommandLine) (environment₂ : Environment.Variables) (m₂ : Machine)
          (file₂ : SettingTable),
          ((fileLayer c₂).play m₂).1 = .ok file₂ →
          ReplacedBelow x [c.settings, Environment.settings environment, file]
            [c₂.settings, Environment.settings environment₂, file₂] →
          ((load c₂ environment₂).play m₂).1 = .ok s := by
  rw [play_load] at h
  obtain ⟨hsources, _⟩ := Prod.mk.inj h
  cases hfile : ((fileLayer c).play m).1 with
  | error e =>
      rw [hfile] at hsources
      cases hsources
  | ok file =>
      rw [hfile] at hsources
      obtain ⟨hform, hvalue⟩ := (ofSources_eq_ok_iff (tidy_of_fileLayer hfile)
        (Environment.tidy_environment environment) c.tidy_commandLine).mp hsources
      refine ⟨file, rfl, hvalue, fun x => x.given?_commandLine c,
        fun x c₂ environment₂ m₂ file₂ hfile₂ hbelow => ?_⟩
      rw [play_load, hfile₂]
      refine (ofSources_eq_ok_iff (tidy_of_fileLayer hfile₂)
        (Environment.tidy_environment environment₂)
        c₂.tidy_commandLine).mpr ⟨fun v hv => ?_, fun x => ?_⟩
      · -- what replaces markers has the form that they had
        obtain ⟨w, hw, hsame⟩ :=
          Option.map_eq_some_iff.mp (hbelow.form.symm.trans (congrArg (Option.map form) hv))
        rw [← hsame]
        exact hform w hw
      · rw [hbelow.highest?, hvalue]

/-- Settings from all layers, with another file below. -/
theorem valueIn_of_load_layered :
    let c : CommandLine := { given := [(.symbols, "from-cli.json")] }
    let environment :=
      [("KOWO_GEN_OUT_DIR", "env-out"), ("KOWO_GEN_MARKERS__HOOK", "com.example.Hook")]
    let m := machineWith "out_dir = \"file-out\"\n[markers]\nnest = \"com.example.Nest\"\n"
    let m₂ := machineWith "out_dir = \"other\"\n[markers]\nnest = \"com.example.Nest\"\n"
    let s : Settings := {
      symbols := some ⟨"from-cli.json"⟩, outDirectory := ⟨"env-out"⟩
      options := { markers := { nest := "com.example.Nest", hook := "com.example.Hook" } } }
    (load c environment).play m = (.ok s, m) ∧ ((load c environment).play m₂).1 = .ok s := by
  intro c environment m m₂ s
  have hlines : Toml.readLines 58 {}
      (Toml.withoutMark "out_dir = \"file-out\"\n[markers]\nnest = \"com.example.Nest\"\n".toList)
      = some ⟨["markers"], [("out_dir", .value (.text "file-out")),
          ("markers", .table .opened [("nest", .value (.text "com.example.Nest"))])]⟩ := by rfl
  have hlines₂ : Toml.readLines 55 {}
      (Toml.withoutMark "out_dir = \"other\"\n[markers]\nnest = \"com.example.Nest\"\n".toList)
      = some ⟨["markers"], [("out_dir", .value (.text "other")),
          ("markers", .table .opened [("nest", .value (.text "com.example.Nest"))])]⟩ := by rfl
  have htext : Toml.settings? "out_dir = \"file-out\"\n[markers]\nnest = \"com.example.Nest\"\n"
      = some [("out_dir", .text "file-out"),
        ("markers", .table [("nest", .text "com.example.Nest")])] :=
    settings?_of_readLines rfl hlines
  have htext₂ : Toml.settings? "out_dir = \"other\"\n[markers]\nnest = \"com.example.Nest\"\n"
      = some [("out_dir", .text "other"),
        ("markers", .table [("nest", .text "com.example.Nest")])] :=
    settings?_of_readLines rfl hlines₂
  have henvironment : Environment.settings environment
      = [("out_dir", .text "env-out"),
        ("markers", .table [("hook", .text "com.example.Hook")])] := by
    have hkeys : Environment.keys? "KOWO_GEN_OUT_DIR" = some ["out_dir"] := by rfl
    have hout : Environment.valueOf "env-out" = .text "env-out" := by rfl
    have hhook : Environment.valueOf "com.example.Hook" = .text "com.example.Hook" := by rfl
    simp only [environment, Environment.settings, List.filterMap_cons, hkeys, hout,
      keys?_markersHook, hhook]
    rfl
  have hload : (load c environment).play m = (.ok s, m) := by
    rw [play_load, play_fileLayer_machineWith rfl htext, henvironment]
    rfl
  -- the environment gives the directory, so the file below it may say anything about it
  obtain ⟨file, hfile, _, _, hreplace⟩ := valueIn_of_load hload
  rw [play_fileLayer_machineWith rfl htext] at hfile
  obtain rfl := Except.ok.inj hfile
  have hfile₂ := congrArg Prod.fst (play_fileLayer_machineWith (c := c) rfl htext₂)
  refine ⟨hload, hreplace .outDirectory c environment m₂ _ hfile₂ ?_⟩
  refine ⟨[c.settings, Environment.settings environment], _, _, [], rfl, rfl,
    ⟨fun y hy => ?_, rfl⟩, ?_⟩
  · cases y with
    | outDirectory => exact absurd rfl hy
    | _ => rfl
  · exact ⟨_, List.mem_cons_of_mem _ List.mem_cons_self, by rw [henvironment]; rfl⟩

/-- **A list of markers does not take part member by member.** The file gives a marker, no layer
above gives it, and still it has its default. -/
theorem markers_not_layered :
    let c : CommandLine := {}
    let environment := [("KOWO_GEN_MARKERS__HOOK", "x")]
    let m := machineWith "markers = [\"c\", \"n\", \"h\"]\n"
    let s : Settings := { options := { markers := { hook := "x" } } }
    let file : SettingTable := [("markers", .list [.text "c", .text "n", .text "h"])]
    let x := Setting.marker .config
    ((load c environment).play m).1 = .ok s ∧ ((fileLayer c).play m).1 = .ok file
      ∧ [c.settings, Environment.settings environment, file].findSome? x.given? = some (.text "c")
      ∧ x.valueIn s = some (.text "io.wispforest.owo.config.annotation.Config") := by
  intro c environment m s file x
  have hlines : Toml.readLines 27 {} (Toml.withoutMark "markers = [\"c\", \"n\", \"h\"]\n".toList)
      = some ⟨[], [("markers", .value (.list [.text "c", .text "n", .text "h"]))]⟩ := by rfl
  have htext : Toml.settings? "markers = [\"c\", \"n\", \"h\"]\n" = some file :=
    settings?_of_readLines rfl hlines
  have henvironment : Environment.settings environment
      = [("markers", .table [("hook", .text "x")])] := by
    have hhook : Environment.valueOf "x" = .text "x" := by rfl
    simp only [environment, Environment.settings, List.filterMap_cons, keys?_markersHook, hhook]
    rfl
  have hfile := play_fileLayer_machineWith (c := c) rfl htext
  refine ⟨?_, congrArg Prod.fst hfile, ?_, rfl⟩
  · rw [play_load, hfile, henvironment]
    rfl
  · rw [henvironment]
    rfl

end Settings

end WrapperGen
