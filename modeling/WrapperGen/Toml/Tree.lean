import WrapperGen.Settings.Value

/-!
# Tables of a settings file

A file builds one tree of tables. A line with a value adds a leaf at a dotted key; a header opens a
table, or adds one to a row of tables, for the lines below it. No table can be defined twice, so a
table remembers how it came about:

* a header or the file itself **opened** it. Dotted keys lead into it no more, and no
header opens it again;
* a header below it **implied** it. A header of its own may still open it;
* a dotted key created it (**dotted**). Further dotted keys add to it, but no header opens it.
-/

namespace WrapperGen.Toml

/-- How a table came about. -/
inductive Origin where
  | opened
  | implied
  | dotted
deriving DecidableEq, Repr

/-- What a key stands for while a file is read. -/
inductive Node where
  | value (v : SettingValue)
  | table (origin : Origin) (entries : List (String × Node))
  /-- A row of tables. Keys lead into the last of them. -/
  | tables (items : List (List (String × Node)))

/-- The entries of a table. -/
abbrev Entries := List (String × Node)

/-- Changes what a key stands for, or gives it a meaning; the change may refuse. -/
def alter? (key : String) (change : Option Node → Option Node) : Entries → Option Entries
  | [] => (change none).map fun node => [(key, node)]
  | entry :: rest =>
    if entry.1 = key then (change (some entry.2)).map fun node => (key, node) :: rest
    else (alter? key change rest).map (entry :: ·)

/-- Changes the table that keys lead to. Tables missing on the way come about as `created` says; a
dotted key does not lead through a table that was opened. -/
def changeAt? (created : Origin) (change : Origin → Entries → Option Entries) :
    List String → Origin → Entries → Option Entries
  | [], origin, entries => change origin entries
  | key :: keys, _, entries =>
    alter? key (fun
      | none => (changeAt? created change keys created []).map (.table created)
      | some (.table origin inner) =>
        if created = .dotted ∧ origin = .opened then none
        else (changeAt? created change keys origin inner).map (.table origin)
      | some (.tables items) => do
        let last ← items.getLast?
        let last ← changeAt? created change keys .opened last
        return .tables (items.dropLast ++ [last])
      | some (.value _) => none) entries

/-- Adds a value under a dotted key, given as the keys that lead to its table and the last one. The
table has to be the one at hand or one that dotted keys created. -/
def addValue? (keys : List String) (key : String) (value : SettingValue) :
    Entries → Option Entries :=
  changeAt? .dotted
    (fun origin entries =>
      if keys.isEmpty || origin = .dotted then
        alter? key (fun | none => some (.value value) | some _ => none) entries
      else none)
    keys .opened

/-- Opens a table. -/
def openTable? (keys : List String) (key : String) : Entries → Option Entries :=
  changeAt? .implied
    (fun _ => alter? key fun
      | none => some (.table .opened [])
      | some (.table .implied entries) => some (.table .opened entries)
      | some _ => none)
    keys .opened

/-- Adds a table to a row of tables. -/
def openNext? (keys : List String) (key : String) : Entries → Option Entries :=
  changeAt? .implied
    (fun _ => alter? key fun
      | none => some (.tables [[]])
      | some (.tables items) => some (.tables (items ++ [[]]))
      | some _ => none)
    keys .opened

/-- Adds a value under a dotted key of the table that a header opened. -/
def addBelow? (header keys : List String) (key : String) (value : SettingValue) :
    Entries → Option Entries :=
  changeAt? .implied (fun _ => addValue? keys key value) header .opened

mutual

/-- The value that a node is in the end. -/
def Node.toValue : Node → SettingValue
  | .value v => v
  | .table _ entries => .table (toSettings entries)
  | .tables items => .list (toValues items)

/-- The settings that the entries of a table are. -/
def toSettings : List (String × Node) → SettingTable
  | [] => []
  | (key, node) :: rest => (key, node.toValue) :: toSettings rest

/-- The tables of a row. -/
def toValues : List (List (String × Node)) → List SettingValue
  | [] => []
  | entries :: rest => .table (toSettings entries) :: toValues rest

end

end WrapperGen.Toml
