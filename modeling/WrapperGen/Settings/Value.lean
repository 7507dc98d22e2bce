/-!
# Values of settings

Settings come from a file, from the environment and from the command line, all as trees of
values. A later source wins over an earlier one leaf by leaf: only tables are merged,
anything else is replaced.
-/

namespace WrapperGen

/-- A value before it is known which setting it is for. -/
inductive SettingValue where
  | text (s : String)
  | flag (b : Bool)
  /-- A number as it is written. No setting is one. -/
  | number (written : String)
  | list (items : List SettingValue)
  | table (entries : List (String × SettingValue))
deriving Repr, Inhabited

/-- The settings that one source gives. -/
abbrev SettingTable := List (String × SettingValue)

namespace SettingValue

/-- Replaces the value of a key, or adds the key at the end. -/
def store (key : String) (value : SettingValue) : SettingTable → SettingTable
  | [] => [(key, value)]
  | entry :: rest => if entry.1 = key then (key, value) :: rest else entry :: store key value rest

mutual

/-- A value as a later source changes it. -/
def merge (earlier : Option SettingValue) : SettingValue → SettingValue
  | table entries =>
    match earlier with
    | some (table known) => table (mergeTable known entries)
    | _ => table entries
  | text s => text s
  | flag b => flag b
  | number written => number written
  | list items => list items

/-- The entries of a table as a later source changes them. -/
def mergeTable (known : SettingTable) : SettingTable → SettingTable
  | [] => known
  | (key, value) :: rest => mergeTable (store key (merge (known.lookup key) value) known) rest

end

end SettingValue

/-- The settings of several sources, later ones winning. -/
def mergeAll (sources : List SettingTable) : SettingTable :=
  sources.foldl SettingValue.mergeTable []

end WrapperGen
