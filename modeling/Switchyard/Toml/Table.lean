import Switchyard.Json.Basic
set_option autoImplicit false

/-! The tables of a TOML document while it is being read, and what may still be added to each: a
table has one header at most, dotted keys do not reach into tables that have a header, and a
finished value is closed. -/
namespace Switchyard.Toml

/-- How a table came about. -/
inductive Origin where
  /-- It has a header of its own. -/
  | header
  /-- The header of another table passed through it. -/
  | passage
  /-- A dotted key passed through it. -/
  | dots
  deriving Repr, DecidableEq

inductive Item where
  | value (value : Json)
  | table (origin : Origin) (entries : List (String × Item))
  /-- Tables that headers in double brackets add one by one. -/
  | tables (elements : List (List (String × Item)))

/-- The entries of one table, in ascending key order. -/
abbrev Entries := List (String × Item)

mutual

def Item.toJson : Item → Json
  | .value value => value
  | .table _ entries => .obj (fields entries)
  | .tables elements => .arr (objects elements)

def fields : Entries → List (String × Json)
  | [] => []
  | (key, item) :: rest => (key, item.toJson) :: fields rest

def objects : List Entries → List Json
  | [] => []
  | entries :: rest => .obj (fields entries) :: objects rest

end

/-- A path of keys, the last apart. -/
structure Key where
  parents : List String
  last : String
  deriving Repr, DecidableEq

namespace Entries

/-- Sets a key that has no value yet; the keys before the last pass through tables. -/
def assign (last : String) (value : Json) : List String → Entries → Option Entries
  | [], entries =>
    if (Dict.lookup last entries).isSome then none
    else some (Dict.place last (.value value) entries)
  | first :: rest, entries =>
    match Dict.lookup first entries with
    | none => (assign last value rest []).map fun inner =>
        Dict.place first (.table .dots inner) entries
    | some (.value _) => none
    | some (.table origin inner) =>
      if origin = .header || (origin = .passage && rest.isEmpty) then none
      else (assign last value rest inner).map fun inner =>
        Dict.place first (.table origin inner) entries
    | some (.tables elements) =>
      if rest.isEmpty then none
      else do
        let inner ← assign last value rest (← elements.getLast?)
        return Dict.place first (.tables (elements.dropLast ++ [inner])) entries

/-- Changes the table at the end of a path of header keys; of tables in double brackets the last
is meant. -/
def within (change : Entries → Option Entries) : List String → Entries → Option Entries
  | [], entries => change entries
  | first :: rest, entries =>
    match Dict.lookup first entries with
    | none => (within change rest []).map fun inner =>
        Dict.place first (.table .passage inner) entries
    | some (.value _) => none
    | some (.table origin inner) => (within change rest inner).map fun inner =>
        Dict.place first (.table origin inner) entries
    | some (.tables elements) => do
      let inner ← within change rest (← elements.getLast?)
      return Dict.place first (.tables (elements.dropLast ++ [inner])) entries

/-- Gives a table its header, which it must not have yet. -/
def openTable (last : String) (entries : Entries) : Option Entries :=
  match Dict.lookup last entries with
  | none => some (Dict.place last (.table .header []) entries)
  | some (.table .passage inner) => some (Dict.place last (.table .header inner) entries)
  | some _ => none

/-- Adds a table to those under a key. -/
def openElement (last : String) (entries : Entries) : Option Entries :=
  match Dict.lookup last entries with
  | none => some (Dict.place last (.tables [[]]) entries)
  | some (.tables elements) => some (Dict.place last (.tables (elements ++ [[]])) entries)
  | some _ => none

/-- The table that assignments alone make. -/
def ofAssignments (assignments : List (Key × Json)) : Option Entries :=
  assignments.foldlM (fun entries assignment =>
    assign assignment.1.last assignment.2 assignment.1.parents entries) []

end Entries

inductive Statement where
  | assignment (key : Key) (value : Json)
  | table (key : Key)
  | element (key : Key)

/-- A document as far as it has been read: all tables, and the path of the one that assignments go
to. -/
structure Draft where
  entries : Entries := []
  current : List String := []

def Draft.add (draft : Draft) : Statement → Option Draft
  | .assignment key value => do
    let change := Entries.assign key.last value key.parents
    return { draft with entries := ← Entries.within change draft.current draft.entries }
  | .table key => do
    let entries ← Entries.within (Entries.openTable key.last) key.parents draft.entries
    return ⟨entries, key.parents ++ [key.last]⟩
  | .element key => do
    let entries ← Entries.within (Entries.openElement key.last) key.parents draft.entries
    return ⟨entries, key.parents ++ [key.last]⟩

/-- The object that the statements of a document describe. -/
def documentOf? (statements : List Statement) : Option Json := do
  let draft ← statements.foldlM Draft.add {}
  return .obj (fields draft.entries)

end Switchyard.Toml
