/-
# Defining tables

A document defines its tables piece by piece: by headers, by headers of arrays of tables, and by keys
with points in them.  A table may be defined once only, but a table that was merely passed on the way
to another may still get a header of its own, and a table made by keys with points may be extended by
such keys.

Main definitions: `Definition.assign` and `Definition.open?`, which say when a definition is refused.
-/
import RuntimeBridge.Toml.Basic
namespace RuntimeBridge.Toml

/-- How a table came to be: by a header of its own, by the header of a table inside it, or by a key
with points. -/
inductive TableOrigin where
  | header
  | passed
  | dotted
  deriving DecidableEq, Repr

/-- A thing under definition. -/
inductive Definition where
  | value (v : Toml)
  | table (origin : TableOrigin) (entries : List (String × Definition))
  /-- An array of tables, each opened by a header. -/
  | tables (rows : List (List (String × Definition)))

/-- The entries of a table under definition. -/
abbrev Entries := List (String × Definition)

namespace Definition

/-! ## 1. Entries -/

/-- Entries with another definition under a key. -/
def put (key : String) (d : Definition) : Entries → Entries
  | [] => [(key, d)]
  | (k, old) :: rest => if k == key then (k, d) :: rest else (k, old) :: put key d rest

/-- Change the table that a path leads to from a table; tables that are missing on the way are made
with the origin `made`.  A way by keys with points may not pass a table that has a header, and no way
leads through a value. -/
def inside (made : TableOrigin) (change : TableOrigin → Entries → Option Entries) :
    List String → TableOrigin → Entries → Option Entries
  | [], origin, entries => change origin entries
  | key :: path, _, entries =>
    match entries.lookup key with
    | none =>
      (inside made change path made []).map fun inner => put key (.table made inner) entries
    | some (.value _) => none
    | some (.table origin inner) =>
      if made == .dotted && origin == .header then none
      else
        (inside made change path origin inner).map fun inner =>
          put key (.table origin inner) entries
    | some (.tables rows) =>
      match rows.getLast? with
      | none => none
      | some last =>
        (inside made change path .header last).map fun last =>
          put key (.tables (rows.dropLast ++ [last])) entries

/-! ## 2. Definitions -/

/-- Put a value under a key with points into a table. -/
def assign (path : List String) (key : String) (v : Toml) (entries : Entries) : Option Entries :=
  inside .dotted
    (fun origin entries =>
      if (origin == .dotted) == path.isEmpty || (entries.lookup key).isSome then none
      else some (entries ++ [(key, .value v)]))
    path .header entries

/-- Open a table by its header. -/
def openTable (path : List String) (key : String) (entries : Entries) : Option Entries :=
  inside .passed
    (fun _ entries =>
      match entries.lookup key with
      | none => some (put key (.table .header []) entries)
      | some (.table .passed inner) => some (put key (.table .header inner) entries)
      | some _ => none)
    path .header entries

/-- Open a further table of an array of tables. -/
def openRow (path : List String) (key : String) (entries : Entries) : Option Entries :=
  inside .passed
    (fun _ entries =>
      match entries.lookup key with
      | none => some (put key (.tables [[]]) entries)
      | some (.tables rows) => some (put key (.tables (rows ++ [[]])) entries)
      | some _ => none)
    path .header entries

/-- Put a value into the table that a header opened. -/
def assignUnder (header : List String) (path : List String) (key : String) (v : Toml)
    (entries : Entries) : Option Entries :=
  inside .passed (fun _ entries => assign path key v entries) header .header entries

/-! ## 3. Finished definitions -/

mutual

/-- The value that was defined. -/
def finish : Definition → Toml
  | value v => v
  | table _ entries => .table (finishEntries entries)
  | tables rows => .array (finishRows rows)

def finishEntries : List (String × Definition) → List (String × Toml)
  | [] => []
  | (key, d) :: rest => (key, d.finish) :: finishEntries rest

def finishRows : List (List (String × Definition)) → List Toml
  | [] => []
  | row :: rest => .table (finishEntries row) :: finishRows rest

end

end Definition

end RuntimeBridge.Toml
