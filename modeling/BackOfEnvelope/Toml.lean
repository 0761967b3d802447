/-!
# TOML tables

The values of a TOML document and the rules by which its tables grow.  A table is
defined by a header, by dotted keys, in line, or only by a header of a table
inside it, and no table is defined twice: only the last kind may still get a
header of its own, and dotted keys only add to tables that they made.
-/

namespace BackOfEnvelope

inductive TableOrigin where
  /-- By a header of its own, or as the document itself. -/
  | header
  /-- By the header of a table inside it. -/
  | implicit
  | dotted
  | inline
deriving DecidableEq

inductive Toml where
  | text (value : String)
  | integer (value : Int)
  /-- A number with a fraction or an exponent, an infinity or not a number. -/
  | float (value : Float)
  | boolean (value : Bool)
  /-- A date, a time or both, as written. -/
  | moment (spelling : String)
  | array (items : List Toml)
  | table (origin : TableOrigin) (entries : List (String × Toml))
  | tables (elements : List Toml)

instance : Inhabited Toml := ⟨.table .header []⟩

namespace Toml

def lookup? (key : String) : List (String × Toml) → Option Toml
  | [] => none
  | (present, value) :: rest => if present = key then some value else lookup? key rest

/-- Put a value in the place of the one of its key, or at the end. -/
def putEntry (key : String) (value : Toml) : List (String × Toml) → List (String × Toml)
  | [] => [(key, value)]
  | (present, old) :: rest =>
      if present = key then (key, value) :: rest else (present, old) :: putEntry key value rest

/-- Change the table to which the keys of a header lead.  Missing tables are
made, and of several tables with one header the last is meant. -/
def changeAt (change : Toml → Option Toml) : List String → Toml → Option Toml
  | [], reached => change reached
  | key :: rest, .table origin entries =>
      let inner? :=
        match lookup? key entries with
        | none => changeAt change rest (.table .implicit [])
        | some (.table .inline _) => none
        | some (.table origin entries) => changeAt change rest (.table origin entries)
        | some (.tables elements) =>
            match elements.getLast? with
            | none => none
            | some last =>
                (changeAt change rest last).map fun changed =>
                  .tables (elements.dropLast ++ [changed])
        | some _ => none
      inner?.map fun inner => .table origin (putEntry key inner entries)
  | _ :: _, _ => none

/-- Define a table by its header inside another one. -/
def defineTable (key : String) : Toml → Option Toml
  | .table origin entries =>
      match lookup? key entries with
      | none => some (.table origin (putEntry key (.table .header []) entries))
      | some (.table .implicit inner) =>
          some (.table origin (putEntry key (.table .header inner) entries))
      | some _ => none
  | _ => none

/-- Add a table to those with one header inside another one. -/
def defineElement (key : String) : Toml → Option Toml
  | .table origin entries =>
      match lookup? key entries with
      | none => some (.table origin (putEntry key (.tables [.table .header []]) entries))
      | some (.tables elements) =>
          some (.table origin (putEntry key (.tables (elements ++ [.table .header []])) entries))
      | some _ => none
  | _ => none

/-- Give a dotted key a value inside a table.  The flag tells whether the table
was itself reached by a dotted key. -/
def assign (entered : Bool) : List String → Toml → Toml → Option Toml
  | [key], value, .table origin entries =>
      if (entered && origin ≠ .dotted) || (lookup? key entries).isSome then none
      else some (.table origin (putEntry key value entries))
  | key :: rest, value, .table origin entries =>
      let inner? :=
        match lookup? key entries with
        | none => assign true rest value (.table .dotted [])
        | some (.table .implicit inner) => assign true rest value (.table .implicit inner)
        | some (.table .dotted inner) => assign true rest value (.table .dotted inner)
        | some _ => none
      inner?.map fun inner => .table origin (putEntry key inner entries)
  | _, _, _ => none

end Toml

end BackOfEnvelope
