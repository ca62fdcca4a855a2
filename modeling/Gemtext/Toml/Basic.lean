import Gemtext.Number.Decimal

/-!
# TOML values

A TOML document is a table of values.  While it is read, a table remembers how it came about, since
that decides whether later lines may add to it:

* an inline table and a table with a header of its own are complete where they are written;
* a table that only the header of another one names may still get its own header;
* a table that only dotted keys name may get further dotted keys.

`insertPair` and `openTable` change a table as a line asks for it, unless that is not allowed.
-/

namespace Gemtext

/-- How a table came about. -/
inductive TableOrigin where
  | inline
  | header
  /-- It was named on the way to a table with a header. -/
  | implied
  /-- It was named on the way to a dotted key. -/
  | dotted
  deriving DecidableEq, Repr

/-- A TOML value. -/
inductive Toml where
  | text (s : Text)
  | integer (i : Int)
  | float (n : Numeral)
  | boolean (b : Bool)
  | array (items : List Toml)
  | table (origin : TableOrigin) (entries : List (Text × Toml))
  /-- An array of tables that have headers of their own. -/
  | tables (items : List Toml)
  deriving Repr

namespace Toml

/-- The entries of a table, in the order in which they were added. -/
abbrev Entries := List (Text × Toml)

/-- The value of a key. -/
def Entries.get? (key : Text) (entries : Entries) : Option Toml :=
  entries.lookup key

/-- Set the value of a key. -/
def Entries.put (key : Text) (value : Toml) : Entries → Entries
  | [] => [(key, value)]
  | (k, v) :: rest => if k = key then (k, value) :: rest else (k, v) :: put key value rest

/-- Change the last one of the tables in an array. -/
def mapLast? (f : Entries → Option Entries) : List Toml → Option (List Toml)
  | [] => none
  | [.table origin entries] => (f entries).map fun entries => [.table origin entries]
  | [_] => none
  | item :: other :: items => (mapLast? f (other :: items)).map (item :: ·)

/-- Add a pair below the tables that dotted keys name.  The key must be new, and the tables must
not be complete; the last one must belong to dotted keys alone. -/
def insertPair (key : Text) (value : Toml) : List Text → Entries → Option Entries
  | [], entries =>
    match entries.get? key with
    | none => some (entries.put key value)
    | some _ => none
  | name :: path, entries =>
    match entries.get? name with
    | none =>
      (insertPair key value path []).map fun inner => entries.put name (.table .dotted inner)
    | some (.table .dotted inner) =>
      (insertPair key value path inner).map fun inner => entries.put name (.table .dotted inner)
    | some (.table .implied inner) =>
      if path.isEmpty then none
      else
        (insertPair key value path inner).map fun inner =>
          entries.put name (.table .implied inner)
    | some (.tables items) =>
      if path.isEmpty then none
      else
        (mapLast? (insertPair key value path) items).map fun items =>
          entries.put name (.tables items)
    | some _ => none

/-- Change what stands at the end of the path of a header.  Tables that are missing on the way are
implied; in an array of tables the last one is meant. -/
def alterAt (f : Option Toml → Option Toml) (key : Text) : List Text → Entries → Option Entries
  | [], entries => (f (entries.get? key)).map fun value => entries.put key value
  | name :: path, entries =>
    match entries.get? name with
    | none => (alterAt f key path []).map fun inner => entries.put name (.table .implied inner)
    | some (.table .inline _) => none
    | some (.table origin inner) =>
      (alterAt f key path inner).map fun inner => entries.put name (.table origin inner)
    | some (.tables items) =>
      (mapLast? (alterAt f key path) items).map fun items => entries.put name (.tables items)
    | some _ => none

/-- The table that a header opens. -/
def openTable : Option Toml → Option Toml
  | none => some (.table .header [])
  | some (.table .implied entries) => some (.table .header entries)
  | some _ => none

/-- The array of tables to which a header adds one. -/
def openElement : Option Toml → Option Toml
  | none => some (.tables [.table .header []])
  | some (.tables items) => some (.tables (items ++ [.table .header []]))
  | some _ => none

/-- Change the table that a header opened. -/
def changeTable (f : Entries → Option Entries) : Option Toml → Option Toml
  | some (.table origin entries) => (f entries).map (.table origin)
  | some (.tables items) => (mapLast? f items).map .tables
  | _ => none

end Toml

end Gemtext
