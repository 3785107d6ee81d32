import ApiBindings.Document.Keyed
import ApiBindings.Document.Value

/-!
# Tables under construction

A TOML text builds its tables line by line.  A header opens a table, a doubled header adds one to a
list of tables, and a key with dots makes the tables on its way.  What may be opened again depends
on how a table came to be; a value is never changed any more.
-/

namespace ApiBindings.Toml

/-- How a table came to be. -/
inductive Origin where
  /-- On the way to a table with a header. -/
  | implied
  /-- On the way of a key with dots, in one of the sections. -/
  | dotted (number : Nat)
  /-- By a header of its own. -/
  | declared
deriving DecidableEq, Repr

/-- What stands under a key. -/
inductive Entry where
  | value (v : Value)
  | table (origin : Origin) (entries : List (String × Entry))
  | tables (earlier : List (List (String × Entry))) (last : List (String × Entry))

abbrev Entries := List (String × Entry)

namespace Entries

/-- Changes the table behind the keys of a header.  Tables that are missing on the way are made, and
of a list of tables the last one is entered. -/
def within (change : Entries → Option Entries) : List String → Entries → Option Entries
  | [], entries => change entries
  | key :: path, entries =>
    match entries.lookup key with
    | none => (within change path []).map fun inner => putEntry key (.table .implied inner) entries
    | some (.table origin inner) =>
      (within change path inner).map fun inner => putEntry key (.table origin inner) entries
    | some (.tables earlier last) =>
      (within change path last).map fun last => putEntry key (.tables earlier last) entries
    | some (.value _) => none

/-- Changes the table behind the first keys of a dotted key in a section.  Only tables that have
no header and come from no earlier section can be entered. -/
def dotted (number : Nat) (change : Entries → Option Entries) :
    List String → Entries → Option Entries
  | [], entries => change entries
  | key :: path, entries =>
    match entries.lookup key with
    | none =>
      (dotted number change path []).map fun inner =>
        putEntry key (.table (.dotted number) inner) entries
    | some (.table origin inner) =>
      if origin = .implied ∨ origin = .dotted number then
        (dotted number change path inner).map fun inner =>
          putEntry key (.table (.dotted number) inner) entries
      else none
    | some _ => none

def declare (key : String) (entries : Entries) : Option Entries :=
  match entries.lookup key with
  | none => some (putEntry key (.table .declared []) entries)
  | some (.table .implied inner) => some (putEntry key (.table .declared inner) entries)
  | some _ => none

/-- Adds a table to the list of a doubled header. -/
def extend (key : String) (entries : Entries) : Option Entries :=
  match entries.lookup key with
  | none => some (putEntry key (.tables [] []) entries)
  | some (.tables earlier last) => some (putEntry key (.tables (earlier ++ [last]) []) entries)
  | some _ => none

def assign (key : String) (v : Value) (entries : Entries) : Option Entries :=
  match entries.lookup key with
  | none => some (putEntry key (.value v) entries)
  | some _ => none

end Entries

/-! ## Finished tables -/

mutual

def Entry.finished : Entry → Value
  | .value v => v
  | .table _ entries => .map (finishedFields entries)
  | .tables earlier last => .list (finishedTables earlier ++ [.map (finishedFields last)])

def finishedFields : List (String × Entry) → Fields
  | [] => []
  | (key, entry) :: rest => (.string key, entry.finished) :: finishedFields rest

def finishedTables : List (List (String × Entry)) → List Value
  | [] => []
  | entries :: rest => .map (finishedFields entries) :: finishedTables rest

end

end ApiBindings.Toml
