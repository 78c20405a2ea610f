import MotionControl.Toml.Node

/-!
# Tables under construction

A document names the same table in several places: in its own header, in the headers of its
subtables, and in dotted keys. While a document is read, a draft remembers for each table how it
came about, because that decides who may still add to it:

* a table with a header of its own takes keys only in the section of that header;
* a table implied by the header of a subtable may still get a header, and then moves to the end of
  its parent;
* a table made by dotted keys takes more dotted keys, but no header.
-/

set_option autoImplicit false
set_option relaxedAutoImplicit false

namespace MotionControl.Toml

/-- How a table came about. -/
inductive Origin
  /-- By its own header. -/
  | opened
  /-- By the header of a table below it. -/
  | implied
  /-- By dotted keys. -/
  | dotted
  deriving DecidableEq, Repr

/-- What a key of a table under construction holds. -/
inductive Draft
  | value (node : Node)
  | table (origin : Origin) (entries : List (String × Draft))
  /-- An array of tables; only the latest one can still change. -/
  | tables (earlier : List Node) (latest : List (String × Draft))

namespace Draft

/-- The entries of a table under construction, in order of first appearance. -/
abbrev Entries := List (String × Draft)

mutual

/-- The finished value. -/
def finish : Draft → Node
  | .value node => node
  | .table _ entries => .table (finishEntries entries)
  | .tables earlier latest => .array (earlier ++ [.table (finishEntries latest)])

/-- The finished entries. -/
def finishEntries : List (String × Draft) → List (String × Node)
  | [] => []
  | (key, draft) :: rest => (key, draft.finish) :: finishEntries rest

end

/-- Replaces what a key holds, in its place. -/
def put (entries : Entries) (key : String) (draft : Draft) : Entries :=
  entries.map fun entry ↦ if entry.1 = key then (key, draft) else entry

/-- Adds a key after all others. -/
def append (entries : Entries) (key : String) (draft : Draft) : Entries :=
  entries ++ [(key, draft)]

/-- Changes the table that a header path leads to. Missing tables on the way are implied; an array
of tables stands for its latest table. -/
def under (change : Entries → Option Entries) : List String → Entries → Option Entries
  | [], entries => change entries
  | key :: path, entries =>
    match entries.lookup key with
    | none => (under change path []).map fun sub ↦ append entries key (.table .implied sub)
    | some (.table origin sub) =>
      (under change path sub).map fun sub ↦ put entries key (.table origin sub)
    | some (.tables earlier latest) =>
      (under change path latest).map fun latest ↦ put entries key (.tables earlier latest)
    | some (.value _) => none

/-- Opens a table by its header. -/
def openTable (key : String) (entries : Entries) : Option Entries :=
  match entries.lookup key with
  | none => some (append entries key (.table .opened []))
  | some (.table .implied sub) =>
    some (append (entries.filter fun entry ↦ entry.1 ≠ key) key (.table .opened sub))
  | some _ => none

/-- Opens one more table of an array of tables by its header. -/
def openElement (key : String) (entries : Entries) : Option Entries :=
  match entries.lookup key with
  | none => some (append entries key (.tables [] []))
  | some (.tables earlier latest) =>
    some (put entries key (.tables (earlier ++ [.table (finishEntries latest)]) []))
  | some _ => none

/-- Gives a dotted key its value. The tables on the way are made or extended by dotted keys; only
the last of them has to be a table of dotted keys, the others may also be implied by a header or be
the latest table of an array. -/
def assign (node : Node) : List String → Entries → Option Entries
  | [], _ => none
  | [key], entries =>
    if (entries.lookup key).isNone then some (append entries key (.value node)) else none
  | key :: path, entries =>
    match entries.lookup key with
    | none => (assign node path []).map fun sub ↦ append entries key (.table .dotted sub)
    | some (.table .dotted sub) =>
      (assign node path sub).map fun sub ↦ put entries key (.table .dotted sub)
    | some (.table .implied sub) =>
      if path.length = 1 then none
      else (assign node path sub).map fun sub ↦ put entries key (.table .implied sub)
    | some (.tables earlier latest) =>
      if path.length = 1 then none
      else (assign node path latest).map fun latest ↦ put entries key (.tables earlier latest)
    | some (.table .opened _) => none
    | some (.value _) => none

/-- The table that a list of dotted keys and their values makes. -/
def ofPairs (pairs : List (List String × Node)) : Option Node :=
  (pairs.foldlM (fun entries pair ↦ assign pair.2 pair.1 entries) []).map
    fun entries ↦ .table (finishEntries entries)

end Draft

end MotionControl.Toml
