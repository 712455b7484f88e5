/-!
# Tables of a TOML document

A document is a tree of tables. A table may be filled by a header, by dotted keys, or only be
implied by the header of a table inside it; which of these decides what may be added to it later.
Strings, numbers and dates are kept as well-formed values without their content.
-/

namespace GeneralApplications.Toml

/-- How a table came about. -/
inductive TableForm where
  /-- By a header of its own. -/
  | explicit
  /-- By the header of a table inside it. -/
  | implied
  /-- By a dotted key. -/
  | dotted
  deriving DecidableEq, Repr

/-- A value or a table. -/
inductive Tree where
  | boolean (b : Bool)
  /-- A string, a number or a date. -/
  | scalar
  | array (items : List Tree)
  /-- A table written as a value; it is closed. -/
  | inlineTable (members : List (String × Tree))
  | table (form : TableForm) (members : List (String × Tree))
  /-- Tables under one header, each begun by an occurrence of it. -/
  | tables (items : List (List (String × Tree)))
  deriving Repr, Inhabited

/-- The members of a table, in the order in which they were added. -/
abbrev Members : Type := List (String × Tree)

namespace Members

/-- The member with a key. -/
def get? (ms : Members) (k : String) : Option Tree :=
  (ms.find? (·.1 = k)).map (·.2)

/-- The members with the one under a key changed, or added at the end. -/
def set (ms : Members) (k : String) (t : Tree) : Members :=
  match ms with
  | [] => [(k, t)]
  | m :: rest => if m.1 = k then (k, t) :: rest else m :: set rest k t

/-- Changes the table at a path. Tables on the way that are missing are made in the form `fresh`;
a dotted key does not reach into tables that have a header. -/
def change (fresh : TableForm) (f : TableForm → Members → Option Members) :
    List String → TableForm → Members → Option Members
  | [], form, ms => f form ms
  | k :: path, _, ms =>
    match ms.get? k with
    | none => do
      let sub ← change fresh f path fresh []
      return ms.set k (.table fresh sub)
    | some (.table form sub) =>
      if fresh = .dotted ∧ form = .explicit then none
      else do
        let sub ← change fresh f path form sub
        return ms.set k (.table form sub)
    | some (.tables items) => do
      let sub ← change fresh f path .explicit (items.getLast?.getD [])
      return ms.set k (.tables (items.dropLast ++ [sub]))
    | some (.boolean _) | some .scalar | some (.array _) | some (.inlineTable _) => none

/-- Adds a value under a dotted key. It must be new, and its table must be one that keys of this
kind fill. -/
def assign (path : List String) (key : String) (value : Tree) (ms : Members) : Option Members :=
  change .dotted (fun form ms =>
    if (form = .dotted ↔ path = []) then none
    else
      match ms.get? key with
      | some _ => none
      | none => some (ms.set key value)) path .explicit ms

/-- Opens the table under a header: it must be new or implied so far. -/
def openTable (path : List String) (key : String) (ms : Members) : Option Members :=
  change .implied (fun _ ms =>
    match ms.get? key with
    | none => some (ms.set key (.table .explicit []))
    | some (.table .implied sub) => some (ms.set key (.table .explicit sub))
    | some _ => none) path .explicit ms

/-- Begins one more of the tables under a header. -/
def openNext (path : List String) (key : String) (ms : Members) : Option Members :=
  change .implied (fun _ ms =>
    match ms.get? key with
    | none => some (ms.set key (.tables [[]]))
    | some (.tables items) => some (ms.set key (.tables (items ++ [[]])))
    | some _ => none) path .explicit ms

end Members

end GeneralApplications.Toml
