import GeneralApplications.Json.Reading

/-!
# Wire forms of records

A `Codec` says how values of a type are read and how they are written. The wire form of a record is
a `Layout`: its fields in order, each with its name, its codec and its place in the record. From
one layout come

* the reader of an object, which visits the members in the order of the source, so that this order
  decides which of several faults is reported, and then looks the fields up;
* the reader of a list, which takes the fields by position;
* the writer, which leaves out what the layout says may be absent.

`Codec.record` passes over members it does not know, `Codec.openRecord` keeps them.
-/

namespace GeneralApplications.Json

/-- How the values of a type are read and written. -/
structure Codec (τ : Type) (α : Type) where
  decode : τ → Except Rejection α
  encode : α → Json

/-- One field as the visitor of an object sees it: the names under which it is found, the first of
which messages use, and whether a value suits it. -/
structure Place (τ : Type) where
  name : String
  aliases : List String
  check : τ → Except Rejection Unit

/-- What a record's reader looks its fields up in. -/
structure Findings (τ : Type) where
  /-- The value of a place, with the step that leads to it. -/
  find : Place τ → Except Rejection (Option (Step × τ))
  /-- The rejection when a place that is required has no value. -/
  absent : Place τ → Rejection

/-- The wire form of a part `α` of a record `σ`. -/
structure Layout (τ : Type) (σ : Type) (α : Type) where
  places : List (Place τ)
  read : Findings τ → Except Rejection α
  write : σ → List (String × Option Json)

/-! ## Fields -/

namespace Layout
variable {τ : Type} [Readable τ] {σ α β : Type}

/-- The place of a field with a given codec. -/
def place (name : String) (aliases : List String) (read : τ → Except Rejection α) : Place τ :=
  ⟨name, aliases, fun t => discard (read t)⟩

/-- The value found at a place, read where it stands. -/
def readFound (read : τ → Except Rejection α) (found : Step × τ) : Except Rejection α :=
  within found.1 (read found.2)

/-- A field that must be there. -/
def required (name : String) (get : σ → α) (c : Codec τ α) : Layout τ σ α :=
  let p := place name [] c.decode
  { places := [p]
    read := fun f => do
      match ← f.find p with
      | some found => readFound c.decode found
      | none => .error (f.absent p)
    write := fun s => [(name, some (c.encode (get s)))] }

/-- A field that may be missing or `null`, and is then left out. -/
def optional (name : String) (get : σ → Option α) (c : Codec τ α) : Layout τ σ (Option α) :=
  let p := place name [] (readOption c.decode)
  { places := [p]
    read := fun f => do
      match ← f.find p with
      | some found => readFound (readOption c.decode) found
      | none => .ok none
    write := fun s => [(name, (get s).map c.encode)] }

/-- A list that may be missing or `null`, which both stand for the empty list; the empty list is
left out. -/
def collection (name : String) (get : σ → List α) (c : Codec τ α) : Layout τ σ (List α) :=
  let read (t : τ) : Except Rejection (List α) :=
    (·.getD []) <$> readOption (readList c.decode) t
  let p := place name [] read
  { places := [p]
    read := fun f => do
      match ← f.find p with
      | some found => readFound read found
      | none => .ok []
    write := fun s =>
      [(name, if (get s).isEmpty then none else some (.array ((get s).map c.encode)))] }

/-- A field that may be missing, but not `null`, and is always written. -/
def defaulted (name : String) (aliases : List String) (default : α) (get : σ → α)
    (c : Codec τ α) : Layout τ σ α :=
  let p := place name aliases c.decode
  { places := [p]
    read := fun f => do
      match ← f.find p with
      | some found => readFound c.decode found
      | none => .ok default
    write := fun s => [(name, some (c.encode (get s)))] }

/-- No field: a constant. -/
def constant (a : α) : Layout τ σ α where
  places := []
  read _ := .ok a
  write _ := []

/-- The fields of two parts, the first before the second. -/
def both (f : Layout τ σ (α → β)) (x : Layout τ σ α) : Layout τ σ β where
  places := f.places ++ x.places
  read fs := do
    let g ← f.read fs
    let a ← x.read fs
    return g a
  write s := f.write s ++ x.write s

instance : Applicative (Layout τ σ) where
  pure := constant
  seq f x := both f (x ())

end Layout

/-! ## Objects -/

section
variable {τ : Type} [Readable τ]

/-- The place that a key belongs to. -/
def placeOf? (places : List (Place τ)) (key : String) : Option (Place τ) :=
  places.find? fun p => p.name = key || p.aliases.contains key

/-- Visits the members of an object in order: a place may be met once, its value must suit it, and
other members are judged by `other`. -/
def visit (places : List (Place τ)) (other : τ → Except Rejection Unit) :
    List String → List (String × τ) → Except Rejection Unit
  | _, [] => .ok ()
  | seen, (key, t) :: rest =>
    match placeOf? places key with
    | some p =>
      if seen.contains p.name then .error (.here (.duplicateField p.name))
      else do
        within (.key key) (p.check t)
        visit places other (p.name :: seen) rest
    | none => do
      within (.key key) (other t)
      visit places other seen rest

/-- The members of an object as findings. -/
def Findings.ofMembers (members : List (String × τ)) : Findings τ where
  find p := .ok <| (members.find? fun m => p.name = m.1 || p.aliases.contains m.1).map
    fun m => (.key m.1, m.2)
  absent p := .here (.missingField p.name)

/-- The members that belong to no place. -/
def unknownMembers (places : List (Place τ)) (members : List (String × τ)) :
    List (String × τ) :=
  members.filter fun m => (placeOf? places m.1).isNone

/-! ## Lists -/

/-- What messages call a record of some number of fields. -/
def withElements (name : String) (n : Nat) : String :=
  "struct " ++ name ++ " with " ++ toString n ++ (if n = 1 then " element" else " elements")

/-- The items of a list as findings: the place at a position takes the item there. -/
def Findings.ofItems (name : String) (places : List (Place τ)) (items : Sequence τ) :
    Findings τ where
  find p := do
    let i := places.findIdx (·.name = p.name)
    match items.parts[i]? with
    | some t => return some (.index i, t)
    | none =>
      unbroken items.broken
      return none
  absent p :=
    .here (.invalidLength (places.findIdx (·.name = p.name)) (withElements name places.length))

/-- What a reader reports that has all it wants and does not find the end of the list. -/
def closing : ParseError → ParseError
  | .endInList => .endInList
  | .trailingComma => .trailingComma
  | _ => .trailingCharacters

/-- A list must not go on after the last field of a record. -/
def closed (fields : Nat) (items : Sequence τ) : Except Rejection Unit :=
  if fields < items.parts.length then
    match Readable.medium τ with
    | .value => .error (.here (.invalidLength items.parts.length "fewer elements in array"))
    | .text => .error (.here (.malformed .trailingCharacters))
  else unbroken (items.broken.map closing)

/-! ## Records -/

/-- Reads a record from a list of its fields. -/
def Layout.readItems {σ α : Type} (l : Layout τ σ α) (name : String) (items : Sequence τ) :
    Except Rejection α := do
  let a ← l.read (.ofItems name l.places items)
  closed l.places.length items
  return a

/-- Reads a record from its members; `other` judges the members it does not know. -/
def Layout.readMembers {σ α : Type} (l : Layout τ σ α) (other : τ → Except Rejection Unit)
    (members : Sequence (String × τ)) : Except Rejection α := do
  visit l.places other [] members.parts
  unbroken members.broken
  l.read (.ofMembers members.parts)

/-- The object of the fields of a record. -/
def Layout.object {σ α : Type} (l : Layout τ σ α) (s : σ) : Object :=
  Object.ofFields (l.write s)

/-- A record, given as an object or as the list of its fields. Members it does not know are passed
over. -/
def Codec.record {α : Type} (name : String) (l : Layout τ α α) : Codec τ α where
  decode t := do
    match ← lift (Readable.node t) with
    | .object members => l.readMembers (fun t => lift (Readable.skim t)) members
    | .array items => l.readItems name items
    | other => mistyped other ("struct " ++ name)
  encode a := (l.object a).toJson

/-- A record that keeps the members it does not know. It is given as an object only. -/
def Codec.openRecord {α : Type} (name : String) (l : Layout τ α (Object → α))
    (rest : α → Object) : Codec τ α where
  decode t := do
    match ← lift (Readable.node t) with
    | .object members =>
      let build ← l.readMembers (fun t => discard (lift (Readable.free t))) members
      let unknown ← Json.readMembers (unknownMembers l.places members.parts)
      return build (Object.ofMembers unknown)
    | other => mistyped other ("struct " ++ name)
  encode a := ((l.object a).override (rest a)).toJson

/-! ## Codecs of simple values -/

namespace Codec

/-- Texts. -/
def string : Codec τ String := ⟨readString, .string⟩

/-- Truth values. -/
def bool : Codec τ Bool := ⟨readBool, .bool⟩

/-- Free objects. -/
def object : Codec τ Object := ⟨readObject, Object.toJson⟩

/-- Lists. -/
def list {α : Type} (c : Codec τ α) : Codec τ (List α) :=
  ⟨readList c.decode, fun as => .array (as.map c.encode)⟩

/-- Named alternatives. -/
def variants {α : Type} (vs : List (String × α)) (name : α → String) : Codec τ α :=
  ⟨readVariant vs, fun a => .string (name a)⟩

/-- Alternatives under the names that a function gives them. -/
def named {α : Type} (all : List α) (name : α → String) : Codec τ α :=
  .variants (all.map fun a => (name a, a)) name

end Codec

end

end GeneralApplications.Json
