import Rebill.Json.Value
import Rebill.Store.Basic

/-!
# Names of entities

A script refers to entities by names instead of identifiers. A `NameTable` maps each name to an
identifier, and each identifier to the first name it got. A new name met in a reference stands
for a new identifier; a name bound by `as` must not stand for another identifier already, and
more names of one identifier are aliases. Identifiers the engine makes get generated names, a
kind letter and a count (`#c1`, `#p2`), in the order they are first seen. Names that start with
`#` are never given by the script.

The table also lists the attempts, payments and methods the script has seen, in the order it saw
them; a snapshot shows those. `NameTable.rename` replaces every identifier written in a string
by its first name, and one it never saw by a new name of kind `u`, numbered in the order the
strings are met; an answer is renamed with its fields sorted by name, so that order is the order
of the sorted answer.
-/

namespace Rebill.Script

/-- Names, first names, counters of generated names, and the entities seen. -/
structure NameTable where
  names : List (String × Ident) := []
  firstNames : List (Ident × String) := []
  counters : List (Char × Nat) := []
  charges : List Ident := []
  payments : List Ident := []
  methods : List Ident := []
deriving Repr, Inhabited

namespace NameTable

def lookup? (t : NameTable) (name : String) : Option Ident :=
  (t.names.find? (·.1 == name)).map (·.2)

def nameOf? (t : NameTable) (id : Ident) : Option String :=
  (t.firstNames.find? (·.1 == id)).map (·.2)

/-- Adds a name of an identifier; it becomes the identifier's first name if it has none. -/
def add (t : NameTable) (name : String) (id : Ident) : NameTable :=
  { t with names := t.names ++ [(name, id)],
           firstNames := if (t.nameOf? id).isSome then t.firstNames else t.firstNames ++ [(id, name)] }

/-- A name given by the script must be non-empty and not start with `#`. -/
def isGivenName (name : String) : Bool := !name.isEmpty && !name.startsWith "#"

def generate (t : NameTable) (kind : Char) : String × NameTable :=
  let n := ((t.counters.find? (·.1 == kind)).map (·.2)).getD 0 + 1
  let counters := (t.counters.filter (·.1 != kind)) ++ [(kind, n)]
  ("#" ++ String.singleton kind ++ toString n, { t with counters })

/-- Gives an identifier a generated name of a kind unless it has a name. -/
def nameNew (t : NameTable) (kind : Char) (id : Ident) : NameTable :=
  if (t.nameOf? id).isSome then t
  else
    let (name, t) := t.generate kind
    t.add name id

def seeCharge (t : NameTable) (id : Ident) : NameTable :=
  if t.charges.contains id then t else { t with charges := t.charges ++ [id] }

def seePayment (t : NameTable) (id : Ident) : NameTable :=
  if t.payments.contains id then t else { t with payments := t.payments ++ [id] }

def seeMethod (t : NameTable) (id : Ident) : NameTable :=
  if t.methods.contains id then t else { t with methods := t.methods ++ [id] }

/-- Replaces identifiers written in the characters by names. -/
def renameChars (t : NameTable) : List Char → Nat → List Char × NameTable
  | [], _ => ([], t)
  | cs, 0 => (cs, t)
  | c :: rest, fuel + 1 =>
    match Ident.read? ((c :: rest).take 36) with
    | some id =>
      let (name, t) := match t.nameOf? id with
        | some n => (n, t)
        | none =>
          let (n, t) := t.generate 'u'
          (n, t.add n id)
      let (tail, t) := renameChars t ((c :: rest).drop 36) fuel
      (name.toList ++ tail, t)
    | none =>
      let (tail, t) := renameChars t rest fuel
      (c :: tail, t)

/-- Replaces every identifier written in a text by its first name. -/
def renameText (t : NameTable) (s : String) : String × NameTable :=
  let (cs, t) := t.renameChars s.toList s.length
  (String.ofList cs, t)

mutual

/-- Replaces identifiers in every string of a value, in the order the value lists them; the
names of fields are kept. -/
def rename (t : NameTable) : Json → Json × NameTable
  | .string s =>
    let (s, t) := t.renameText s
    (.string s, t)
  | .array items =>
    let (items, t) := t.renameItems items
    (.array items, t)
  | .object fields =>
    let (fields, t) := t.renameFields fields
    (.object fields, t)
  | v => (v, t)

def renameItems (t : NameTable) : List Json → List Json × NameTable
  | [] => ([], t)
  | v :: rest =>
    let (v, t) := t.rename v
    let (rest, t) := t.renameItems rest
    (v :: rest, t)

def renameFields (t : NameTable) : List (String × Json) → List (String × Json) × NameTable
  | [] => ([], t)
  | (k, v) :: rest =>
    let (v, t) := t.rename v
    let (rest, t) := t.renameFields rest
    ((k, v) :: rest, t)

end

end NameTable

end Rebill.Script
