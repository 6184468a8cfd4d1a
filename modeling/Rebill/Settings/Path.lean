import Rebill.Settings.Tree

/-!
# Keys as paths, and the merged configuration

A source of configuration gives values under keys, and a key is read as a path: a name of ASCII
letters, digits, blanks, `_` and `-`, then any number of `.name` steps into tables and `[i]`
steps into lists, where a negative index counts from the end. A key that does not read as a path
names one entry as it is. An index may have spaces and tabs around it.

`Merged` is the configuration that all sources build together, starting from an empty table.
Setting a value at a path makes the tables and lists on the way, putting a new one in place of
anything else that stands there; a list grows with nothing in its new places. A table value set
at a name is merged into the table there, key by key, and an empty one only makes sure a table
is there. A value keeps the name of the source it came from, but a table never has one, and nor
does a list made on the way; an error about such a value names no source. A negative index that
counts back past the start of its list has no place to stand for, and stops the program.
-/

namespace Rebill.Settings

/-- A step of a path: into a table by name, or into a list by index. -/
inductive PathStep where
  | field (name : String)
  | index (i : Int)
deriving DecidableEq, Repr, Inhabited

/-- A value of the merged configuration. A list is kept sparse: its length and the items set. -/
inductive Merged where
  | value (origin : Option String) (v : Setting)
  | list (origin : Option String) (length : Nat) (items : List (Nat × Merged))
  | table (fields : List (String × Merged))
deriving Inhabited

/-- What to do at the end of a path: put a value there, or make sure a table is there. -/
inductive Placement where
  | put (v : Merged)
  | ensureTable
deriving Inhabited

namespace PathStep

def isNameChar (c : Char) : Bool :=
  c.isAlphanum || c == ' ' || c == '_' || c == '-'

/-- Whether a character is a space or a tab, which may stand around an index. -/
def isIndexBlank (c : Char) : Bool := c == ' ' || c == '\t'

/-- An index: blanks, an optional minus, digits and blanks; it must fit 64 bits. -/
def indexOf? (cs : List Char) : Option Int :=
  let cs := cs.dropWhile isIndexBlank
  let (neg, cs) := match cs with
    | '-' :: rest => (true, rest)
    | _ => (false, cs)
  let ds := cs.takeWhile Char.isDigit
  if ds.isEmpty ∨ !(cs.drop ds.length).all isIndexBlank then none
  else
    let v : Int := ds.foldl (fun a c => a * 10 + (c.toNat - '0'.toNat)) 0
    let v := if neg then -v else v
    if -(Int.pow 2 63) ≤ v ∧ v < Int.pow 2 63 then some v else none

/-- The steps after the first name, reading at most `fuel` of them. -/
def stepsOf? : Nat → List Char → Option (List PathStep)
  | _, [] => some []
  | 0, _ :: _ => none
  | fuel + 1, '.' :: rest =>
    let name := rest.takeWhile isNameChar
    if name.isEmpty then none
    else ((stepsOf? fuel (rest.drop name.length)).map (.field (String.ofList name) :: ·))
  | fuel + 1, '[' :: rest =>
    let inside := rest.takeWhile (· != ']')
    match rest.drop inside.length with
    | ']' :: after => do
      let i ← indexOf? inside
      let more ← stepsOf? fuel after
      pure (.index i :: more)
    | _ => none
  | _ + 1, _ :: _ => none

end PathStep

/-- The path a key names: a first name and the steps after it; a key that is no path is one
name. -/
def keyPath (key : String) : List PathStep :=
  let cs := key.toList
  let first := cs.takeWhile PathStep.isNameChar
  let parsed :=
    if first.isEmpty then none
    else (PathStep.stepsOf? cs.length (cs.drop first.length)).map
      (.field (String.ofList first) :: ·)
  parsed.getD [.field key]

def fieldOf? (fields : List (String × Merged)) (k : String) : Option Merged :=
  (fields.find? (·.1 == k)).map (·.2)

/-- Fields with the value under a name replaced, or added last. -/
def assignField (fields : List (String × Merged)) (k : String) (v : Merged) :
    List (String × Merged) :=
  if fields.any (·.1 == k) then fields.map fun (k', v') => if k' == k then (k, v) else (k', v')
  else fields ++ [(k, v)]

/-- The place a list index stands for: itself, or counted from the end when negative; `none`
when it counts back past the start. -/
def listPlace? (i : Int) (length : Nat) : Option Nat :=
  if 0 ≤ i then some i.toNat
  else if i.natAbs ≤ length then some (length - i.natAbs) else none

namespace Merged

/-- A list as the merged configuration sees it: a list read from a file becomes one whose items
keep the file's name. -/
def asList? : Option Merged → Option (Option String × Nat × List (Nat × Merged))
  | some (.list o n items) => some (o, n, items)
  | some (.value o (.list vs)) =>
    some (o, vs.length, (List.range vs.length).zip (vs.map (Merged.value o)))
  | _ => none

/-- Carries out a placement at the end of a path, from the value found there, if any; `none`
when an index on the way counts back past the start of its list. -/
def place (cur : Option Merged) : List PathStep → Placement → Option Merged
  | [], .put v => some v
  | [], .ensureTable => some (cur.getD (.table []))
  | .field k :: rest, p =>
    let fields := match cur with
      | some (.table fs) => fs
      | _ => []
    (place (fieldOf? fields k) rest p).map fun v => .table (assignField fields k v)
  | .index i :: rest, p => do
    let (o, n, items) := (asList? cur).getD (none, 0, [])
    let at_ ← listPlace? i n
    let item := (items.find? (·.1 == at_)).map (·.2)
    let v ← place (item.orElse fun _ => some (.value none .nil)) rest p
    pure (.list o (max n (at_ + 1)) ((items.filter (·.1 != at_)) ++ [(at_, v)]))

end Merged

mutual

/-- The placements that set a value at a path: a table is merged key by key, and an empty one
makes sure a table is there. -/
def Setting.placements (origin : Option String) (path : List PathStep) :
    Setting → List (List PathStep × Placement)
  | .table [] => [(path, .ensureTable)]
  | .table fs => Setting.fieldPlacements origin path fs
  | v => [(path, .put (.value origin v))]

/-- The placements of the fields of a table merged at a path. -/
def Setting.fieldPlacements (origin : Option String) (path : List PathStep) :
    List (String × Setting) → List (List PathStep × Placement)
  | [] => []
  | (k, v) :: rest =>
    Setting.placements origin (path ++ [.field k]) v ++ Setting.fieldPlacements origin path rest

end

/-- The placements that set a value under a key. A path ending in an index takes the value
whole; one ending in a name merges a table. -/
def placementsAt (origin : Option String) (key : String) (v : Setting) :
    List (List PathStep × Placement) :=
  let path := keyPath key
  match path.getLast? with
  | some (.index _) => [(path, .put (.value origin v))]
  | _ => Setting.placements origin path v

/-- The merged configuration after the placements, in order; `none` when one of them counts
back past the start of a list. -/
def Merged.applyAll (root : Merged) (ps : List (List PathStep × Placement)) : Option Merged :=
  ps.foldlM (fun r (path, p) => Merged.place (some r) path p) root

/-- A value of the merged configuration as text, or the message refusing it for a key: its
kind, and the source it came from when it has one. -/
def Merged.text? (key : String) : Merged → Except String String
  | .value o v => match v.text? with
    | .ok t => .ok t
    | .error d => .error (refusedFor key d o)
  | .list o _ _ => .error (refusedFor key "sequence" o)
  | .table _ => .error (refusedFor key "map" none)
where
  /-- The refusal of a value of a kind for a key. -/
  refusedFor (key d : String) (o : Option String) : String :=
    "invalid type: " ++ d ++ ", expected a string for key `" ++ key ++ "`" ++
      (match o with
       | some name => " in " ++ name
       | none => "")

def Merged.top? (m : Merged) (k : String) : Option Merged :=
  match m with
  | .table fs => fieldOf? fs k
  | _ => none

end Rebill.Settings
