import Rebill.Binary64

/-!
# JSON values

Gateway responses carry free-form data, which the audit log keeps as it was read. `Json` is
that data: null, booleans, numbers, strings, arrays and objects. A number is a whole number
when its text is one that fits 64 bits, signed or unsigned, and a binary64 number otherwise. An
object read from text has its fields sorted by name, one field to a name.
-/

namespace Rebill

/-- A JSON number: a whole number between `-2 ^ 63` and `2 ^ 64 - 1`, or a binary64 number. -/
inductive JsonNumber where
  | whole (n : Int)
  | real (x : Binary64)
deriving DecidableEq, Repr, Inhabited

/-- A JSON value; an object keeps its fields in the order given. -/
inductive Json where
  | null
  | bool (b : Bool)
  | number (n : JsonNumber)
  | string (s : String)
  | array (items : List Json)
  | object (fields : List (String × Json))
deriving Repr, Inhabited

namespace Json

/-- The value of a field of an object; `none` for a missing field or a value that is not an
object. The first field of that name counts. -/
def field? (v : Json) (name : String) : Option Json :=
  match v with
  | .object fields => (fields.find? (·.1 == name)).map (·.2)
  | _ => none

/-- Sets a field of fields sorted by name: a field of that name is replaced, else the field goes
before the first field with a greater name. -/
def setField (k : String) (v : Json) : List (String × Json) → List (String × Json)
  | [] => [(k, v)]
  | (k', v') :: rest =>
    if k = k' then (k, v) :: rest
    else if k < k' then (k, v) :: (k', v') :: rest
    else (k', v') :: setField k v rest

mutual

/-- The value with the fields of every object sorted by name; fields of one name keep their
order. -/
def sorted : Json → Json
  | .array items => .array (sortedItems items)
  | .object fields => .object ((sortedFields fields).mergeSort fun a b => decide (a.1 ≤ b.1))
  | v => v

def sortedItems : List Json → List Json
  | [] => []
  | v :: rest => sorted v :: sortedItems rest

def sortedFields : List (String × Json) → List (String × Json)
  | [] => []
  | (k, v) :: rest => (k, sorted v) :: sortedFields rest

end

def asString? : Json → Option String
  | .string s => some s
  | _ => none

end Json

end Rebill
