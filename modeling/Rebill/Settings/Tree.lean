import Rebill.Settings.Real
import Rebill.Json.Value
import Rebill.Text.Quoted

/-!
# Values of configuration files

Every configuration format reads into the same tree: nothing, a flag, a whole number, a real
number, text, a list, or a table of named values. A real number is kept as its text, the shortest
decimal that reads back to the same binary64 number.

A setting that wants text takes a flag, a number or text as its text, and refuses nothing, a list
or a table with `invalid type: ..., expected a string`. `Setting.describe` is how a refused value
is named in that message.
-/

namespace Rebill.Settings

/-- A value read from a configuration file or the environment. -/
inductive Setting where
  | nil
  | flag (b : Bool)
  | whole (n : Int)
  | real (shown : String)
  | text (s : String)
  | list (items : List Setting)
  | table (fields : List (String × Setting))
deriving Repr, Inhabited

namespace Setting

/-- How a value is named when a reader of settings refuses it. -/
def describe : Setting → String
  | .nil => "unit value"
  | .flag b => "boolean `" ++ toString b ++ "`"
  | .whole n => "integer 64 bit `" ++ toString n ++ "`"
  | .real s => "floating point `" ++ s ++ "`"
  | .text s => "string " ++ Text.debugQuote s
  | .list _ => "sequence"
  | .table _ => "map"

/-- The text of a value, or how it is named when it has none. -/
def text? : Setting → Except String String
  | .flag b => .ok (toString b)
  | .whole n => .ok (toString n)
  | .real s => .ok s
  | .text s => .ok s
  | v => .error (describe v)

/-- Sets a field of a table: a new field goes last, a field that exists takes the new value. -/
def setField (fields : List (String × Setting)) (k : String) (v : Setting) :
    List (String × Setting) :=
  if fields.any (·.1 == k) then fields.map fun (k', v') => if k' == k then (k, v) else (k', v')
  else fields ++ [(k, v)]

def field? (fields : List (String × Setting)) (k : String) : Option Setting :=
  (fields.find? (·.1 == k)).map (·.2)

end Setting

mutual

/-- The setting a JSON value reads as: a whole number past the signed 64-bit numbers is taken
as the nearest binary64 number, and a real number stays one. -/
def Setting.ofJson : Json → Setting
  | .null => .nil
  | .bool b => .flag b
  | .number (.whole n) =>
    if -9223372036854775808 ≤ n ∧ n ≤ 9223372036854775807 then .whole n
    else .real (realText (n < 0) n.natAbs 0)
  | .number (.real x) => .real (realTextOf x)
  | .string s => .text s
  | .array items => .list (Setting.ofJsonItems items)
  | .object fields => .table (Setting.ofJsonFields fields)

def Setting.ofJsonItems : List Json → List Setting
  | [] => []
  | v :: vs => Setting.ofJson v :: Setting.ofJsonItems vs

/-- The settings of the fields of a JSON object; of fields of one name the last counts. -/
def Setting.ofJsonFields : List (String × Json) → List (String × Setting)
  | [] => []
  | (k, v) :: fs =>
    let rest := Setting.ofJsonFields fs
    if rest.any (·.1 == k) then rest else (k, Setting.ofJson v) :: rest

end

end Rebill.Settings
