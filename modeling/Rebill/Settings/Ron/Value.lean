import Rebill.Settings.Tree
import Rebill.Text.Quoted

/-!
# RON values

A RON document reads into a `Ron.Value`: a flag, a character, a map, a whole or a real number,
an optional value, a text, a sequence or the unit value. Maps are ordered by their keys, and the
order of values is total: first by kind, in the order the constructors are listed, then by
content. Real numbers keep the text they show as (`1.5`, `inf`, `NaN`), and are ordered by their
value, with not-a-number equal to itself and above every other number; zero and negative zero
are equal. A key set twice in a map keeps its first form and takes the later value.

`Value.setting` turns a value into a setting: an optional value is its content or nothing, the
unit value is nothing, a character is text, and a map becomes a table whose keys must be texts
or characters. A key of another kind refuses the document, naming what was found; the entries
are taken in the order of their keys, each key before its value.
-/

namespace Rebill.Settings.Ron

/-- A value of a RON document. -/
inductive Value where
  | bool (b : Bool)
  | char (c : Char)
  | map (entries : List (Value × Value))
  | integer (n : Int)
  | float (shown : String)
  | option (v : Option Value)
  | string (s : String)
  | seq (items : List Value)
  | unit
deriving Repr, Inhabited

/-- A real number's text as a sign and an exact fraction `n / 10 ^ scale`, for the texts a
finite number shows as; `none` for infinities and not-a-number. -/
def decimalOf (shown : String) : Option (Bool × Nat × Nat) :=
  let (negative, cs) := match shown.toList with
    | '-' :: r => (true, r)
    | r => (false, r)
  let whole := cs.takeWhile Char.isDigit
  let fraction := match cs.drop whole.length with
    | '.' :: r => r
    | _ => []
  if whole.isEmpty || !fraction.all Char.isDigit then none
  else
    let n := (whole ++ fraction).foldl (fun acc c => acc * 10 + (c.toNat - '0'.toNat)) 0
    some (negative, n, fraction.length)

/-- Where a real number stands among the others: not-a-number above all, then the infinities
at either end, then finite numbers by value. -/
def compareFloat (a b : String) : Ordering :=
  let rank := fun (s : String) =>
    if s == "NaN" then 3 else if s == "inf" then 2 else if s == "-inf" then 0 else 1
  if rank a != rank b then compare (rank a) (rank b)
  else
    match decimalOf a, decimalOf b with
    | some (na, a, sa), some (nb, b, sb) =>
      let x : Int := (if na then -1 else 1) * (a * Nat.pow 10 sb : Nat)
      let y : Int := (if nb then -1 else 1) * (b * Nat.pow 10 sa : Nat)
      compare x y
    | _, _ => .eq

def Value.kindRank : Value → Nat
  | .bool _ => 0
  | .char _ => 1
  | .map _ => 2
  | .integer _ => 3
  | .float _ => 4
  | .option _ => 5
  | .string _ => 6
  | .seq _ => 7
  | .unit => 8

def compareText (a b : String) : Ordering :=
  compareOfLessAndEq (a.toList.map Char.toNat) (b.toList.map Char.toNat)

mutual

def Value.compare : Value → Value → Ordering
  | .bool a, .bool b => Ord.compare a b
  | .char a, .char b => Ord.compare a.toNat b.toNat
  | .map as, .map bs => Value.comparePairs as bs
  | .integer a, .integer b => Ord.compare a b
  | .float a, .float b => compareFloat a b
  | .option none, .option none => .eq
  | .option none, .option (some _) => .lt
  | .option (some _), .option none => .gt
  | .option (some a), .option (some b) => Value.compare a b
  | .string a, .string b => compareText a b
  | .seq as, .seq bs => Value.compareList as bs
  | .unit, .unit => .eq
  | a, b => Ord.compare a.kindRank b.kindRank

/-- The order of two sequences, item by item, a shorter one first when it is a prefix. -/
def Value.compareList : List Value → List Value → Ordering
  | [], [] => .eq
  | [], _ :: _ => .lt
  | _ :: _, [] => .gt
  | a :: as, b :: bs =>
    match Value.compare a b with
    | .eq => Value.compareList as bs
    | o => o

/-- The order of two maps, entry by entry, key before value. -/
def Value.comparePairs : List (Value × Value) → List (Value × Value) → Ordering
  | [], [] => .eq
  | [], _ :: _ => .lt
  | _ :: _, [] => .gt
  | (k, v) :: as, (k', v') :: bs =>
    match Value.compare k k' with
    | .eq =>
      match Value.compare v v' with
      | .eq => Value.comparePairs as bs
      | o => o
    | o => o

end

/-- Entries, ordered by key, with a key set to a value: a key already there keeps its form and
takes the new value, and a new key goes to its place in the order. -/
def insertEntry (k v : Value) : List (Value × Value) → List (Value × Value)
  | [] => [(k, v)]
  | (k', v') :: rest =>
    match Value.compare k k' with
    | .lt => (k, v) :: (k', v') :: rest
    | .eq => (k', v) :: rest
    | .gt => (k', v') :: insertEntry k v rest

/-- How a value that is no text is named when a text was expected. -/
def Value.found : Value → String
  | .bool b => "the boolean `" ++ toString b ++ "`"
  | .char c => "the UTF-8 character `" ++ c.toString ++ "`"
  | .map _ => "a map"
  | .integer n => "the signed integer `" ++ toString n ++ "`"
  | .float shown => "the floating point number `" ++ shown ++ "`"
  | .option _ => "an optional value"
  | .string s => "the string " ++ Text.debugQuote s
  | .seq _ => "a sequence"
  | .unit => "a unit value"

/-- The text of a map key: a text or a character, or the refusal naming what was found. -/
def Value.keyText : Value → Except String String
  | .string s => .ok s
  | .char c => .ok c.toString
  | v => .error ("Expected a string but found " ++ v.found ++ " instead")

mutual

/-- The setting of a value. -/
def Value.setting : Value → Except String Setting
  | .bool b => .ok (.flag b)
  | .char c => .ok (.text c.toString)
  | .map entries => .table <$> Value.fieldSettings [] entries
  | .integer n => .ok (.whole n)
  | .float shown => .ok (.real shown)
  | .option (some v) => Value.setting v
  | .option none => .ok .nil
  | .string s => .ok (.text s)
  | .seq items => .list <$> Value.itemSettings items
  | .unit => .ok .nil

def Value.itemSettings : List Value → Except String (List Setting)
  | [] => .ok []
  | v :: vs => do pure ((← Value.setting v) :: (← Value.itemSettings vs))

/-- The fields of a map's entries after the fields `acc`, in the order of the keys; a later
key with the same text replaces the field. -/
def Value.fieldSettings (acc : List (String × Setting)) :
    List (Value × Value) → Except String (List (String × Setting))
  | [] => .ok acc
  | (k, v) :: rest => do
    let name ← k.keyText
    let s ← Value.setting v
    Value.fieldSettings (Setting.setField acc name s) rest

end

end Rebill.Settings.Ron
