import Rebill.Yaml.Parser
import Rebill.Settings.Number
import Rebill.Settings.Real
import Rebill.Text.Quoted

/-!
# YAML documents

A document is built from the events of its text, node by node:

* a scalar written in quotes or as a block is text;
* a plain scalar is typed the way the core schema does: `~` and `null` are nothing, `true` and
  `false` flags, a 64-bit integer (decimal, `0x` hexadecimal, `0o` octal, with a sign) a whole
  number, a real number or `.inf`, `.nan` and their spellings a real number kept as written, and
  anything else text;
* a plain scalar tagged `!!bool`, `!!int`, `!!float` or `!!null` must be one of those, and is a
  bad value otherwise; any other tag makes it text;
* an alias is a copy of the node its anchor stands for when the alias is read;
* a mapping keeps its pairs in order, and a key given twice refuses the text, at the value of the
  second one (for a collection, at its end), naming the key as `Node.debug` shows it; this
  refusal comes only when the events of the text all read.

A node of a mapping is first its key; the next node is the value of that key. A key that is a
bad value is no key, so the node after it is taken as the key instead.
-/

namespace Rebill.Yaml

/-- A node of a YAML document. A real number keeps the text it was written as. -/
inductive Node where
  | real (text : String)
  | integer (n : Int)
  | string (s : String)
  | boolean (b : Bool)
  | array (items : List Node)
  | hash (pairs : List (Node × Node))
  | null
  | badValue
deriving Repr, Inhabited

mutual

/-- Whether two nodes are the same, pairs of mappings compared in order. -/
def Node.beq : Node → Node → Bool
  | .real a, .real b => a == b
  | .integer a, .integer b => a == b
  | .string a, .string b => a == b
  | .boolean a, .boolean b => a == b
  | .array as, .array bs => Node.beqList as bs
  | .hash ps, .hash qs => Node.beqPairs ps qs
  | .null, .null => true
  | .badValue, .badValue => true
  | _, _ => false

/-- Whether two lists of nodes are the same, item by item. -/
def Node.beqList : List Node → List Node → Bool
  | [], [] => true
  | a :: as, b :: bs => Node.beq a b && Node.beqList as bs
  | _, _ => false

/-- Whether two lists of pairs are the same, pair by pair. -/
def Node.beqPairs : List (Node × Node) → List (Node × Node) → Bool
  | [], [] => true
  | (k, v) :: ps, (k', v') :: qs => Node.beq k k' && Node.beq v v' && Node.beqPairs ps qs
  | _, _ => false

end

instance : BEq Node := ⟨Node.beq⟩

mutual

/-- A node as the reader's debugging view shows it: its kind, and its content in brackets. -/
def Node.debug : Node → String
  | .real t => "Real(" ++ Text.debugQuote t ++ ")"
  | .integer n => "Integer(" ++ toString n ++ ")"
  | .string s => "String(" ++ Text.debugQuote s ++ ")"
  | .boolean b => "Boolean(" ++ toString b ++ ")"
  | .array items => "Array([" ++ Node.debugList items ++ "])"
  | .hash pairs => "Hash(\x7b" ++ Node.debugPairs pairs ++ "\x7d)"
  | .null => "Null"
  | .badValue => "BadValue"

/-- Nodes as the debugging view shows them, separated by commas. -/
def Node.debugList : List Node → String
  | [] => ""
  | [n] => Node.debug n
  | n :: ns => Node.debug n ++ ", " ++ Node.debugList ns

/-- Pairs as the debugging view shows them, `key: value`, separated by commas. -/
def Node.debugPairs : List (Node × Node) → String
  | [] => ""
  | [(k, v)] => Node.debug k ++ ": " ++ Node.debug v
  | (k, v) :: ps => Node.debug k ++ ": " ++ Node.debug v ++ ", " ++ Node.debugPairs ps

end

def coreTagPrefix : String := "tag:yaml.org,2002:"

/-- The spellings of infinity and not-a-number that a plain scalar may take besides those of a
real number. -/
def specialReals : List String :=
  [".inf", ".Inf", ".INF", "+.inf", "+.Inf", "+.INF", "-.inf", "-.Inf", "-.INF", ".nan", "NaN",
   ".NAN"]

def isReal (v : String) : Bool := specialReals.contains v || (Settings.readReal? v).isSome

/-- A 64-bit integer in a radix, with an optional sign. -/
def radixWhole? (radix : Nat) (cs : List Char) : Option Int :=
  let (negative, ds) := match cs with
    | '-' :: r => (true, r)
    | '+' :: r => (false, r)
    | _ => (false, cs)
  let digit := fun (c : Char) =>
    if isHex c then some (hexValue c) else none
  if ds.isEmpty then none
  else
    let vals := ds.map digit
    if vals.all fun v => match v with | some d => d < radix | none => false then
      let n : Int := (vals.foldl (fun acc v => acc * radix + v.getD 0) 0 : Nat)
      let n := if negative then -n else n
      if Settings.i64Min ≤ n ∧ n ≤ Settings.i64Max then some n else none
    else none

def decimalWhole? (v : String) : Option Int :=
  match Settings.readWhole Settings.i64Min Settings.i64Max v with
  | .ok n => some n
  | .error _ => none

/-- The node of an untagged plain scalar. A `0x`, `0o` or `+` prefix is tried first. -/
def Node.ofPlain (v : String) : Node :=
  let prefixed := match v.toList with
    | '0' :: 'x' :: r => radixWhole? 16 r
    | '0' :: 'o' :: r => radixWhole? 8 r
    | '+' :: r => decimalWhole? (String.ofList r)
    | _ => none
  match prefixed with
  | some n => .integer n
  | none =>
    match v with
    | "~" | "null" => .null
    | "true" => .boolean true
    | "false" => .boolean false
    | _ =>
      match decimalWhole? v with
      | some n => .integer n
      | none => if isReal v then .real v else .string v

def Node.ofTagged (v : String) (t : Tag) : Node :=
  if t.handle == coreTagPrefix then
    match t.suffix with
    | "bool" =>
      match v with
      | "true" => .boolean true
      | "false" => .boolean false
      | _ => .badValue
    | "int" =>
      match decimalWhole? v with
      | some n => .integer n
      | none => .badValue
    | "float" => if isReal v then .real v else .badValue
    | "null" => if v == "~" || v == "null" then .null else .badValue
    | _ => .string v
  else .string v

def Node.ofScalar (v : String) (style : ScalarStyle) (tag : Option Tag) : Node :=
  if style != .plain then .string v
  else
    match tag with
    | some t => Node.ofTagged v t
    | none => Node.ofPlain v

/-- The state of building documents: those done, the collections open from the innermost out
with their anchors, the pending key of each open mapping, the anchors' nodes, and the refusal
met, after which nothing more is built. -/
structure Loader where
  docs : List Node := []
  stack : List (Node × Nat) := []
  keys : List Node := []
  anchors : List (Nat × Node) := []
  failure : Option ScanError := none
deriving Inhabited

namespace Loader

def duplicateKey (k : Node) (m : Mark) : ScanError :=
  { mark := m, info := k.debug ++ ": duplicated key in mapping" }

/-- Puts a finished node, read at a mark, in its place: the document, the open sequence, or the
open mapping as its pending key or as the value of that key. -/
def insert (l : Loader) (node : Node) (anchor : Nat) (m : Mark) : Loader :=
  let l := if anchor > 0 then { l with anchors := (anchor, node) :: l.anchors } else l
  match l.stack with
  | [] => { l with stack := [(node, anchor)] }
  | (.array items, a) :: rest => { l with stack := (.array (items ++ [node]), a) :: rest }
  | (.hash pairs, a) :: rest =>
    match l.keys with
    | .badValue :: ks => { l with keys := node :: ks }
    | k :: ks =>
      match pairs.find? (·.1 == k) with
      | some (first, _) => { l with failure := some (duplicateKey first m) }
      | none => { l with stack := (.hash (pairs ++ [(k, node)]), a) :: rest, keys := .badValue :: ks }
    | [] => l
  | _ :: _ => l

def onEvent (l : Loader) : Event × Mark → Loader
  | (ev, m) =>
    if l.failure.isSome then l
    else
      match ev with
      | .documentEnd =>
        match l.stack with
        | [] => { l with docs := l.docs ++ [.badValue] }
        | [(node, _)] => { l with docs := l.docs ++ [node], stack := [] }
        | _ => l
      | .sequenceStart a _ => { l with stack := (.array [], a) :: l.stack }
      | .mappingStart a _ =>
        { l with stack := (.hash [], a) :: l.stack, keys := .badValue :: l.keys }
      | .sequenceEnd =>
        match l.stack with
        | (node, a) :: rest => { l with stack := rest }.insert node a m
        | [] => l
      | .mappingEnd =>
        match l.stack with
        | (node, a) :: rest => { l with stack := rest, keys := l.keys.tail }.insert node a m
        | [] => l
      | .scalar v style a tag => l.insert (Node.ofScalar v style tag) a m
      | .alias id => l.insert (((l.anchors.find? (·.1 == id)).map (·.2)).getD .badValue) 0 m
      | _ => l

end Loader

/-- The documents of a YAML text, or the refusal of the text. -/
def documentsOf (text : String) : Except ScanError (List Node) := do
  let l := (← eventsOf text).foldl Loader.onEvent {}
  match l.failure with
  | some e => .error e
  | none => pure l.docs

end Rebill.Yaml
