/-!
# Patterns

A log filter may ask for a span field whose value matches a pattern: a regular expression in the
usual syntax (alternation `|`, groups `( )` with `(?flags)`, `(?:...)` and named groups,
repetition `*`, `+`, `?` and `{n,m}`, classes `[...]` with ranges, nested classes and ASCII
classes `[:alpha:]`, and backslash escapes). `Pattern.reads` says whether a text is such a
pattern. A text that is not is refused for the first of these faults:

* a repetition with nothing before it to repeat, or a counted repetition that is not `{n}`,
  `{n,}` or `{n,m}` with `n ≤ m`;
* a group that is closed and not open, or open and never closed; a group flag that is not one of
  `imsUuxR`, given twice, or a group name that is empty or not a word;
* a class that is never closed, or a range whose end comes before its start;
* an escape of a letter or digit with no meaning, a `\x`, `\u` or `\U` escape that is not a
  character, or a backslash at the end.

Each step of the check consumes at least one character, so the check ends within the length of
the text.
-/

namespace Rebill.Text.Pattern

def isHexDigit (c : Char) : Bool :=
  c.isDigit || ('a' ≤ c && c ≤ 'f') || ('A' ≤ c && c ≤ 'F')

def hexNumber (ds : List Char) : Nat :=
  ds.foldl (fun acc c =>
    acc * 16 + (if c.isDigit then c.toNat - '0'.toNat
      else if 'a' ≤ c && c ≤ 'f' then c.toNat - 'a'.toNat + 10 else c.toNat - 'A'.toNat + 10)) 0

/-- Whether a number is a Unicode scalar value: a code point that is not a surrogate. -/
def isScalar (n : Nat) : Bool := n < 0xD800 || (0xE000 ≤ n && n ≤ 0x10FFFF)

/-- Whether a character may be escaped to stand for itself: an ASCII character that is neither a
letter nor a digit, nor `<` or `>`. -/
def escapesToItself (c : Char) : Bool :=
  c.toNat < 128 && !c.isAlphanum && c != '<' && c != '>'

/-- Reads the digits of a hexadecimal escape, `n` of them or any number from one to eight in
braces, with the character they stand for and the rest. -/
def hexEscape (n : Nat) : List Char → Option (Char × List Char)
  | '\x7b' :: rest =>
    let ds := rest.takeWhile isHexDigit
    match rest.drop ds.length with
    | '\x7d' :: r =>
      if ds.isEmpty || ds.length > 8 || !isScalar (hexNumber ds) then none
      else some (Char.ofNat (hexNumber ds), r)
    | _ => none
  | cs =>
    let ds := cs.take n
    if ds.length == n && ds.all isHexDigit && isScalar (hexNumber ds) then
      some (Char.ofNat (hexNumber ds), cs.drop n)
    else none

/-- Reads the name of a Unicode class after `\p` or `\P`: one letter, or a name in braces. -/
def unicodeClassName : List Char → Option (List Char)
  | '\x7b' :: rest =>
    let name := rest.takeWhile (· ≠ '\x7d')
    match rest.drop name.length with
    | '\x7d' :: r => if name.isEmpty then none else some r
    | _ => none
  | c :: rest => if c.isAlpha then some rest else none
  | [] => none

/-- The names a word boundary escape `\b{...}` may carry. -/
def boundaryNames : List String := ["start", "end", "start-half", "end-half"]

/-- Reads an escape after its backslash: the single character it stands for, if it stands for
one, and the rest; `none` when it is not an escape. -/
def escape : List Char → Option (Option Char × List Char)
  | [] => none
  | c :: rest =>
    if escapesToItself c then some (some c, rest)
    else
      match c with
      | 'a' => some (some '\x07', rest)
      | 'f' => some (some '\x0c', rest)
      | 't' => some (some '\t', rest)
      | 'n' => some (some '\n', rest)
      | 'r' => some (some '\r', rest)
      | 'v' => some (some '\x0b', rest)
      | 'x' => (hexEscape 2 rest).map fun (ch, r) => (some ch, r)
      | 'u' => (hexEscape 4 rest).map fun (ch, r) => (some ch, r)
      | 'U' => (hexEscape 8 rest).map fun (ch, r) => (some ch, r)
      | 'p' | 'P' => (unicodeClassName rest).map fun r => (none, r)
      | 'd' | 'D' | 's' | 'S' | 'w' | 'W' | 'A' | 'z' | 'B' | '<' | '>' => some (none, rest)
      | 'b' =>
        match rest with
        | '\x7b' :: r =>
          let name := r.takeWhile (· ≠ '\x7d')
          match r.drop name.length with
          | '\x7d' :: r' =>
            if boundaryNames.contains (String.ofList name) then some (none, r') else none
          | _ => none
        | _ => some (none, rest)
      | _ => none

def asciiClassNames : List String :=
  ["alnum", "alpha", "ascii", "blank", "cntrl", "digit", "graph", "lower", "print", "punct",
   "space", "upper", "word", "xdigit"]

/-- Reads an ASCII class `[:name:]` or `[:^name:]` after its opening bracket. -/
def asciiClass : List Char → Option (List Char)
  | ':' :: rest =>
    let rest := match rest with
      | '^' :: r => r
      | r => r
    let name := rest.takeWhile Char.isAlpha
    match rest.drop name.length with
    | ':' :: ']' :: r => if asciiClassNames.contains (String.ofList name) then some r else none
    | _ => none
  | _ => none

/-- The start of a class after its opening bracket: a `^` and then a `]` or `-` are taken as they
are, the bracket and the hyphen as characters. -/
def classStart (cs : List Char) : Option Char × List Char :=
  let cs := match cs with
    | '^' :: r => r
    | r => r
  match cs with
  | ']' :: r => (some ']', r)
  | '-' :: r => (some '-', r)
  | r => (none, r)

/-- Reads the items of a class up to its closing bracket and gives the rest after it. `prev` is
the last single character read, which a `-` turns into the start of a range. -/
def classItems : Nat → Option Char → List Char → Option (List Char)
  | 0, _, _ => none
  | _ + 1, _, [] => none
  | fuel + 1, prev, c :: rest =>
    match c with
    | ']' => some rest
    | '[' =>
      match asciiClass rest with
      | some r => classItems fuel none r
      | none =>
        let (first, r) := classStart rest
        match classItems fuel first r with
        | some r' => classItems fuel none r'
        | none => none
    | '-' =>
      match prev, rest with
      | _, '-' :: r => classItems fuel none r
      | some _, ']' :: _ => classItems fuel (some '-') rest
      | some lo, '\\' :: r =>
        match escape r with
        | some (some hi, r') => if lo ≤ hi then classItems fuel none r' else none
        | _ => none
      | some lo, hi :: r =>
        if hi == '[' then none
        else if lo ≤ hi then classItems fuel none r else none
      | some _, [] => none
      | none, _ => classItems fuel (some '-') rest
    | '&' =>
      match rest with
      | '&' :: r => classItems fuel none r
      | _ => classItems fuel (some '&') rest
    | '~' =>
      match rest with
      | '~' :: r => classItems fuel none r
      | _ => classItems fuel (some '~') rest
    | '\\' =>
      match escape rest with
      | some (ch, r) => classItems fuel ch r
      | none => none
    | _ => classItems fuel (some c) rest

def groupFlags : List Char := ['i', 'm', 's', 'U', 'u', 'x', 'R']

/-- Reads flags up to `:` or `)`: whether a group opens (at `:`) and the rest, or `none` when the
flags are empty before `)`, repeated, or end with a dangling `-`. -/
def flags : Nat → List Char → Bool → Bool → List Char → Option (Bool × List Char)
  | 0, _, _, _, _ => none
  | _ + 1, _, _, _, [] => none
  | fuel + 1, seen, negated, dangling, c :: rest =>
    if c == ':' then (if dangling then none else some (true, rest))
    else if c == ')' then
      (if dangling || seen.isEmpty then none else some (false, rest))
    else if c == '-' then
      (if negated then none else flags fuel seen true true rest)
    else if groupFlags.contains c && !seen.contains c then flags fuel (c :: seen) negated false rest
    else none

def nameStart (c : Char) : Bool := c.isAlpha || c == '_'

def nameRest (c : Char) : Bool := c.isAlphanum || c == '_' || c == '.' || c == '[' || c == ']'

def groupName (cs : List Char) : Option (List Char) :=
  let name := cs.takeWhile (· ≠ '>')
  match cs.drop name.length, name with
  | '>' :: r, n :: ns => if nameStart n && ns.all nameRest then some r else none
  | _, _ => none

/-- Reads what follows `(`: whether a group opens, and the rest. -/
def groupOpen (cs : List Char) : Option (Bool × List Char) :=
  match cs with
  | '?' :: 'P' :: '<' :: r => (groupName r).map fun r' => (true, r')
  | '?' :: '<' :: r => (groupName r).map fun r' => (true, r')
  | '?' :: r => flags (r.length + 1) [] false false r
  | r => some (true, r)

/-- Reads a counted repetition after `{`: `n`, `n,` or `n,m` with `n ≤ m`, then `}`. -/
def counted (cs : List Char) : Option (List Char) :=
  let lo := cs.takeWhile Char.isDigit
  let value := fun (ds : List Char) => ds.foldl (fun a d => a * 10 + (d.toNat - '0'.toNat)) 0
  if lo.isEmpty || value lo > 0xFFFFFFFF then none
  else
    match cs.drop lo.length with
    | '\x7d' :: r => some r
    | ',' :: r =>
      let hi := r.takeWhile Char.isDigit
      match r.drop hi.length with
      | '\x7d' :: r' =>
        if hi.isEmpty then some r'
        else if value hi > 0xFFFFFFFF || value lo > value hi then none else some r'
      | _ => none
    | _ => none

/-- Checks the rest of a pattern: `depth` groups are open, and `repeatable` says whether the
current sequence ends in something a repetition may apply to. -/
def check : Nat → Nat → Bool → List Char → Bool
  | 0, _, _, _ => false
  | _ + 1, depth, _, [] => depth == 0
  | fuel + 1, depth, repeatable, c :: rest =>
    match c with
    | '(' =>
      match groupOpen rest with
      | some (true, r) => check fuel (depth + 1) false r
      | some (false, r) => check fuel depth false r
      | none => false
    | ')' => depth > 0 && check fuel (depth - 1) true rest
    | '|' => check fuel depth false rest
    | '*' | '+' | '?' => repeatable && check fuel depth true rest
    | '\x7b' =>
      repeatable &&
        match counted rest with
        | some r => check fuel depth true r
        | none => false
    | '[' =>
      let (first, r) := classStart rest
      match classItems (r.length + 1) first r with
      | some r' => check fuel depth true r'
      | none => false
    | '\\' =>
      match escape rest with
      | some (_, r) => check fuel depth true r
      | none => false
    | _ => check fuel depth true rest

end Rebill.Text.Pattern

namespace Rebill.Text

/-- Whether a text reads as a pattern. -/
def Pattern.reads (s : String) : Bool :=
  Pattern.check (s.length + 1) 0 false s.toList

end Rebill.Text
