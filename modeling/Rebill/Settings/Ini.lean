import Rebill.Settings.Tree
import Rebill.Text.Blank

/-!
# INI configuration files

A reader of INI files into settings. The file is read one character at a time, with the line and
column of the current character kept for refusals (`line:column message`, both from one):

* blanks and line breaks between entries are skipped;
* `;` or `#` starts a comment to the end of the line, but only at the start of a line;
* `[name]` starts a section; the name is trimmed;
* anything else is a key, read up to `=` or `:` and trimmed; a key may run over lines;
* after `=` or `:` and blanks, the value runs to the end of the line and is trimmed; a value in
  double or single quotes is read to its closing quote, then to the end of the line, and what
  follows the quote is trimmed at its end;
* a backslash escapes the next character (`\0`, `\a`, `\b`, `\t`, `\r`, `\n`, `\x` and four hex
  digits, a line break to join lines, any other character for itself).

Every value is text. Keys and section names are taken in lower case; a key given twice keeps its
last value.
-/

namespace Rebill.Settings.Ini

/-- The reader's place: the input from the current character on, and that character's line and
column (the column counts from one; a line break is column zero of its new line). -/
structure Cursor where
  rest : List Char
  line : Nat
  col : Nat
deriving Inhabited

namespace Cursor

def ch (c : Cursor) : Option Char := c.rest.head?

def bump (c : Cursor) : Cursor :=
  match c.rest with
  | [] => c
  | _ :: tail =>
    match tail with
    | '\n' :: _ => { rest := tail, line := c.line + 1, col := 0 }
    | _ :: _ => { rest := tail, line := c.line, col := c.col + 1 }
    | [] => { rest := tail, line := c.line, col := c.col }

def start (cs : List Char) : Cursor := bump { rest := ' ' :: cs, line := 0, col := 0 }

def fault (c : Cursor) (msg : String) : String :=
  toString (c.line + 1) ++ ":" ++ toString (c.col + 1) ++ " " ++ msg

end Cursor

/-- Whether a character is a blank for the reader: Unicode white space. -/
def isSpace (c : Char) : Bool := Rebill.Text.isBlank c

def skipSpace : Nat → Cursor → Cursor
  | 0, c => c
  | fuel + 1, c =>
    match c.ch with
    | some x => if isSpace x then skipSpace fuel c.bump else c
    | none => c

def skipInline : Nat → Cursor → Cursor
  | 0, c => c
  | fuel + 1, c =>
    match c.ch with
    | some x => if isSpace x && x ≠ '\n' && x ≠ '\r' then skipInline fuel c.bump else c
    | none => c

def skipComment : Nat → Cursor → Cursor
  | 0, c => c
  | fuel + 1, c =>
    match c.ch with
    | some x => if x = '\n' then c.bump else skipComment fuel c.bump
    | none => c

/-- Where a piece of text ends: at one of some characters, or also at the end of the input. -/
structure Stops where
  chars : List Char
  atEnd : Bool
  shown : String

def keyStops : Stops := ⟨['=', ':'], false, "[Some('='), Some(':')]"⟩

def sectionStops : Stops := ⟨[']'], false, "[Some(']')]"⟩

def lineStops : Stops := ⟨['\n', '\r'], true, "[Some('\\n'), Some('\\r'), None]"⟩

def quoteStops (q : Char) : Stops :=
  ⟨[q], false, if q = '"' then "[Some('\"')]" else "[Some('\\'')]"⟩

def Stops.hit (s : Stops) (c : Cursor) : Bool :=
  match c.ch with
  | some x => s.chars.contains x
  | none => s.atEnd

/-- The refusal of text that reaches the end of the input. -/
def Stops.eof (s : Stops) (c : Cursor) : String :=
  c.fault ("expecting \"" ++ s.shown ++ "\" but found EOF.")

/-- Four hexadecimal digits after `\x`; a backslash in them must start a line break. -/
def hexCode (s : Stops) : Nat → Cursor → String → Except String (String × Cursor)
  | 0, c, acc => .ok (acc, c)
  | n + 1, c, acc =>
    let c := c.bump
    match c.ch with
    | none => .error (s.eof c)
    | some '\\' =>
      let c := c.bump
      match c.ch with
      | some '\n' => hexCode s n c (acc.push '\n')
      | other => .error (c.fault ("expecting \"\\\\n\" but found \"" ++
          (match other with | some x => "Some(" ++ reprStr x ++ ")" | none => "None") ++ "\"."))
    | some x => hexCode s n c (acc.push x)

def hexValue (code : String) : Option Char :=
  let digits := code.toList.map fun x =>
    if '0' ≤ x ∧ x ≤ '9' then some (x.toNat - '0'.toNat)
    else if 'a' ≤ x ∧ x ≤ 'f' then some (x.toNat - 'a'.toNat + 10)
    else if 'A' ≤ x ∧ x ≤ 'F' then some (x.toNat - 'A'.toNat + 10)
    else none
  if digits.all Option.isSome then
    let v := digits.foldl (fun acc d => acc * 16 + d.getD 0) 0
    if v < 0xD800 ∨ (0xDFFF < v ∧ v < 0x110000) then some (Char.ofNat v) else none
  else none

def readUntil (s : Stops) : Nat → Cursor → String → Except String (String × Cursor)
  | 0, c, acc => .ok (acc, c)
  | fuel + 1, c, acc =>
    if s.hit c then .ok (acc, c)
    else match c.ch with
      | none => .error (s.eof c)
      | some '\\' =>
        let c := c.bump
        match c.ch with
        | none => .error (s.eof c)
        | some '0' => readUntil s fuel c.bump (acc.push '\x00')
        | some 'a' => readUntil s fuel c.bump (acc.push '\x07')
        | some 'b' => readUntil s fuel c.bump (acc.push '\x08')
        | some 't' => readUntil s fuel c.bump (acc.push '\t')
        | some 'r' => readUntil s fuel c.bump (acc.push '\r')
        | some 'n' => readUntil s fuel c.bump (acc.push '\n')
        | some '\n' => readUntil s fuel c.bump acc
        | some 'x' =>
          match hexCode s 4 c "" with
          | .error e => .error e
          | .ok (code, c) =>
            match hexValue code with
            | some x => readUntil s fuel c.bump (acc.push x)
            | none => .error (c.fault "unknown character in \\xHH form")
        | some x => readUntil s fuel c.bump (acc.push x)
      | some x => readUntil s fuel c.bump (acc.push x)

def trim (s : String) : String :=
  String.ofList ((s.toList.dropWhile isSpace).reverse.dropWhile isSpace).reverse

def trimEnd (s : String) : String :=
  String.ofList (s.toList.reverse.dropWhile isSpace).reverse

def value (fuel : Nat) (c : Cursor) : Except String (String × Cursor) := do
  let c := skipInline fuel c.bump
  match c.ch with
  | none => pure ("", c)
  | some q =>
    if q = '"' ∨ q = '\'' then
      let (inner, c) ← readUntil (quoteStops q) fuel c.bump ""
      let (tail, c) ← readUntil lineStops fuel c.bump ""
      pure (inner ++ trimEnd tail, c)
    else
      let (v, c) ← readUntil lineStops fuel c ""
      pure (trim v, c)

/-- The sections read so far: the entries outside any section, then each section in order. -/
structure Sections where
  general : List (String × String) := []
  named : List (String × List (String × String)) := []
deriving Inhabited

def Sections.add (s : Sections) (current : Option String) (k v : String) : Sections :=
  match current with
  | none => { s with general := s.general ++ [(k, v)] }
  | some name =>
    { s with named := s.named.map fun (n, es) => if n == name then (n, es ++ [(k, v)]) else (n, es) }

def Sections.openSection (s : Sections) (name : String) : Sections :=
  if s.named.any (·.1 == name) then s else { s with named := s.named ++ [(name, [])] }

def entries : Nat → Nat → Cursor → Option String → String → Sections → Except String Sections
  | 0, _, _, _, _, s => .ok s
  | rounds + 1, fuel, c, current, pending, s =>
    match c.ch with
    | none => .ok s
    | some x =>
      if x = ';' ∨ x = '#' then
        if c.col > 1 then .error (c.fault "doesn't support inline comment")
        else entries rounds fuel (skipSpace fuel (skipComment fuel c)) current pending s
      else if x = '[' then
        match readUntil sectionStops fuel c.bump "" with
        | .error e => .error e
        | .ok (name, c) =>
          let c := if c.ch = some ']' then c.bump else c
          let name := trim name
          entries rounds fuel (skipSpace fuel c) (some name) pending (s.openSection name)
      else if x = '=' ∨ x = ':' then
        if pending.isEmpty then .error (c.fault "missing key")
        else match value fuel c with
          | .error e => .error e
          | .ok (v, c) => entries rounds fuel (skipSpace fuel c) current "" (s.add current pending v)
      else
        match readUntil keyStops fuel c "" with
        | .error e => .error e
        | .ok (k, c) => entries rounds fuel (skipSpace fuel c) current (trim k) s

/-- The settings of the entries of a section; a key given twice keeps its last value. -/
def tableOf (es : List (String × String)) : List (String × Setting) :=
  es.foldl (fun t (k, v) => Setting.setField t k.toLower (.text v)) []

/-- Reads an INI file into a table, or the text of its refusal. -/
def read (text : String) : Except String Setting := do
  let cs := text.toList
  let fuel := cs.length + 2
  let s ← entries fuel fuel (skipSpace fuel (Cursor.start cs)) none "" {}
  let root := tableOf s.general
  pure (.table (s.named.foldl (fun t (n, es) => Setting.setField t n.toLower (.table (tableOf es)))
    root))

end Rebill.Settings.Ini
