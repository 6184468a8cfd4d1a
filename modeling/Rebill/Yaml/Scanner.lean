/-!
# The YAML scanner

The scanner turns a YAML text into tokens: indicators, scalars, anchors, aliases, tags and
directives, and the tokens that the indentation of block collections implies (a start when a
collection opens at a deeper indentation, an end when the indentation falls back).

Every token carries the mark where it starts: the index of its first character, its line from 1
and its column from 0. A refusal carries a mark too, and reads as
`<what went wrong> at byte <index> line <line> column <column + 1>`.

Whether a scalar is a key is only known once a `:` follows it on the same line (or anywhere in a
flow collection): the scanner notes where such a *simple key* could start, and when the `:`
comes, puts a `Key` token (and, in a block, the start of a mapping) back in front of the scalar.
A token is handed out only once no simple key that could still become a key starts at it, so the
tokens come out in their final order.

The text ends at its last character or at the first NUL character, whichever comes first.
-/

namespace Rebill.Yaml

/-- A place in the text: the character index, the line from 1 and the column from 0. -/
structure Mark where
  index : Nat := 0
  line : Nat := 1
  col : Nat := 0
deriving DecidableEq, Repr, Inhabited

/-- Why a text is not YAML: what went wrong, and where. -/
structure ScanError where
  mark : Mark
  info : String
deriving Repr, Inhabited

def ScanError.text (e : ScanError) : String :=
  e.info ++ " at byte " ++ toString e.mark.index ++ " line " ++ toString e.mark.line ++
    " column " ++ toString (e.mark.col + 1)

/-- How a scalar was written. -/
inductive ScalarStyle where
  | plain
  | singleQuoted
  | doubleQuoted
  | literal
  | folded
deriving DecidableEq, Repr, Inhabited

/-- The kinds of token. -/
inductive TokenKind where
  | streamStart
  | streamEnd
  | versionDirective (major minor : Nat)
  | tagDirective (handle pre : String)
  | documentStart
  | documentEnd
  | blockSequenceStart
  | blockMappingStart
  | blockEnd
  | flowSequenceStart
  | flowSequenceEnd
  | flowMappingStart
  | flowMappingEnd
  | blockEntry
  | flowEntry
  | key
  | value
  | alias (name : String)
  | anchor (name : String)
  | tag (handle suffix : String)
  | scalar (style : ScalarStyle) (text : String)
deriving DecidableEq, Repr, Inhabited

/-- A token and the mark where it starts. -/
structure Token where
  mark : Mark
  kind : TokenKind
deriving DecidableEq, Repr, Inhabited

def isZ (c : Char) : Bool := c == '\x00'

def isBreak (c : Char) : Bool := c == '\n' || c == '\r'

/-- Whether a character breaks a line or ends the text. -/
def isBreakZ (c : Char) : Bool := isBreak c || isZ c

def isBlank (c : Char) : Bool := c == ' ' || c == '\t'

/-- Whether a character is a blank, breaks a line or ends the text. -/
def isBlankZ (c : Char) : Bool := isBlank c || isBreakZ c

/-- Whether a character is an ASCII letter or digit, `_` or `-`. -/
def isAlpha (c : Char) : Bool := c.isAlphanum || c == '_' || c == '-'

def isHex (c : Char) : Bool := c.isDigit || ('a' ≤ c && c ≤ 'f') || ('A' ≤ c && c ≤ 'F')

def hexValue (c : Char) : Nat :=
  if c.isDigit then c.toNat - '0'.toNat
  else if 'a' ≤ c && c ≤ 'f' then c.toNat - 'a'.toNat + 10
  else c.toNat - 'A'.toNat + 10

def isFlow (c : Char) : Bool := c == ',' || c == '[' || c == ']' || c == '\x7b' || c == '\x7d'

def isUriChar (c : Char) : Bool := isAlpha c || "#;/?:@&=+$,_.!~*'()[]%".contains c

def isTagChar (c : Char) : Bool := isUriChar c && !isFlow c && c != '!'

def isAnchorChar (c : Char) : Bool := !isBlankZ c && !isFlow c

/-- A place where a simple key could start. -/
structure SimpleKey where
  possible : Bool := false
  required : Bool := false
  tokenNumber : Nat := 0
  mark : Mark := {}
deriving Repr, Inhabited

/-- An indentation level: the one it replaced, and whether leaving it ends a block. A level that
ends no block is one column deeper than a block's entry and only holds its content apart. -/
structure Level where
  indent : Int
  needsBlockEnd : Bool
deriving Repr, Inhabited

/-- The state of the scanner. The lists of simple keys and of levels have the innermost first. -/
structure Scanner where
  src : Array Char
  mark : Mark := {}
  tokens : List Token := []
  streamStartProduced : Bool := false
  streamEndProduced : Bool := false
  adjacentValueAllowedAt : Nat := 0
  simpleKeyAllowed : Bool := false
  simpleKeys : List SimpleKey := []
  indent : Int := -1
  indents : List Level := []
  flowLevel : Nat := 0
  tokensParsed : Nat := 0
  leadingWhitespace : Bool := true
deriving Inhabited

abbrev ScanM := StateT Scanner (Except ScanError)

namespace Scanner

def budget (s : Scanner) : Nat := s.src.size + 2

def charAt (k : Nat) : ScanM Char := do
  let s ← get
  pure (s.src.getD (s.mark.index + k) '\x00')

def ch : ScanM Char := charAt 0

def fail (m : Mark) (info : String) : ScanM α := throw { mark := m, info }

def here : ScanM Mark := do pure (← get).mark

def skipBlank : ScanM Unit :=
  modify fun s =>
    { s with mark := { s.mark with index := s.mark.index + 1, col := s.mark.col + 1 } }

def skipNonBlank : ScanM Unit :=
  modify fun s => { s with mark := { s.mark with index := s.mark.index + 1, col := s.mark.col + 1 },
                           leadingWhitespace := false }

def skipNonBlanks : Nat → ScanM Unit
  | 0 => pure ()
  | n + 1 => do skipNonBlank; skipNonBlanks n

/-- Moves past a line feed to the start of the next line. -/
def skipNl : ScanM Unit :=
  modify fun s => { s with mark := { index := s.mark.index + 1, line := s.mark.line + 1, col := 0 },
                           leadingWhitespace := true }

def skipLinebreak : ScanM Unit := do
  let c ← ch
  let n ← charAt 1
  if c == '\r' && n == '\n' then
    skipBlank
    skipNl
  else if isBreak c then skipNl

/-- Moves past a line break, which a scalar reads as one line feed. -/
def readBreak : ScanM Unit := do
  let c ← ch
  let n ← charAt 1
  if c == '\r' && n == '\n' then skipBlank
  skipNl

/-- Moves past the rest of a comment, up to the end of its line. -/
def skipComment : ScanM Unit := do
  loop (← get).budget
where
  /-- Moves on, at most `fuel` characters. -/
  loop : Nat → ScanM Unit
    | 0 => pure ()
    | fuel + 1 => do
      if !isBreakZ (← ch) then
        skipNonBlank
        loop fuel

def push (t : Token) : ScanM Unit := modify fun s => { s with tokens := s.tokens ++ [t] }

def allowSimpleKey : ScanM Unit := modify fun s => { s with simpleKeyAllowed := true }

def disallowSimpleKey : ScanM Unit := modify fun s => { s with simpleKeyAllowed := false }

/-- Moves past spaces, tabs when `tabs` holds, and a comment, up to the end of the line; a
comment must follow a space or a tab. Tells whether a tab and whether a space were passed. -/
def skipWsToEol (tabs : Bool) : ScanM (Bool × Bool) := do
  loop (← get).budget false false
where
  /-- Moves on, at most `fuel` characters, with what was passed so far. -/
  loop : Nat → Bool → Bool → ScanM (Bool × Bool)
    | 0, t, w => pure (t, w)
    | fuel + 1, t, w => do
      let c ← ch
      if c == ' ' then
        skipBlank
        loop fuel t true
      else if c == '\t' && tabs then
        skipBlank
        loop fuel true w
      else if c == '#' then
        if !t && !w then
          fail (← here) "comments must be separated from other tokens by whitespace"
        skipComment
        loop fuel t w
      else pure (t, w)

def topNeedsBlockEnd (s : Scanner) : Bool :=
  match s.indents with
  | l :: _ => l.needsBlockEnd
  | [] => false

/-- Leaves the levels deeper than `col`, ending their blocks; nothing inside a flow
collection. -/
def unrollIndent (col : Int) : ScanM Unit := do
  let s ← get
  if s.flowLevel == 0 then set (pop s s.indents.length)
where
  /-- Leaves levels, at most `fuel` of them. -/
  pop (s : Scanner) : Nat → Scanner
    | 0 => s
    | fuel + 1 =>
      match s.indents with
      | l :: rest =>
        if s.indent > col then
          let tokens := if l.needsBlockEnd then s.tokens ++ [⟨s.mark, .blockEnd⟩] else s.tokens
          pop { s with indent := l.indent, indents := rest, tokens } fuel
        else s
      | [] => s

def unrollNonBlockIndents : ScanM Unit :=
  modify fun s => pop s s.indents.length
where
  /-- Leaves levels, at most `fuel` of them. -/
  pop (s : Scanner) : Nat → Scanner
    | 0 => s
    | fuel + 1 =>
      match s.indents with
      | l :: rest =>
        if l.needsBlockEnd then s else pop { s with indent := l.indent, indents := rest } fuel
      | [] => s

/-- Enters a level at `col` when it is deeper than the current one, putting the start of a
block at the given place in the queue (or at its end); a level that ends no block gives way
first. Nothing happens inside a flow collection. -/
def rollIndent (col : Nat) (number : Option Nat) (kind : TokenKind) (m : Mark) : ScanM Unit :=
  modify fun s =>
    if s.flowLevel > 0 then s
    else
      let s :=
        if s.indent ≤ (col : Int) then
          match s.indents with
          | l :: rest =>
            if !l.needsBlockEnd then { s with indent := l.indent, indents := rest } else s
          | [] => s
        else s
      if s.indent < (col : Int) then
        let s := { s with indents := ⟨s.indent, true⟩ :: s.indents, indent := (col : Int) }
        let t : Token := ⟨m, kind⟩
        match number with
        | some n =>
          let at_ := n - s.tokensParsed
          { s with tokens := s.tokens.take at_ ++ [t] ++ s.tokens.drop at_ }
        | none => { s with tokens := s.tokens ++ [t] }
      else s

/-- Enters a level one column deeper that ends no block, right inside a block. -/
def rollOneColIndent : ScanM Unit :=
  modify fun s =>
    if s.flowLevel == 0 && topNeedsBlockEnd s then
      { s with indents := ⟨s.indent, false⟩ :: s.indents, indent := s.indent + 1 }
    else s

/-- Notes that a simple key could start here, when one may; in a block at the indentation of a
block it must then become a key. -/
def saveSimpleKey : ScanM Unit :=
  modify fun s =>
    if s.simpleKeyAllowed then
      let required := s.flowLevel == 0 && s.indent == (s.mark.col : Int) && topNeedsBlockEnd s
      let sk : SimpleKey :=
        { possible := true, required, tokenNumber := s.tokensParsed + s.tokens.length,
          mark := s.mark }
      { s with simpleKeys := sk :: s.simpleKeys.tail }
    else s

/-- Gives up the innermost simple key; one that must become a key is refused. -/
def removeSimpleKey : ScanM Unit := do
  let s ← get
  match s.simpleKeys with
  | sk :: rest =>
    if sk.possible && sk.required then fail s.mark "simple key expected"
    set { s with simpleKeys := { sk with possible := false } :: rest }
  | [] => pure ()

/-- Whether a simple key can no longer become a key: in a block, it started on an earlier line or
more than 1024 characters back. -/
def isStale (s : Scanner) (sk : SimpleKey) : Bool :=
  sk.possible && s.flowLevel == 0 &&
    (sk.mark.line < s.mark.line || sk.mark.index + 1024 < s.mark.index)

/-- Gives up the simple keys that can no longer become keys; one that must is refused. -/
def staleSimpleKeys : ScanM Unit := do
  let s ← get
  if s.simpleKeys.any fun sk => isStale s sk && sk.required then fail s.mark "simple key expect ':'"
  let fresh := fun (sk : SimpleKey) => if isStale s sk then { sk with possible := false } else sk
  set { s with simpleKeys := s.simpleKeys.map fresh }

/-- Moves past blanks, line breaks and comments to the next token. A tab is refused where it
would indent content in a block. -/
def skipToNextToken : ScanM Unit := do
  loop (← get).budget
where
  /-- Moves on, at most `fuel` times. -/
  loop : Nat → ScanM Unit
    | 0 => pure ()
    | fuel + 1 => do
      let s ← get
      let c ← ch
      if c == '\t' && !s.indents.isEmpty && s.leadingWhitespace &&
          (s.mark.col : Int) < s.indent then
        let _ ← skipWsToEol true
        if !isBreakZ (← ch) then
          fail (← here) "tabs disallowed within this context (block indentation)"
        loop fuel
      else if isBlank c then
        skipBlank
        loop fuel
      else if isBreak c then
        skipLinebreak
        if s.flowLevel == 0 then allowSimpleKey
        loop fuel
      else if c == '#' then
        skipComment
        loop fuel
      else pure ()

/-- Whether a document marker (`---` or `...` and a blank) starts here, at the start of a line. -/
def atDocumentIndicator : ScanM Bool := do
  let s ← get
  let c ← ch
  let c1 ← charAt 1
  let c2 ← charAt 2
  let c3 ← charAt 3
  pure (s.mark.col == 0 &&
    ((c == '-' && c1 == '-' && c2 == '-') || (c == '.' && c1 == '.' && c2 == '.'))
    && isBlankZ c3)

/-! ## Directives -/

def scanDirectiveName : ScanM String := do
  let start ← here
  let name ← loop (← get).budget ""
  if name.isEmpty then
    fail start "while scanning a directive, could not find expected directive name"
  if !isBlankZ (← ch) then
    fail start "while scanning a directive, found unexpected non-alphabetical character"
  pure name
where
  /-- Reads the name's characters, at most `fuel` of them. -/
  loop : Nat → String → ScanM String
    | 0, acc => pure acc
    | fuel + 1, acc => do
      let c ← ch
      if isAlpha c then
        skipNonBlank
        loop fuel (acc.push c)
      else pure acc

def scanVersionNumber (m : Mark) : ScanM Nat := do
  let (v, len) ← loop 10 0 0
  if len == 0 then fail m "while scanning a YAML directive, did not find expected version number"
  pure v
where
  /-- Reads digits, refusing a tenth one. -/
  loop : Nat → Nat → Nat → ScanM (Nat × Nat)
    | 0, v, len => pure (v, len)
    | fuel + 1, v, len => do
      let c ← ch
      if c.isDigit then
        if len + 1 > 9 then
          fail m "while scanning a YAML directive, found extremely long version number"
        skipNonBlank
        loop fuel (v * 10 + (c.toNat - '0'.toNat)) (len + 1)
      else pure (v, len)

def skipBlanks : ScanM Unit := do
  loop (← get).budget
where
  /-- Moves on, at most `fuel` characters. -/
  loop : Nat → ScanM Unit
    | 0 => pure ()
    | fuel + 1 => do
      if isBlank (← ch) then
        skipBlank
        loop fuel

def scanVersionValue (m : Mark) : ScanM Token := do
  skipBlanks
  let major ← scanVersionNumber m
  if (← ch) != '.' then
    fail m "while scanning a YAML directive, did not find expected digit or '.' character"
  skipNonBlank
  let minor ← scanVersionNumber m
  pure ⟨m, .versionDirective major minor⟩

/-- A tag handle: `!`, then letters, digits, `_` and `-`, then `!`; a handle of a directive must
end with `!` unless it is the single `!`. -/
def scanTagHandle (directive : Bool) (m : Mark) : ScanM String := do
  if (← ch) != '!' then fail m "while scanning a tag, did not find expected '!'"
  skipNonBlank
  let s ← loop (← get).budget "!"
  if (← ch) == '!' then
    skipNonBlank
    pure (s.push '!')
  else if directive && s != "!" then
    fail m "while parsing a tag directive, did not find expected '!'"
  else pure s
where
  /-- Reads the handle's characters, at most `fuel` of them. -/
  loop : Nat → String → ScanM String
    | 0, acc => pure acc
    | fuel + 1, acc => do
      let c ← ch
      if isAlpha c then
        skipNonBlank
        loop fuel (acc.push c)
      else pure acc

/-- A character written as `%`-escaped UTF-8 octets in a tag. -/
def scanUriEscapes (m : Mark) : ScanM Char := do
  let code ← loop 4 0 0
  if code < 0xD800 || (0xDFFF < code && code < 0x110000) then pure (Char.ofNat code)
  else fail m "while parsing a tag, found an invalid UTF-8 codepoint"
where
  /-- Reads octets, with those still wanted and the code so far. -/
  loop : Nat → Nat → Nat → ScanM Nat
    | 0, _, code => pure code
    | fuel + 1, width, code => do
      let c ← ch
      let h1 ← charAt 1
      let h2 ← charAt 2
      if !(c == '%' && isHex h1 && isHex h2) then
        fail m "while parsing a tag, did not find URI escaped octet"
      let octet := hexValue h1 * 16 + hexValue h2
      let (width, code) ←
        if width == 0 then
          let w :=
            if octet &&& 0x80 == 0 then 1
            else if octet &&& 0xE0 == 0xC0 then 2
            else if octet &&& 0xF0 == 0xE0 then 3
            else if octet &&& 0xF8 == 0xF0 then 4
            else 0
          if w == 0 then fail m "while parsing a tag, found an incorrect leading UTF-8 octet"
          pure (w, octet)
        else
          if octet &&& 0xC0 != 0x80 then
            fail m "while parsing a tag, found an incorrect trailing UTF-8 octet"
          pure (width, code * 256 + octet)
      skipNonBlanks 3
      if width - 1 == 0 then pure code else loop fuel (width - 1) code

/-- The part of a tag after its handle, started by `head` without its first character. -/
def scanTagSuffix (head : String) (m : Mark) : ScanM String := do
  let start := if head.length > 1 then String.ofList (head.toList.drop 1) else ""
  let (s, len) ← loop (← get).budget start head.length
  if len == 0 then fail m "while parsing a tag, did not find expected tag URI"
  pure s
where
  /-- Reads the suffix's characters, at most `fuel` of them, counting them. -/
  loop : Nat → String → Nat → ScanM (String × Nat)
    | 0, acc, n => pure (acc, n)
    | fuel + 1, acc, n => do
      let c ← ch
      if isTagChar c then
        if c == '%' then
          let e ← scanUriEscapes m
          loop fuel (acc.push e) (n + 1)
        else
          skipNonBlank
          loop fuel (acc.push c) (n + 1)
      else pure (acc, n)

def scanTagPrefix (m : Mark) : ScanM String := do
  let (s, len) ← loop (← get).budget "" 0
  if len == 0 then fail m "while parsing a tag, did not find expected tag URI"
  pure s
where
  /-- Reads the prefix's characters, at most `fuel` of them, counting them. -/
  loop : Nat → String → Nat → ScanM (String × Nat)
    | 0, acc, n => pure (acc, n)
    | fuel + 1, acc, n => do
      let c ← ch
      if isUriChar c then
        if c == '%' then
          let e ← scanUriEscapes m
          loop fuel (acc.push e) (n + 1)
        else
          skipNonBlank
          loop fuel (acc.push c) (n + 1)
      else pure (acc, n)

/-- The value of a tag directive: a handle and a prefix. -/
def scanTagDirectiveValue (m : Mark) : ScanM Token := do
  skipBlanks
  let handle ← scanTagHandle true m
  skipBlanks
  let pre ← scanTagPrefix m
  if isBlankZ (← ch) then pure ⟨m, .tagDirective handle pre⟩
  else fail m "while scanning TAG, did not find expected whitespace or line break"

/-- A directive after `%`; an unknown one is passed over. -/
def scanDirective : ScanM Token := do
  let start ← here
  skipNonBlank
  let name ← scanDirectiveName
  let t ←
    if name == "YAML" then scanVersionValue start
    else if name == "TAG" then scanTagDirectiveValue start
    else do
      skipComment
      pure ⟨start, .tagDirective "" ""⟩
  let _ ← skipWsToEol true
  if isBreakZ (← ch) then
    skipLinebreak
    pure t
  else fail start "while scanning a directive, did not find expected comment or line break"

def fetchDirective : ScanM Unit := do
  unrollIndent (-1)
  removeSimpleKey
  disallowSimpleKey
  push (← scanDirective)

/-! ## Indicators -/

def fetchStreamStart : ScanM Unit :=
  modify fun s => { s with indent := -1, streamStartProduced := true, simpleKeyAllowed := true,
                           tokens := s.tokens ++ [⟨s.mark, .streamStart⟩], simpleKeys := [{}] }

/-- The end of the text: the open blocks end, and a simple key that must become a key is
refused. -/
def fetchStreamEnd : ScanM Unit := do
  modify fun s =>
    if s.mark.col != 0 then { s with mark := { s.mark with col := 0, line := s.mark.line + 1 } }
    else s
  let s ← get
  if s.simpleKeys.any fun sk => sk.required && sk.possible then fail s.mark "simple key expected"
  set { s with
    simpleKeys := s.simpleKeys.map fun (sk : SimpleKey) => { sk with possible := false } }
  unrollIndent (-1)
  removeSimpleKey
  disallowSimpleKey
  push ⟨(← here), .streamEnd⟩

def fetchDocumentIndicator (kind : TokenKind) : ScanM Unit := do
  unrollIndent (-1)
  removeSimpleKey
  disallowSimpleKey
  let m ← here
  skipNonBlanks 3
  push ⟨m, kind⟩

def fetchFlowCollectionStart (kind : TokenKind) : ScanM Unit := do
  saveSimpleKey
  rollOneColIndent
  let s ← get
  if s.flowLevel ≥ 255 then fail s.mark "recursion limit exceeded"
  set { s with simpleKeys := {} :: s.simpleKeys, flowLevel := s.flowLevel + 1 }
  allowSimpleKey
  let m ← here
  skipNonBlank
  let _ ← skipWsToEol true
  push ⟨m, kind⟩

def fetchFlowCollectionEnd (kind : TokenKind) : ScanM Unit := do
  removeSimpleKey
  modify fun s =>
    if s.flowLevel > 0 then { s with flowLevel := s.flowLevel - 1, simpleKeys := s.simpleKeys.tail }
    else s
  disallowSimpleKey
  let m ← here
  skipNonBlank
  let _ ← skipWsToEol true
  modify fun s => if s.flowLevel > 0 then { s with adjacentValueAllowedAt := s.mark.index } else s
  push ⟨m, kind⟩

def fetchFlowEntry : ScanM Unit := do
  removeSimpleKey
  allowSimpleKey
  let m ← here
  skipNonBlank
  let _ ← skipWsToEol true
  push ⟨m, .flowEntry⟩

def fetchBlockEntry : ScanM Unit := do
  let s ← get
  if s.flowLevel > 0 then fail s.mark "\"-\" is only valid inside a block"
  if !s.simpleKeyAllowed then fail s.mark "block sequence entries are not allowed in this context"
  match s.tokens.getLast? with
  | some ⟨m, .anchor _⟩ | some ⟨m, .tag _ _⟩ =>
    if s.mark.col == 0 && m.col == 0 && s.indent > -1 then fail m "invalid indentation for anchor"
  | _ => pure ()
  let m := s.mark
  skipNonBlank
  rollIndent m.col none .blockSequenceStart m
  let (tabs, _) ← skipWsToEol true
  let c ← ch
  let c1 ← charAt 1
  if tabs && c == '-' && isBlankZ c1 then
    fail (← here) "'-' must be followed by a valid YAML whitespace"
  let _ ← skipWsToEol false
  let c ← ch
  if isBreak c || isFlow c then rollOneColIndent
  removeSimpleKey
  allowSimpleKey
  push ⟨(← here), .blockEntry⟩

/-- Moves past spaces, line breaks and comments after an indicator, which must be followed by at
least one space or line break. -/
def skipYamlWhitespace : ScanM Unit := do
  if ← loop (← get).budget true then fail (← here) "expected whitespace"
where
  /-- Moves on, at most `fuel` times, telling whether a space or a line break is still needed. -/
  loop : Nat → Bool → ScanM Bool
    | 0, need => pure need
    | fuel + 1, need => do
      let c ← ch
      if c == ' ' then
        skipBlank
        loop fuel false
      else if isBreak c then
        skipLinebreak
        loop fuel false
      else if c == '#' then
        skipComment
        loop fuel need
      else pure need

/-- A `?` that starts a complex key: it must be followed by a space or a line break, and then by
no tab. -/
def fetchKey : ScanM Unit := do
  let s ← get
  let m := s.mark
  if s.flowLevel == 0 then
    if !s.simpleKeyAllowed then fail m "mapping keys are not allowed in this context"
    rollIndent m.col none .blockMappingStart m
  removeSimpleKey
  if (← get).flowLevel == 0 then allowSimpleKey else disallowSimpleKey
  skipNonBlank
  skipYamlWhitespace
  if (← ch) == '\t' then fail (← here) "tabs disallowed in this context"
  push ⟨m, .key⟩

/-- A `:` that starts a value: the simple key before it, if any, becomes a key. -/
def fetchValue : ScanM Unit := do
  let s ← get
  let sk := s.simpleKeys.headD {}
  let start := s.mark
  skipNonBlank
  if (← ch) == '\t' then
    let (_, spaces) ← skipWsToEol true
    let c ← ch
    if !spaces && (c == '-' || isAlpha c) then
      fail (← here) "':' must be followed by a valid YAML whitespace"
  if sk.possible then
    modify fun s =>
      let at_ := sk.tokenNumber - s.tokensParsed
      { s with tokens := s.tokens.take at_ ++ [⟨sk.mark, .key⟩] ++ s.tokens.drop at_ }
    rollIndent sk.mark.col (some sk.tokenNumber) .blockMappingStart start
    rollOneColIndent
    modify fun s => { s with simpleKeys := match s.simpleKeys with
      | k :: rest => { k with possible := false } :: rest
      | [] => [] }
    disallowSimpleKey
  else
    let s ← get
    if s.flowLevel == 0 then
      if !s.simpleKeyAllowed then fail start "mapping values are not allowed in this context"
      rollIndent start.col none .blockMappingStart start
    rollOneColIndent
    if (← get).flowLevel == 0 then allowSimpleKey else disallowSimpleKey
  push ⟨start, .value⟩

/-! ## Anchors and tags -/

def scanAnchor (isAlias : Bool) : ScanM Token := do
  let start ← here
  skipNonBlank
  let name ← loop (← get).budget ""
  if name.isEmpty then
    fail start
      "while scanning an anchor or alias, did not find expected alphabetic or numeric character"
  pure ⟨start, if isAlias then .alias name else .anchor name⟩
where
  /-- Reads the name's characters, at most `fuel` of them. -/
  loop : Nat → String → ScanM String
    | 0, acc => pure acc
    | fuel + 1, acc => do
      let c ← ch
      if isAnchorChar c then
        skipNonBlank
        loop fuel (acc.push c)
      else pure acc

/-- The characters of a verbatim tag, between its `!<` and `>`: any a URI may hold. -/
def scanVerbatim (m : Mark) : Nat → String → ScanM String
  | 0, acc => pure acc
  | fuel + 1, acc => do
    let c ← ch
    if isUriChar c then
      if c == '%' then
        let e ← scanUriEscapes m
        scanVerbatim m fuel (acc.push e)
      else
        skipNonBlank
        scanVerbatim m fuel (acc.push c)
    else pure acc

/-- A tag: `!<uri>`, `!!suffix`, `!handle!suffix`, `!suffix` or `!`. -/
def scanTag : ScanM Token := do
  let start ← here
  let (handle, suffix) ←
    if (← charAt 1) == '<' then do
      skipNonBlanks 2
      let suffix ← scanVerbatim start (← get).budget ""
      if (← ch) != '>' then
        fail start "while scanning a verbatim tag, did not find the expected '>'"
      skipNonBlank
      pure ("", suffix)
    else do
      let handle ← scanTagHandle false start
      if handle.length ≥ 2 && handle.startsWith "!" && handle.endsWith "!" then
        let suffix ← scanTagSuffix "" start
        pure (handle, suffix)
      else
        let suffix ← scanTagSuffix handle start
        if suffix.isEmpty then pure ("", "!") else pure ("!", suffix)
  let c ← ch
  if isBlankZ c || ((← get).flowLevel > 0 && isFlow c) then pure ⟨start, .tag handle suffix⟩
  else fail start "while scanning a tag, did not find expected whitespace or line break"

/-! ## Scalars -/

/-- The character an escape in a double-quoted scalar stands for; the backslash is at the
current place. -/
def escapeSequence (start : Mark) : ScanM Char := do
  let e ← charAt 1
  let simple : Option Char := match e with
    | '0' => some '\x00'
    | 'a' => some '\x07'
    | 'b' => some '\x08'
    | 't' | '\t' => some '\t'
    | 'n' => some '\n'
    | 'v' => some '\x0b'
    | 'f' => some '\x0c'
    | 'r' => some '\r'
    | 'e' => some '\x1b'
    | ' ' => some ' '
    | '"' => some '"'
    | '/' => some '/'
    | '\\' => some '\\'
    | 'N' => some '\u0085'
    | '_' => some ' '
    | 'L' => some ' '
    | 'P' => some ' '
    | _ => none
  let width : Nat := match e with
    | 'x' => 2
    | 'u' => 4
    | 'U' => 8
    | _ => 0
  if simple.isNone && width == 0 then
    fail start "while parsing a quoted scalar, found unknown escape character"
  skipNonBlanks 2
  match simple with
  | some c => pure c
  | none =>
    let code ← digits width 0 0
    if code < 0xD800 || (0xDFFF < code && code < 0x110000) then
      skipNonBlanks width
      pure (Char.ofNat code)
    else fail start "while parsing a quoted scalar, found invalid Unicode character escape code"
where
  /-- The value of `n` hex digits from `k` places ahead. -/
  digits : Nat → Nat → Nat → ScanM Nat
    | 0, _, v => pure v
    | n + 1, k, v => do
      let c ← charAt k
      if !isHex c then
        fail start "while parsing a quoted scalar, did not find expected hexadecimal number"
      digits n (k + 1) (v * 16 + hexValue c)

/-- Reads the characters of a quoted scalar up to a blank, a line break or the closing quote;
tells whether an escaped line break ended the run. -/
def flowChars (single : Bool) (start : Mark) : Nat → String → ScanM (String × Bool)
  | 0, acc => pure (acc, false)
  | fuel + 1, acc => do
    let c ← ch
    let c1 ← charAt 1
    if isBlankZ c then pure (acc, false)
    else if single && c == '\'' && c1 == '\'' then
      skipNonBlanks 2
      flowChars single start fuel (acc.push '\'')
    else if (single && c == '\'') || (!single && c == '"') then pure (acc, false)
    else if !single && c == '\\' && isBreak c1 then
      skipNonBlank
      skipLinebreak
      pure (acc, true)
    else if !single && c == '\\' then
      let e ← escapeSequence start
      flowChars single start fuel (acc.push e)
    else
      skipNonBlank
      flowChars single start fuel (acc.push c)

/-- Reads the blanks and line breaks inside a quoted scalar: the blanks before a first break,
the first break, and the later breaks. -/
def flowBlanks :
    Nat → String → String → String → Bool → ScanM (String × String × String × Bool)
  | 0, lb, tb, ws, lead => pure (lb, tb, ws, lead)
  | fuel + 1, lb, tb, ws, lead => do
    let c ← ch
    if isBlank c then
      if lead then
        let s ← get
        if c == '\t' && (s.mark.col : Int) < s.indent then
          fail s.mark "tab cannot be used as indentation"
        skipBlank
        flowBlanks fuel lb tb ws lead
      else
        skipBlank
        flowBlanks fuel lb tb (ws.push c) lead
    else if isBreak c then
      readBreak
      if lead then flowBlanks fuel lb (tb.push '\n') ws lead
      else flowBlanks fuel "\n" tb "" true
    else pure (lb, tb, ws, lead)

/-- The text of a quoted scalar after its opening quote, up to its closing quote: a line break
folds to a space, and an empty line to a line feed. -/
def flowBody (single : Bool) (start : Mark) :
    Nat → String → String → String → String → ScanM String
  | 0, acc, _, _, _ => pure acc
  | fuel + 1, acc, lb, tb, ws => do
    if ← atDocumentIndicator then
      fail start "while scanning a quoted scalar, found unexpected document indicator"
    if isZ (← ch) then fail start "while scanning a quoted scalar, found unexpected end of stream"
    let s ← get
    if (s.mark.col : Int) < s.indent then fail start "invalid indentation in quoted scalar"
    let (acc, lead) ← flowChars single start (← get).budget acc
    let c ← ch
    if (single && c == '\'') || (!single && c == '"') then pure acc
    else
      let (lb, tb, ws, lead) ← flowBlanks (← get).budget lb tb ws lead
      if lead then
        if lb.isEmpty then flowBody single start fuel (acc ++ tb) "" "" ws
        else if tb.isEmpty then flowBody single start fuel (acc.push ' ') "" "" ws
        else flowBody single start fuel (acc ++ tb) "" "" ws
      else flowBody single start fuel (acc ++ ws) lb tb ""

/-- A quoted scalar, in single or double quotes; only a blank, a comment, a line break, a flow
indicator in a flow collection or a `:` may follow it. -/
def scanFlowScalar (single : Bool) : ScanM Token := do
  let start ← here
  skipNonBlank
  let text ← flowBody single start (← get).budget "" "" "" ""
  skipNonBlank
  let _ ← skipWsToEol true
  let s ← get
  let c ← ch
  let fine := (s.flowLevel > 0 && (c == ',' || c == '\x7d' || c == ']')) || isBreakZ c ||
    (c == ':' && s.flowLevel == 0 && start.line == s.mark.line) || (c == ':' && s.flowLevel > 0)
  if !fine then fail s.mark "invalid trailing content after double-quoted scalar"
  pure ⟨start, .scalar (if single then .singleQuoted else .doubleQuoted) text⟩

/-- Whether the current character may go on a plain scalar. -/
def canBePlain : ScanM Bool := do
  let s ← get
  let c ← ch
  let c1 ← charAt 1
  if c == ':' && (isBlankZ c1 || (s.flowLevel > 0 && isFlow c1)) then pure false
  else pure !(s.flowLevel > 0 && isFlow c)

/-- Reads the characters of a plain scalar up to a blank or a character that ends it. -/
def plainChars : Nat → String → ScanM String
  | 0, acc => pure acc
  | fuel + 1, acc => do
    let c ← ch
    if isBlankZ c || !(← canBePlain) then pure acc
    else
      skipNonBlank
      plainChars fuel (acc.push c)

/-- Reads the blanks and line breaks inside a plain scalar: the blanks before a first break, the
first break, and the later breaks. A tab that would indent content is refused. -/
def plainBlanks (indent : Int) (start : Mark) :
    Nat → String → String → String → ScanM (String × String × String)
  | 0, lb, tb, ws => pure (lb, tb, ws)
  | fuel + 1, lb, tb, ws => do
    let c ← ch
    let s ← get
    if isBlank c then
      if !s.leadingWhitespace then
        skipBlank
        plainBlanks indent start fuel lb tb (ws.push c)
      else if (s.mark.col : Int) < indent && c == '\t' then
        let _ ← skipWsToEol true
        if !isBreakZ (← ch) then fail start "while scanning a plain scalar, found a tab"
        plainBlanks indent start fuel lb tb ws
      else
        skipBlank
        plainBlanks indent start fuel lb tb ws
    else if isBreak c then
      if s.leadingWhitespace then
        readBreak
        plainBlanks indent start fuel lb (tb.push '\n') ws
      else
        readBreak
        plainBlanks indent start fuel "\n" tb ""
    else pure (lb, tb, ws)

/-- The text of a plain scalar: runs of characters joined by their blanks, a line break folding
to a space and an empty line to a line feed, up to a comment, a document marker, an indicator
that ends it, or a line indented no deeper than its block. -/
def plainBody (indent : Int) (start : Mark) :
    Nat → String → String → String → String → ScanM String
  | 0, acc, _, _, _ => pure acc
  | fuel + 1, acc, lb, tb, ws => do
    if (← atDocumentIndicator) || (← ch) == '#' then return acc
    let s ← get
    let c ← ch
    if s.flowLevel > 0 && c == '-' && isFlow (← charAt 1) then
      fail s.mark "plain scalar cannot start with '-' followed by ,[]\x7b\x7d"
    let (acc, lb, tb, ws) ←
      if !isBlankZ c && (← canBePlain) then do
        let (acc, lb, tb, ws) :=
          if s.leadingWhitespace then
            if lb.isEmpty then (acc ++ tb, "", "", ws)
            else if tb.isEmpty then (acc.push ' ', "", "", ws)
            else (acc ++ tb, "", "", ws)
          else if !ws.isEmpty then (acc ++ ws, lb, tb, "")
          else (acc, lb, tb, ws)
        skipNonBlank
        let acc ← plainChars (← get).budget (acc.push c)
        pure (acc, lb, tb, ws)
      else pure (acc, lb, tb, ws)
    let c ← ch
    if !(isBlank c || isBreak c) then return acc
    let (lb, tb, ws) ← plainBlanks indent start (← get).budget lb tb ws
    let s ← get
    if s.flowLevel == 0 && (s.mark.col : Int) < indent then return acc
    plainBody indent start fuel acc lb tb ws

/-- A plain scalar; after it, a simple key may start when it ended at a line break. -/
def scanPlainScalar : ScanM Token := do
  unrollNonBlockIndents
  let s ← get
  let indent := s.indent + 1
  let start := s.mark
  if s.flowLevel > 0 && (start.col : Int) < indent then
    fail start "invalid indentation in flow construct"
  let text ← plainBody indent start s.budget "" "" "" ""
  if (← get).leadingWhitespace then allowSimpleKey
  pure ⟨start, .scalar .plain text⟩

/-- How a block scalar treats its final line breaks. -/
inductive Chomping where
  | strip
  | clip
  | keep
deriving DecidableEq, Repr, Inhabited

/-- Moves past the indentation of the lines of a block scalar at `indent`, reading its empty
lines as line feeds. -/
def blockIndent (indent : Nat) : Nat → String → ScanM String
  | 0, breaks => pure breaks
  | fuel + 1, breaks => do
    let _ ← spaces (← get).budget
    if isBreak (← ch) then
      readBreak
      blockIndent indent fuel (breaks.push '\n')
    else pure breaks
where
  /-- Moves past spaces up to the indentation. -/
  spaces : Nat → ScanM Unit
    | 0 => pure ()
    | fuel + 1 => do
      if (← get).mark.col < indent && (← ch) == ' ' then
        skipBlank
        spaces fuel

/-- Moves past the empty lines before the first line of a block scalar whose indentation is to
be found, reading them as line feeds; the indentation is the deepest of those lines, at least
one deeper than the block, and at least one inside a block. -/
def blockFirstIndent : Nat → Nat → String → ScanM (Nat × String)
  | 0, deepest, breaks => pure (deepest, breaks)
  | fuel + 1, deepest, breaks => do
    let _ ← spaces (← get).budget
    let s ← get
    let deepest := max deepest s.mark.col
    if isBreak (← ch) then
      readBreak
      blockFirstIndent fuel deepest (breaks.push '\n')
    else
      let indent := max deepest (s.indent + 1).toNat
      pure (if s.indent > 0 then max indent 1 else indent, breaks)
where
  /-- Moves past spaces. -/
  spaces : Nat → ScanM Unit
    | 0 => pure ()
    | fuel + 1 => do
      if (← ch) == ' ' then
        skipBlank
        spaces fuel

def blockLine : Nat → String → ScanM String
  | 0, acc => pure acc
  | fuel + 1, acc => do
    let c ← ch
    if isBreakZ c then pure acc
    else
      skipBlank
      blockLine fuel (acc.push c)

/-- The lines of a block scalar at `indent`: a literal one keeps its line breaks, a folded one
folds a break between two lines that do not start with a blank into a space. Gives the text,
the pending line break and the empty lines after the last line. -/
def blockBody (literal : Bool) (indent : Nat) :
    Nat → String → String → String → Bool → ScanM (String × String × String)
  | 0, acc, lb, tb, _ => pure (acc, lb, tb)
  | fuel + 1, acc, lb, tb, leadingBlank => do
    let s ← get
    if s.mark.col != indent || isZ (← ch) then return (acc, lb, tb)
    if indent == 0 && (← atDocumentIndicator) then return (acc, lb, tb)
    let c ← ch
    let trailingBlank := isBlank c
    let acc :=
      if !literal && !lb.isEmpty && !leadingBlank && !trailingBlank then
        if tb.isEmpty then (acc ++ tb).push ' ' else acc ++ tb
      else acc ++ lb ++ tb
    let leadingBlank := isBlank c
    let acc ← blockLine (← get).budget acc
    if isZ (← ch) then return (acc, "", "")
    readBreak
    let tb ← blockIndent indent (← get).budget ""
    blockBody literal indent fuel acc "\n" tb leadingBlank

/-- A block scalar after `|` (literal) or `>` (folded), with its chomping and indentation
indicators, a comment, and its lines. -/
def scanBlockScalar (literal : Bool) : ScanM Token := do
  let start ← here
  let style := if literal then ScalarStyle.literal else .folded
  skipNonBlank
  unrollNonBlockIndents
  let c ← ch
  let (chomping, increment) ←
    if c == '+' || c == '-' then do
      let chomping := if c == '+' then Chomping.keep else .strip
      skipNonBlank
      let d ← ch
      if d.isDigit then
        if d == '0' then
          fail start "while scanning a block scalar, found an indentation indicator equal to 0"
        skipNonBlank
        pure (chomping, d.toNat - '0'.toNat)
      else pure (chomping, 0)
    else if c.isDigit then do
      if c == '0' then
        fail start "while scanning a block scalar, found an indentation indicator equal to 0"
      skipNonBlank
      let d ← ch
      if d == '+' || d == '-' then
        skipNonBlank
        pure (if d == '+' then Chomping.keep else .strip, c.toNat - '0'.toNat)
      else pure (Chomping.clip, c.toNat - '0'.toNat)
    else pure (Chomping.clip, 0)
  let _ ← skipWsToEol true
  if !isBreakZ (← ch) then
    fail start "while scanning a block scalar, did not find expected comment or line break"
  let chompingBreak ←
    if isBreak (← ch) then do
      readBreak
      pure "\n"
    else pure ""
  if (← ch) == '\t' then fail start "a block scalar content cannot start with a tab"
  let s ← get
  let (indent, tb) ←
    if increment > 0 then do
      let indent := if s.indent ≥ 0 then (s.indent + increment).toNat else increment
      let tb ← blockIndent indent s.budget ""
      pure (indent, tb)
    else blockFirstIndent s.budget 0 ""
  if isZ (← ch) then
    let sameLine := (← get).mark.line == start.line
    let text :=
      match chomping with
      | .strip => ""
      | _ =>
        if sameLine then ""
        else match chomping with
          | .keep => if tb.isEmpty then chompingBreak else tb
          | _ => chompingBreak
    return ⟨start, .scalar style text⟩
  let s ← get
  if s.mark.col < indent && (s.mark.col : Int) > s.indent then
    fail s.mark "wrongly indented line in block scalar"
  let (acc, lb, tb) ← blockBody literal indent s.budget "" "" tb false
  let s ← get
  let acc :=
    if chomping != .strip then
      let acc := acc ++ lb
      if isZ (s.src.getD s.mark.index '\x00') && s.mark.col ≥ max indent 1 then acc.push '\n'
      else acc
    else acc
  let acc := if chomping == .keep then acc ++ tb else acc
  pure ⟨start, .scalar style acc⟩

/-- A quoted scalar; it may be a simple key, and in a flow collection a value may follow it
right after its `:`. -/
def fetchFlowScalar (single : Bool) : ScanM Unit := do
  saveSimpleKey
  disallowSimpleKey
  let t ← scanFlowScalar single
  skipToNextToken
  modify fun s => { s with adjacentValueAllowedAt := s.mark.index }
  push t

def fetchPlainScalar : ScanM Unit := do
  saveSimpleKey
  disallowSimpleKey
  push (← scanPlainScalar)

def fetchBlockScalar (literal : Bool) : ScanM Unit := do
  removeSimpleKey
  allowSimpleKey
  push (← scanBlockScalar literal)

def fetchAnchor (isAlias : Bool) : ScanM Unit := do
  saveSimpleKey
  disallowSimpleKey
  push (← scanAnchor isAlias)

def fetchTag : ScanM Unit := do
  saveSimpleKey
  disallowSimpleKey
  push (← scanTag)

/-- Reads the next tokens: what the next characters start, after the blocks that the
indentation ends. -/
def fetchNextToken : ScanM Unit := do
  if !(← get).streamStartProduced then
    fetchStreamStart
    return
  skipToNextToken
  staleSimpleKeys
  unrollIndent ((← here).col : Int)
  let c ← ch
  if isZ c then
    fetchStreamEnd
    return
  let s ← get
  let c1 ← charAt 1
  let c2 ← charAt 2
  let c3 ← charAt 3
  if s.mark.col == 0 && c == '%' then
    fetchDirective
    return
  if s.mark.col == 0 && c == '-' && c1 == '-' && c2 == '-' && isBlankZ c3 then
    fetchDocumentIndicator .documentStart
    return
  if s.mark.col == 0 && c == '.' && c1 == '.' && c2 == '.' && isBlankZ c3 then
    fetchDocumentIndicator .documentEnd
    let _ ← skipWsToEol true
    if !isBreakZ (← ch) then fail (← here) "invalid content after document end marker"
    return
  if (s.mark.col : Int) < s.indent then fail s.mark "invalid indentation"
  let block := s.flowLevel == 0
  if c == '[' then fetchFlowCollectionStart .flowSequenceStart
  else if c == '\x7b' then fetchFlowCollectionStart .flowMappingStart
  else if c == ']' then fetchFlowCollectionEnd .flowSequenceEnd
  else if c == '\x7d' then fetchFlowCollectionEnd .flowMappingEnd
  else if c == ',' then fetchFlowEntry
  else if c == '-' && isBlankZ c1 then fetchBlockEntry
  else if c == '?' && isBlankZ c1 then fetchKey
  else if c == ':' && (isBlankZ c1 ||
      (!block && (isFlow c1 || s.mark.index == s.adjacentValueAllowedAt))) then fetchValue
  else if c == '*' then fetchAnchor true
  else if c == '&' then fetchAnchor false
  else if c == '!' then fetchTag
  else if c == '|' && block then fetchBlockScalar true
  else if c == '>' && block then fetchBlockScalar false
  else if c == '\'' then fetchFlowScalar true
  else if c == '"' then fetchFlowScalar false
  else if c == '-' then fetchPlainScalar
  else if (c == ':' || c == '?') && block then fetchPlainScalar
  else if c == '%' || c == '@' || c == '`' then
    fail s.mark ("unexpected character: `" ++ c.toString ++ "'")
  else fetchPlainScalar

/-- Reads tokens until the next one to hand out is settled: none of the simple keys that could
still become keys starts at it. -/
def fetchMoreTokens : Nat → ScanM Unit
  | 0 => pure ()
  | fuel + 1 => do
    let needMore ←
      if (← get).tokens.isEmpty then pure true
      else do
        staleSimpleKeys
        let s ← get
        pure (s.simpleKeys.any fun sk => sk.possible && sk.tokenNumber == s.tokensParsed)
    if needMore then
      fetchNextToken
      fetchMoreTokens fuel

/-- Hands out the next token; none after the end of the text. -/
def nextToken : ScanM (Option Token) := do
  if (← get).streamEndProduced then return none
  fetchMoreTokens ((← get).budget + 2)
  let s ← get
  match s.tokens with
  | [] => fail s.mark "did not find expected next token"
  | t :: rest =>
    set { s with tokens := rest, tokensParsed := s.tokensParsed + 1,
                 streamEndProduced := t.kind == TokenKind.streamEnd }
    pure (some t)

end Scanner

/-- The tokens of a text, in the order they are handed out, and the refusal that stopped the
scanner after them, if one did. -/
def tokensOf (text : String) : List Token × Option ScanError :=
  let src := text.toList.toArray
  loop (5 * src.size + 16) { src } []
where
  /-- Hands out tokens, at most `fuel` of them. -/
  loop : Nat → Scanner → List Token → List Token × Option ScanError
    | 0, _, acc => (acc.reverse, none)
    | fuel + 1, s, acc =>
      match Scanner.nextToken.run s with
      | .error e => (acc.reverse, some e)
      | .ok (none, _) => (acc.reverse, none)
      | .ok (some t, s') =>
        if t.kind == TokenKind.streamEnd then ((t :: acc).reverse, none)
        else loop fuel s' (t :: acc)

end Rebill.Yaml
