import Rebill.Connection.Encoding
import Rebill.Connection.Punycode
import Rebill.Text.Bidi
import Rebill.Text.Printable

/-!
# Domain names

The host of a web URL is a domain name, read the way browsers read international names:

1. percent escapes are decoded and the bytes read as UTF-8, a bad sequence becoming U+FFFD;
2. each character is mapped: ASCII and fullwidth letters to lower-case ASCII, fullwidth ASCII to
   ASCII, the ideographic and fullwidth full stops to `.`; soft hyphens, zero width spaces, word
   joiners, variation selectors and byte order marks are dropped; a character that is not
   printable (controls, format characters, private use, unassigned, separators), U+FFFC and
   U+FFFD are refused;
3. the name is split into labels at `.`; a label that starts with `xn--` is decoded from
   Punycode, and must decode to characters that are not all ASCII and that map to themselves;
4. no label may begin with a mark, and a zero width joiner or non-joiner must follow a virama;
5. when some label holds a right-to-left letter or an Arabic number, every label must keep the
   rule for bidirectional names: a left-to-right label starts with a left-to-right letter, holds
   no right-to-left character and ends, marks aside, in a left-to-right letter or a European
   number; a right-to-left label starts with a right-to-left or Arabic letter, holds no
   left-to-right letter, ends, marks aside, in a right-to-left letter, an Arabic letter or a
   number, and does not mix European and Arabic numbers;
6. the result may not hold a character no domain may hold.

A refusal at any step is `badDomain`. `Domain.read` gives the name in its mapped Unicode form.
-/

namespace Rebill.Connection

open Rebill.Text

/-- What a character of a domain name becomes. -/
inductive Mapped where
  | keep
  | to (c : Char)
  | drop
  | refuse
deriving DecidableEq, Repr, Inhabited

/-- The characters that are dropped from a domain name. -/
def droppedRanges : List (Nat × Nat) :=
  [(0xAD, 0xAD), (0x34F, 0x34F), (0x180B, 0x180D), (0x180F, 0x180F), (0x200B, 0x200B),
   (0x2060, 0x2060), (0x2064, 0x2064), (0xFE00, 0xFE0F), (0xFEFF, 0xFEFF), (0x1BCA0, 0x1BCA3),
   (0xE0100, 0xE01EF)]

def Mapped.ofChar (c : Char) : Mapped :=
  let n := c.toNat
  if 'A' ≤ c ∧ c ≤ 'Z' then .to (Char.ofNat (n + 32))
  else if n < 0x80 then .keep
  else if n = 0x3002 ∨ n = 0xFF61 then .to '.'
  else if 0xFF01 ≤ n ∧ n ≤ 0xFF5E then
    let a := n - 0xFEE0
    .to (Char.ofNat (if 0x41 ≤ a ∧ a ≤ 0x5A then a + 32 else a))
  else if Unicode.inRanges droppedRanges n then .drop
  else if n = 0x200C ∨ n = 0x200D then .keep
  else if n = 0xFFFC ∨ n = 0xFFFD then .refuse
  else if Unicode.isPrintable c then .keep
  else .refuse

/-- Maps the characters of a domain name; `none` when one is refused. -/
def mapDomain : List Char → Option (List Char)
  | [] => some []
  | c :: rest =>
    match Mapped.ofChar c, mapDomain rest with
    | .keep, some r => some (c :: r)
    | .to d, some r => some (d :: r)
    | .drop, some r => some r
    | _, _ => none

/-- A label after its Punycode form, if it has one, is decoded. -/
def decodeLabel (label : List Char) : Option (List Char) :=
  match label with
  | 'x' :: 'n' :: '-' :: '-' :: rest =>
    match Punycode.decode rest with
    | some ds =>
      if ds.isEmpty || ds.all (·.toNat < 0x80) then none
      else if ds.all (Mapped.ofChar · == .keep) then some ds else none
    | none => none
  | _ => some label

def joinersFollowViramas : List Char → Bool
  | a :: b :: rest =>
    (b.toNat ≠ 0x200C ∧ b.toNat ≠ 0x200D || Unicode.isVirama a) && joinersFollowViramas (b :: rest)
  | _ => true

def startsWithJoiner (label : List Char) : Bool :=
  match label with
  | c :: _ => c.toNat = 0x200C ∨ c.toNat = 0x200D
  | [] => false

/-- Whether a character is right-to-left for the rule: a right-to-left letter, an Arabic letter
or an Arabic number. -/
def isRightToLeft (c : Char) : Bool :=
  match BidiClass.ofChar c with
  | .rightToLeft | .arabicLetter | .arabicNumber => true
  | _ => false

/-- The last character of a label that is not a nonspacing mark. -/
def lastNonMark (label : List Char) : Option Char :=
  (label.reverse.dropWhile fun c => BidiClass.ofChar c == .nonspacingMark).head?

/-- Whether a label keeps the rule for bidirectional names. -/
def keepsBidiRule (label : List Char) : Bool :=
  match label with
  | [] => true
  | c :: rest =>
    match BidiClass.ofChar c with
    | .leftToRight =>
      (rest.all fun d => match BidiClass.ofChar d with
        | .leftToRight | .europeanNumber | .europeanSeparator | .commonSeparator
        | .europeanTerminator | .otherNeutral | .boundaryNeutral | .nonspacingMark => true
        | _ => false) &&
      (match (lastNonMark label).map BidiClass.ofChar with
        | some .leftToRight | some .europeanNumber | none => true
        | _ => false)
    | .rightToLeft | .arabicLetter =>
      (rest.all fun d => match BidiClass.ofChar d with
        | .rightToLeft | .arabicLetter | .arabicNumber | .europeanNumber | .europeanSeparator
        | .commonSeparator | .europeanTerminator | .otherNeutral | .boundaryNeutral
        | .nonspacingMark => true
        | _ => false) &&
      (match (lastNonMark label).map BidiClass.ofChar with
        | some .rightToLeft | some .arabicLetter | some .europeanNumber
        | some .arabicNumber => true
        | _ => false) &&
      !(rest.any (BidiClass.ofChar · == .europeanNumber) &&
        rest.any (BidiClass.ofChar · == .arabicNumber))
    | _ => false

/-- Whether a label keeps the rules every label keeps: it does not begin with a mark, and its
joiners follow viramas. -/
def labelValid (label : List Char) : Bool :=
  !((label.head?.map Unicode.isMark).getD false) && !startsWithJoiner label &&
    joinersFollowViramas label

def forbiddenInDomain (c : Char) : Bool :=
  c.toNat < 0x21 || c = '#' || c = '%' || c = '/' || c = ':' || c = '<' || c = '>' ||
    c = '?' || c = '@' || c = '[' || c = '\\' || c = ']' || c = '^' || c = '|' ||
    c = '\x7f'

/-- Reads a domain name from the text of a host; `none` when it is refused. -/
def Domain.read? (host : List Char) : Option String := do
  let text := (lossyText (percentDecode (String.ofList host))).toList
  let mapped ← mapDomain text
  let labels ← (mapped.splitOn '.').mapM decodeLabel
  if !labels.all labelValid then none
  if labels.any (·.any isRightToLeft) && !labels.all keepsBidiRule then none
  let name := String.intercalate "." (labels.map String.ofList)
  if name.toList.any forbiddenInDomain then none
  pure name

end Rebill.Connection
