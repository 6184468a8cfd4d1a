/-!
# Percent escapes and UTF-8

Connection strings carry text in percent escapes: `%XX` stands for the byte `XX`, and the bytes
are read as UTF-8. `percentDecode` gives the bytes of a text, `utf8Fault` finds where bytes stop
being UTF-8 (the fault is reported as the index the valid part ends at and the length of the bad
sequence), and `lossyText` reads bytes with each bad sequence replaced by U+FFFD.
-/

namespace Rebill.Connection

/-- The bytes of a text with `%XX` escapes decoded; a `%` without two hex digits stays. -/
def percentDecode (s : String) : List Nat :=
  go s.toList
where
  /-- Decodes the characters. -/
  go : List Char → List Nat
    | '%' :: a :: b :: r =>
      match hexDigit a, hexDigit b with
      | some x, some y => (x * 16 + y) :: go r
      | _, _ => '%'.toNat :: go (a :: b :: r)
    | c :: r => (String.singleton c).toUTF8.toList.map (·.toNat) ++ go r
    | [] => []
  /-- The value of a hex digit. -/
  hexDigit (c : Char) : Option Nat :=
    if '0' ≤ c ∧ c ≤ '9' then some (c.toNat - '0'.toNat)
    else if 'a' ≤ c ∧ c ≤ 'f' then some (c.toNat - 'a'.toNat + 10)
    else if 'A' ≤ c ∧ c ≤ 'F' then some (c.toNat - 'A'.toNat + 10) else none

/-- Whether a byte continues a UTF-8 sequence within `[lo, hi]`. -/
def within (lo hi : Nat) (b : Option Nat) : Option Bool :=
  b.map fun x => lo ≤ x ∧ x ≤ hi

/-- The first fault of a byte sequence as UTF-8: where the valid prefix ends, and how many bytes
the bad sequence has (none when the input ends inside a sequence). -/
def utf8Fault : Nat → List Nat → Nat → Option (Nat × Option Nat)
  | 0, _, _ => none
  | _ + 1, [], _ => none
  | fuel + 1, b :: rest, at_ =>
    if b < 0x80 then utf8Fault fuel rest (at_ + 1)
    else
      let width := if 0xC2 ≤ b ∧ b ≤ 0xDF then 2 else if 0xE0 ≤ b ∧ b ≤ 0xEF then 3
                   else if 0xF0 ≤ b ∧ b ≤ 0xF4 then 4 else 0
      if width = 0 then some (at_, some 1)
      else
        let (lo, hi) := if b = 0xE0 then (0xA0, 0xBF) else if b = 0xED then (0x80, 0x9F)
                        else if b = 0xF0 then (0x90, 0xBF) else if b = 0xF4 then (0x80, 0x8F)
                        else (0x80, 0xBF)
        let checks := (List.range (width - 1)).map fun i =>
          within (if i = 0 then lo else 0x80) (if i = 0 then hi else 0xBF) (rest[i]?)
        match checks.findIdx? (· ≠ some true) with
        | none => utf8Fault fuel (rest.drop (width - 1)) (at_ + width)
        | some i =>
          match checks[i]? with
          | some none => some (at_, none)
          | _ => some (at_, some (i + 1))

def utf8FaultText : Nat × Option Nat → String
  | (at_, some n) => "invalid utf-8 sequence of " ++ toString n ++ " bytes from index " ++ toString at_
  | (at_, none) => "incomplete utf-8 byte sequence from index " ++ toString at_

def decodedUtf8 (s : String) : Except String Unit :=
  let bytes := percentDecode s
  match utf8Fault (bytes.length + 1) bytes 0 with
  | some f => .error (utf8FaultText f)
  | none => .ok ()

/-- The text of bytes read as UTF-8, each bad sequence replaced by U+FFFD, and an unfinished
one at the end too. -/
def lossyText (bytes : List Nat) : String :=
  go bytes (bytes.length + 1) ""
where
  /-- Decodes the bytes after the text so far. -/
  go (bytes : List Nat) : Nat → String → String
    | 0, acc => acc
    | fuel + 1, acc =>
      let valid := fun (bs : List Nat) =>
        (String.fromUTF8? (ByteArray.mk (bs.map UInt8.ofNat).toArray)).getD ""
      match utf8Fault (bytes.length + 1) bytes 0 with
      | none => acc ++ valid bytes
      | some (at_, none) => acc ++ valid (bytes.take at_) ++ "�"
      | some (at_, some n) =>
        go (bytes.drop (at_ + n)) fuel (acc ++ valid (bytes.take at_) ++ "�")

end Rebill.Connection
