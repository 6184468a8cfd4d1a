/-!
# Identifiers

Payments, stored methods, attempts, users and the other things the billing core refers to are
named by 128-bit identifiers, written as UUIDs: 32 lowercase hexadecimal digits in groups of 8, 4,
4, 4 and 12. New identifiers are random-looking UUIDs of version 4, made from a serial number:
the 122 free bits are the serial times an odd constant modulo 2^122, so that different serials
give different identifiers.

`Ident.read?` reads the hyphenated form back; `Ident.text` and `Ident.read?` are inverse on it.
-/

namespace Rebill

/-- A 128-bit identifier. -/
structure Ident where
  bits : Nat
deriving DecidableEq, Repr, Inhabited, Hashable

namespace Ident

/-- The odd constant that spreads serial numbers over the free bits. -/
def spread : Nat := 0x9E3779B97F4A7C15F39CC0605CEDC835

/-- The identifier of version 4 made from a serial number. Past `2 ^ 122` serials the free bits
repeat, and the serial's count of such rounds is kept above the 128 bits, so that no two serials
ever share an identifier. -/
def ofSerial (n : Nat) : Ident :=
  let free := (n * spread + 0x5DEECE66D) % Nat.pow 2 122
  let top := free / Nat.pow 2 74
  let mid := free / Nat.pow 2 62 % Nat.pow 2 12
  let low := free / Nat.pow 2 48 % Nat.pow 2 14
  let node := free % Nat.pow 2 48
  ⟨top * Nat.pow 2 80 + (0x4000 + mid) * Nat.pow 2 64 + (0x8000 + low) * Nat.pow 2 48 + node +
    Nat.pow 2 128 * (n / Nat.pow 2 122)⟩

def hexDigit (n : Nat) : Char :=
  if n < 10 then Char.ofNat ('0'.toNat + n) else Char.ofNat ('a'.toNat + n - 10)

/-- `width` hexadecimal digits of `n`, most significant first. -/
def hexDigits : Nat → Nat → List Char
  | 0, _ => []
  | w + 1, n => hexDigits w (n / 16) ++ [hexDigit (n % 16)]

def text (i : Ident) : String :=
  let ds := hexDigits 32 i.bits
  String.ofList (ds.take 8 ++ '-' :: (ds.drop 8).take 4 ++ '-' :: (ds.drop 12).take 4 ++
    '-' :: (ds.drop 16).take 4 ++ '-' :: ds.drop 20)

def hexValue? (c : Char) : Option Nat :=
  if c.isDigit then some (c.toNat - '0'.toNat)
  else if 'a' ≤ c ∧ c ≤ 'f' then some (c.toNat - 'a'.toNat + 10)
  else none

/-- The places of the hyphens in the 36 characters of a UUID. -/
def hyphenAt (i : Nat) : Bool := i == 8 || i == 13 || i == 18 || i == 23

def read? (cs : List Char) : Option Ident :=
  if cs.length != 36 then none else go cs 0 0
where
  go : List Char → Nat → Nat → Option Ident
    | [], _, acc => some ⟨acc⟩
    | c :: rest, i, acc =>
      if hyphenAt i then (if c = '-' then go rest (i + 1) acc else none)
      else match hexValue? c with
        | some v => go rest (i + 1) (acc * 16 + v)
        | none => none

end Ident

end Rebill
