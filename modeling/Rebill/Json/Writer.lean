import Rebill.Json.Value
import Rebill.Ident

/-!
# Writing JSON text

`Json.compact` writes a value without blanks. Strings escape the quote, the backslash and the
control characters below U+0020 (as `\n`, `\t` and the like, or `\u00XX`); everything else is
written as it is. A whole number is written in full, and a binary64 number by `realText`.
-/

namespace Rebill

namespace Json

def escapeChar (c : Char) : String :=
  if c = '"' then "\\\""
  else if c = '\\' then "\\\\"
  else if c = '\n' then "\\n"
  else if c = '\r' then "\\r"
  else if c = '\t' then "\\t"
  else if c.toNat = 8 then "\\b"
  else if c.toNat = 12 then "\\f"
  else if c.toNat < 32 then
    "\\u00" ++ String.ofList [Ident.hexDigit (c.toNat / 16), Ident.hexDigit (c.toNat % 16)]
  else String.singleton c

def quote (s : String) : String :=
  "\"" ++ String.join (s.toList.map escapeChar) ++ "\""

/-- The text of a binary64 number: its shortest digits, written positionally when the point
falls within the first sixteen places, with `.0` after a whole number, and down to four zeros
after the point; otherwise one digit, the point and the others when there are any, `e` and the
exponent. -/
def realText (x : Binary64) : String :=
  let sign := if x.negative then "-" else ""
  if x.isZero then sign ++ "0.0"
  else
    let (digits, k) := x.shortest
    let ds := (toString digits).toList
    let point : Int := ds.length + k
    let zeros (n : Nat) := String.ofList (List.replicate n '0')
    if 0 ≤ k ∧ point ≤ 16 then sign ++ String.ofList ds ++ zeros k.toNat ++ ".0"
    else if 0 < point ∧ point ≤ 16 then
      sign ++ String.ofList (ds.take point.toNat) ++ "." ++ String.ofList (ds.drop point.toNat)
    else if -5 < point ∧ point ≤ 0 then sign ++ "0." ++ zeros (-point).toNat ++ String.ofList ds
    else
      let rest := if ds.length = 1 then "" else "." ++ String.ofList (ds.drop 1)
      sign ++ String.ofList (ds.take 1) ++ rest ++ "e" ++ toString (point - 1)

def numberText : JsonNumber → String
  | .whole n => toString n
  | .real x => realText x

mutual

def compact : Json → String
  | .null => "null"
  | .bool true => "true"
  | .bool false => "false"
  | .number n => numberText n
  | .string s => quote s
  | .array items => "[" ++ compactItems items ++ "]"
  | .object fields => "\x7b" ++ compactFields fields ++ "\x7d"

def compactItems : List Json → String
  | [] => ""
  | [v] => compact v
  | v :: rest => compact v ++ "," ++ compactItems rest

def compactFields : List (String × Json) → String
  | [] => ""
  | [(k, v)] => quote k ++ ":" ++ compact v
  | (k, v) :: rest => quote k ++ ":" ++ compact v ++ "," ++ compactFields rest

end

end Json

end Rebill
