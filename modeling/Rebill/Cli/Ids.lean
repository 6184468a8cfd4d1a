import Rebill.Text.Blank

/-!
# Attempt ids on the command line

The command line may narrow a run to some attempts: one argument, a comma-separated list of
UUIDs, each trimmed, with empty entries skipped. A UUID is 32 hex digits, or the hyphenated form
`8-4-4-4-12`, optionally in braces or after `urn:uuid:` in any case.

A text that is not a UUID is refused for the first character that is neither a hex digit nor a
hyphen (with its byte index), else for its length when it has no hyphens, else for the number of
its groups, else for the length of the first group that is off; `uuidFault` says which part of
the text is judged and where indices count from.
-/

namespace Rebill.Cli

/-- Why a text is not a UUID. -/
inductive UuidError where
  | char (c : Char) (index : Nat)
  | length (len : Nat)
  | groupCount (count : Nat)
  | groupLength (group len : Nat)
deriving DecidableEq, Repr, Inhabited

/-- The lengths of the five groups of the hyphenated form. -/
def groupLengths : List Nat := [8, 4, 4, 4, 12]

def UuidError.text : UuidError → String
  | .char c i => "invalid character: found `" ++ c.toString ++ "` at " ++ toString i
  | .length n => "invalid length: found " ++ toString n
  | .groupCount n => "invalid group count: expected 5, found " ++ toString n
  | .groupLength g n =>
    "invalid group length in group " ++ toString g ++ ": expected " ++
      toString (groupLengths.getD g 0) ++ ", found " ++ toString n

def isHex (c : Char) : Bool :=
  c.isDigit || ('a' ≤ c && c ≤ 'f') || ('A' ≤ c && c ≤ 'F')

/-- Whether characters are the hyphenated form of a UUID. -/
def hyphenated (cs : List Char) : Bool :=
  cs.length = 36 && (cs.zipIdx.all fun (c, i) =>
    if i = 8 ∨ i = 13 ∨ i = 18 ∨ i = 23 then c = '-' else isHex c)

/-- The characters with the byte index at which each starts. -/
def byteIndexed (cs : List Char) : List (Char × Nat) :=
  (cs.foldl (fun (acc : List (Char × Nat) × Nat) c => (acc.1 ++ [(c, acc.2)], acc.2 + c.utf8Size))
    ([], 0)).1

/-- Why a body that is not a UUID is refused: its first character that is neither a hex digit
nor a hyphen (at its byte index plus `offset`); else its length, when it has no hyphen and is
meant to be the simple form; else the number of its groups; else the first group of a wrong
length, the last one measured in `total` bytes. -/
def bodyFault (body : List Char) (offset : Nat) (simple : Bool) (total : Nat) : UuidError :=
  let indexed := byteIndexed body
  match indexed.find? fun (c, _) => c ≠ '-' ∧ !isHex c with
  | some (c, i) => .char c (i + offset)
  | none =>
    let hyphens := (indexed.filter fun (c, _) => c = '-').map (·.2)
    if hyphens.isEmpty ∧ simple then .length total
    else if hyphens.length ≠ 4 then .groupCount (hyphens.length + 1)
    else
      let starts := [0, 9, 14, 19, 24]
      let bad := (List.range 4).find? fun g => hyphens[g]? ≠ some (starts.getD (g + 1) 0 - 1)
      match bad with
      | some g => .groupLength g ((hyphens.getD g 0) - starts.getD g 0)
      | none => .groupLength 4 (total - 24)

/-- Whether characters begin with `urn:uuid:` in any case. -/
def hasUrnPrefix (cs : List Char) : Bool :=
  (cs.take 9).map Char.toLower == "urn:uuid:".toList

/-- Why a text that is not a UUID is refused. A text of a hyphenated UUID's shape (36 bytes, 38
in braces, or 45 after `urn:uuid:` in any case) is judged on its UUID part alone, with indices
from there; a longer text is refused for its length; any other, the 32 bytes of the simple form
among them, is judged without its braces or its `urn:uuid:` prefix in any case, with indices into
the whole text. -/
def uuidFault (s : String) : UuidError :=
  let all := s.toList
  let size := s.utf8ByteSize
  let braced := all.head? = some '\x7b' ∧ all.getLast? = some '\x7d' ∧ all.length ≥ 2
  let urn := hasUrnPrefix all
  if size = 36 then bodyFault all 0 false size
  else if size = 38 ∧ braced then bodyFault (all.drop 1).dropLast 0 false 36
  else if size = 45 ∧ urn then bodyFault (all.drop 9) 0 false 36
  else if size > 45 then .length size
  else if braced then bodyFault (all.drop 1).dropLast 1 false size
  else if hasUrnPrefix all then bodyFault (all.drop 9) 9 false size
  else bodyFault all 0 true size

def readUuid (s : String) : Except UuidError Unit :=
  let cs := s.toList
  let ok : Bool := (cs.length == 32 && cs.all isHex) || hyphenated cs ||
    (hasUrnPrefix cs && hyphenated (cs.drop 9)) ||
    (match cs with
     | '\x7b' :: r => r.getLast? == some '\x7d' && hyphenated r.dropLast
     | _ => false)
  if ok then .ok () else .error (uuidFault s)

/-- The attempts a command-line argument narrows a run to: none without an argument. -/
def attemptIds (arg : Option String) : Except String (Option (List String)) :=
  match arg with
  | none => .ok none
  | some a =>
    let ids := ((a.splitOn ",").map Rebill.Text.trimBlanks).filter (· ≠ "")
    match ids.find? fun id => (readUuid id).toBool == false with
    | some bad =>
      match readUuid bad with
      | .error e => .error ("Invalid attempt id '" ++ bad ++ "': " ++ e.text)
      | .ok () => .ok (some ids)
    | none => .ok (some ids)

end Rebill.Cli
