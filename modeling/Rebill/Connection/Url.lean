import Rebill.Connection.Domain
import Rebill.Settings.Number

/-!
# Connection URLs

A reader of URLs as web browsers read them, far enough to tell whether a connection string is a
URL and to take it apart:

* blanks and control characters at the ends are dropped, and tabs and line breaks anywhere;
* the scheme is an ASCII letter followed by letters, digits, `+`, `-` or `.`, then `:`; without
  one the text is a relative URL, which needs a base it does not have;
* after `//` comes the authority: user information up to the last `@`, then the host, then an
  optional port of at most 65535;
* the host of `http`, `https`, `ws`, `wss`, `ftp` and `file` URLs is a domain name, read as
  `Domain.read?` says, or an IPv4 address when it ends in a number; the host of any other
  scheme is kept as written, refused only when it holds a character a host may not; a host in
  brackets is an IPv6 address;
* a path that starts with a slash has its `.` and `..` segments resolved, `%2e` counting as a
  dot; the query after `?` and the fragment after `#` are taken as they are.

Each refusal has one text, given by `UrlError.text`.
-/

namespace Rebill.Connection

/-- Why a text is not a URL. -/
inductive UrlError where
  | emptyHost
  | badDomain
  | invalidPort
  | invalidIpv4
  | invalidIpv6
  | invalidDomainCharacter
  | relativeWithoutBase
deriving DecidableEq, Repr, Inhabited

/-- The text of a refusal. -/
def UrlError.text : UrlError → String
  | .emptyHost => "empty host"
  | .badDomain => "invalid international domain name"
  | .invalidPort => "invalid port number"
  | .invalidIpv4 => "invalid IPv4 address"
  | .invalidIpv6 => "invalid IPv6 address"
  | .invalidDomainCharacter => "invalid domain character"
  | .relativeWithoutBase => "relative URL without a base"

/-- A URL taken apart. `host` is `none` when there is no host, or an empty one. -/
structure Url where
  scheme : String
  username : String := ""
  password : Option String := none
  host : Option String := none
  port : Option Nat := none
  path : String := ""
  query : Option String := none
deriving Repr, Inhabited

/-- The schemes with a domain host and their default ports. -/
def specialSchemes : List (String × Option Nat) :=
  [("http", some 80), ("https", some 443), ("ws", some 80), ("wss", some 443), ("ftp", some 21),
   ("file", none)]

def forbiddenInHost (c : Char) : Bool :=
  c = '\x00' || c = '\t' || c = '\n' || c = '\r' || c = ' ' || c = '#' || c = '/' || c = ':' ||
    c = '<' || c = '>' || c = '?' || c = '@' || c = '[' || c = '\\' || c = ']' || c = '^' ||
    c = '|'

/-- The value of a part of an IPv4 address: `0x` hexadecimal, a leading `0` octal, else
decimal; `none` when it is not a number, `some none` when it is past 32 bits. -/
def ipv4Number (part : List Char) : Option (Option Nat) :=
  if part.isEmpty then none
  else
    let (radix, ds) := match part with
      | '0' :: 'x' :: r | '0' :: 'X' :: r => (16, r)
      | '0' :: r@(_ :: _) => (8, r)
      | _ => (10, part)
    if ds.isEmpty then some (some 0)
    else
      let digit := fun (c : Char) =>
        if '0' ≤ c ∧ c ≤ '9' then some (c.toNat - '0'.toNat)
        else if 'a' ≤ c ∧ c ≤ 'f' then some (c.toNat - 'a'.toNat + 10)
        else if 'A' ≤ c ∧ c ≤ 'F' then some (c.toNat - 'A'.toNat + 10) else none
      let vals := ds.map digit
      if vals.all (fun v => match v with | some d => d < radix | none => false) then
        let n := vals.foldl (fun acc v => acc * radix + v.getD 0) 0
        some (if n < Nat.pow 2 32 then some n else none)
      else none

/-- Whether a domain ends in a number, so that it must be an IPv4 address. -/
def endsInNumber (domain : List Char) : Bool :=
  let parts := (domain.splitOn '.').reverse
  let last := match parts with
    | [] :: next :: _ => some next
    | [] :: [] => none
    | l :: _ => some l
    | [] => none
  match last with
  | none => false
  | some l => (!l.isEmpty && l.all Char.isDigit) || (ipv4Number l).isSome

def ipv4Valid (domain : List Char) : Bool :=
  let parts := domain.splitOn '.'
  let parts := if parts.getLast? = some [] then parts.dropLast else parts
  if parts.length > 4 || parts.isEmpty then false
  else
    let nums := parts.map ipv4Number
    if nums.all (fun n => match n with | some (some _) => true | _ => false) then
      let vals := nums.map fun n => (n.getD none).getD 0
      let last := vals.getLastD 0
      last < Nat.pow 256 (5 - vals.length) && (vals.dropLast.all (· < 256))
    else false

/-- Whether a text is an IPv6 address: at most eight groups of one to four hex digits, one `::`
for a run of zero groups, and maybe an IPv4 address for the last two. -/
def ipv6Valid (cs : List Char) : Bool :=
  let groups := cs.splitOn ':'
  let isHex := fun (g : List Char) =>
    1 ≤ g.length && g.length ≤ 4 && g.all fun c =>
      c.isDigit || ('a' ≤ c && c ≤ 'f') || ('A' ≤ c && c ≤ 'F')
  let lastIsV4 : Bool := match groups.getLast? with
    | some g => g.contains '.' && (g.splitOn '.').length == 4 &&
        (g.splitOn '.').all fun p => !p.isEmpty && p.length ≤ 3 && p.all Char.isDigit &&
          (p.foldl (fun acc c => acc * 10 + (c.toNat - '0'.toNat)) 0) < 256 &&
          !(p.length > 1 && p.head? = some '0')
    | none => false
  let body := if lastIsV4 then groups.dropLast else groups
  let width := body.length + (if lastIsV4 then 1 else 0)
  let compressed := (cs.splitOn ':').length ≥ 3 &&
    ((List.range (cs.length - 1)).any fun i => cs[i]? = some ':' && cs[i+1]? = some ':')
  if compressed then
    let (front, back) := (body.takeWhile (!·.isEmpty), (body.reverse.takeWhile (!·.isEmpty)).reverse)
    let empties := body.filter List.isEmpty
    let pieces := front.length + back.length + (if lastIsV4 then 2 else 0)
    front.all isHex && back.all isHex && empties.length ≤ 3 && pieces ≤ 7 &&
      (body.length = front.length + back.length + empties.length)
  else width = (if lastIsV4 then 7 else 8) && body.all isHex

/-- Reads the host of a URL of a special scheme: a bracketed IPv6 address, an IPv4 address, or
a domain name. -/
def specialHost (host : List Char) : Except UrlError String :=
  match host with
  | '[' :: r =>
    if r.getLast? = some ']' then
      if ipv6Valid r.dropLast then .ok (String.ofList host) else .error .invalidIpv6
    else .error .invalidIpv6
  | _ =>
    match Domain.read? host with
    | none => .error .badDomain
    | some name =>
      let cs := name.toList
      if cs.isEmpty then .error .emptyHost
      else if endsInNumber cs then
        if ipv4Valid cs then .ok name else .error .invalidIpv4
      else .ok name

/-- Reads the host of a URL of another scheme: a bracketed IPv6 address, or any text without a
character a host may not hold. -/
def opaqueHost (host : List Char) : Except UrlError String :=
  match host with
  | '[' :: r =>
    if r.getLast? = some ']' then
      if ipv6Valid r.dropLast then .ok (String.ofList host) else .error .invalidIpv6
    else .error .invalidIpv6
  | _ => if host.any forbiddenInHost then .error .invalidDomainCharacter else .ok (String.ofList host)

/-- The port after a host's colon: digits up to the end of the authority. -/
def readPort (cs : List Char) : Except UrlError (Option Nat) :=
  if cs.isEmpty then .ok none
  else if cs.all Char.isDigit then
    let n := cs.foldl (fun acc c => acc * 10 + (c.toNat - '0'.toNat)) 0
    if n ≤ 65535 then .ok (some n) else .error .invalidPort
  else .error .invalidPort

/-- Splits a host from its port at the first colon outside brackets. -/
def splitPort : List Char → Bool → List Char → List Char × Option (List Char)
  | [], _, acc => (acc.reverse, none)
  | c :: r, inside, acc =>
    if c = ':' ∧ !inside then (acc.reverse, some r)
    else splitPort r (if c = '[' then true else if c = ']' then false else inside) (c :: acc)

/-- Whether a path segment stands for the directory it is in: `.` or `%2e`. -/
def singleDot (seg : List Char) : Bool :=
  match seg.map Char.toLower with
  | ['.'] | ['%', '2', 'e'] => true
  | _ => false

/-- Whether a path segment stands for the directory above: two dots, each `.` or `%2e`. -/
def doubleDot (seg : List Char) : Bool :=
  match seg.map Char.toLower with
  | ['.', '.'] | ['.', '%', '2', 'e'] | ['%', '2', 'e', '.'] | ['%', '2', 'e', '%', '2', 'e'] => true
  | _ => false

/-- Resolves the segments of a path in order onto those already resolved, kept last first: a
single dot is dropped and a double dot drops the segment before it, and either at the end leaves
an empty segment so that the path ends in a slash. -/
def resolveSegments : List (List Char) → List (List Char) → List (List Char)
  | done, [] => done
  | done, [seg] =>
    if doubleDot seg then [] :: done.drop 1
    else if singleDot seg then [] :: done
    else seg :: done
  | done, seg :: rest =>
    resolveSegments (if doubleDot seg then done.drop 1 else if singleDot seg then done
      else seg :: done) rest

/-- The path of a URL from the text after its authority: a path that starts with a slash (or,
in a special URL, a backslash) is split into segments and its dot segments resolved; a special
URL's empty path is `/`; any other path is kept as written. -/
def resolvePath (special : Bool) (cs : List Char) : String :=
  let isSlash := fun (c : Char) => c = '/' || (special && c = '\\')
  match cs with
  | c :: rest =>
    if isSlash c then
      let segs := (resolveSegments [] (rest.splitOnP isSlash)).reverse
      String.join (segs.map fun seg => "/" ++ String.ofList seg)
    else String.ofList cs
  | [] => if special then "/" else ""

def Url.read (text : String) : Except UrlError Url := do
  let cs := text.toList
  let cs := (((cs.dropWhile (·.toNat ≤ 0x20)).reverse.dropWhile (·.toNat ≤ 0x20)).reverse).filter
    fun c => c ≠ '\t' ∧ c ≠ '\n' ∧ c ≠ '\r'
  let (scheme, rest) ← match cs with
    | c :: r =>
      if c.isAlpha then
        let name := r.takeWhile fun d => d.isAlphanum || d = '+' || d = '-' || d = '.'
        match r.drop name.length with
        | ':' :: rest => pure (String.ofList ((c :: name).map Char.toLower), rest)
        | _ => throw UrlError.relativeWithoutBase
      else throw UrlError.relativeWithoutBase
    | [] => throw UrlError.relativeWithoutBase
  let special := specialSchemes.any (·.1 == scheme)
  let (authority, rest) ←
    if special then
      let r := rest.dropWhile fun c => c = '/' || c = '\\'
      let a := r.takeWhile fun c => c ≠ '/' && c ≠ '\\' && c ≠ '?' && c ≠ '#'
      pure (some a, r.drop a.length)
    else match rest with
      | '/' :: '/' :: r =>
        let a := r.takeWhile fun c => c ≠ '/' && c ≠ '?' && c ≠ '#'
        pure (some a, r.drop a.length)
      | _ => pure (none, rest)
  let pathPart := rest.takeWhile fun c => c ≠ '?' && c ≠ '#'
  let afterPath := rest.drop pathPart.length
  let query := match afterPath with
    | '?' :: q => some (String.ofList (q.takeWhile (· ≠ '#')))
    | _ => none
  match authority with
  | none => pure { scheme, path := resolvePath false pathPart, query }
  | some a =>
    let at_ := a.reverse.findIdx? (· = '@')
    let (userinfo, hostPort) := match at_ with
      | some k => (some (a.take (a.length - 1 - k)), a.drop (a.length - k))
      | none => (none, a)
    let (host, port) := splitPort hostPort false []
    if userinfo.isSome ∧ hostPort.isEmpty ∧ !special then throw UrlError.emptyHost
    if host.isEmpty ∧ (port.isSome ∨ (special ∧ scheme ≠ "file")) then throw UrlError.emptyHost
    let hostText ← if special ∧ scheme ≠ "file" then specialHost host
      else if host.isEmpty then pure "" else opaqueHost host
    let port ← match port with
      | some p => readPort p
      | none => pure none
    let (username, password) := match userinfo with
      | some u =>
        let name := u.takeWhile (· ≠ ':')
        (String.ofList name, match u.drop name.length with
          | ':' :: pw => some (String.ofList pw)
          | _ => none)
      | none => ("", none)
    let default := (specialSchemes.find? (·.1 == scheme)).bind (·.2)
    pure { scheme, username, password,
           host := if hostText.isEmpty then none else some hostText,
           port := if port = default then none else port,
           path := resolvePath special pathPart, query }

end Rebill.Connection
