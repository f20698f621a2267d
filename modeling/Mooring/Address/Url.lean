import Mooring.Address.Ip
import Mooring.Text.Case

/-! The host named by a URL: what stands between `//` and the path, without user, brackets and
port, in small letters. A URL whose brackets do not hold an address of version 6 has no host that
could be read. -/

namespace Mooring.Address

open Mooring.Text

inductive UrlFault where
  /-- Brackets that do not pair up, or text beside them. -/
  | unbalancedBrackets
  | badFutureAddress
  | notAnAddress (text : String)
  | bracketedV4
  /-- A character that other software would read as a delimiter. -/
  | disguisedDelimiter (authority : String)
  deriving DecidableEq, Repr

/-- Scheme and authority of a URL. -/
structure Url where
  scheme : List Char
  authority : List Char
  deriving DecidableEq, Repr

/-- Controls and the space, which may stand in front of a URL. -/
def isLeadIn (c : Char) : Bool := c.toNat ≤ 32

def isSchemeChar (c : Char) : Bool :=
  c.isAlphanum || c == '+' || c == '-' || c == '.'

/-- The scheme in small letters and what follows its colon. -/
def takeScheme (cs : List Char) : List Char × List Char :=
  match cutFirst ':' cs with
  | some (scheme, rest) =>
    if (scheme.head?.any Char.isAlpha) && scheme.all isSchemeChar then (asciiLower scheme, rest)
    else ([], cs)
  | none => ([], cs)

def isAuthorityEnd (c : Char) : Bool := c == '/' || c == '?' || c == '#'

/-- Characters whose compatibility form holds one of `/?#@:`. -/
def disguised : List Nat :=
  [0x2047, 0x2048, 0x2049, 0x2100, 0x2101, 0x2105, 0x2106, 0x2a74, 0xfe13, 0xfe16, 0xfe55, 0xfe56,
   0xfe5f, 0xfe6b, 0xff03, 0xff0f, 0xff1a, 0xff1f, 0xff20]

/-- A future address: `v`, hexadecimal digits, a point and more. -/
def isFutureAddress (cs : List Char) : Bool :=
  match cs with
  | 'v' :: rest =>
    let digits := rest.takeWhile isHexDigit
    !digits.isEmpty && (match rest.dropWhile isHexDigit with
      | '.' :: _ :: _ => true
      | _ => false)
  | _ => false

def checkBracketed (host : List Char) : Except UrlFault Unit :=
  if host.head? = some 'v' then
    if isFutureAddress host then .ok () else .error .badFutureAddress
  else if isV4 host then .error .bracketedV4
  else if isV6 host then .ok ()
  else .error (.notAnAddress (String.ofList host))

/-- Checks the place that an authority with brackets names. Nothing may stand in front of its
brackets, and only a port behind them. -/
def checkPlace (place : List Char) : Except UrlFault Unit :=
  match cutFirst '[' place with
  | none => checkBracketed (before ':' place)
  | some (_ :: _, _) => .error .unbalancedBrackets
  | some ([], inside) =>
    match cutFirst ']' inside with
    | none => checkBracketed inside
    | some (host, []) => checkBracketed host
    | some (host, ':' :: _) => checkBracketed host
    | some _ => .error .unbalancedBrackets

def checkAuthority (authority : List Char) : Except UrlFault Unit := do
  let opens := authority.contains '['
  let closes := authority.contains ']'
  if opens != closes then throw .unbalancedBrackets
  if opens then checkPlace (afterLast '@' authority)
  if authority.any (fun c => disguised.contains c.toNat) then
    throw (.disguisedDelimiter (String.ofList authority))

/-- Scheme and authority. White space in front and tabs and line ends anywhere do not count. -/
def readUrl (cs : List Char) : Except UrlFault Url := do
  let cs := (cs.dropWhile isLeadIn).filter (fun c => c ≠ '\t' ∧ c ≠ '\r' ∧ c ≠ '\n')
  let (scheme, rest) := takeScheme cs
  match rest with
  | '/' :: '/' :: rest =>
    let authority := rest.takeWhile (fun c => !isAuthorityEnd c)
    checkAuthority authority
    return ⟨scheme, authority⟩
  | _ => return ⟨scheme, []⟩

/-- The host in small letters, its zone as written; empty where none is named. -/
def Url.host (url : Url) : List Char :=
  let place := afterLast '@' url.authority
  let name := match cutFirst '[' place with
    | some (_, rest) => before ']' rest
    | none => before ':' place
  match cutFirst '%' name with
  | some (host, zone) => lower host ++ '%' :: zone
  | none => lower name

end Mooring.Address
