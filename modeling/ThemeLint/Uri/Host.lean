import ThemeLint.Text.Lines
import ThemeLint.Text.Digit
import ThemeLint.Text.Ranges
import ThemeLint.Text.Quoted

set_option autoImplicit false

namespace ThemeLint.Uri

inductive Fault where
  | badBrackets
  | futureAddress
  | notAnAddress (host : String)
  | oldAddressInBrackets
  | ambiguous (host : String)
  deriving DecidableEq, Repr

def Fault.message : Fault → String
  | .badBrackets => "Invalid IPv6 URL"
  | .futureAddress => "IPvFuture address is invalid"
  | .notAnAddress host => s!"{Text.quoted host} does not appear to be an IPv4 or IPv6 address"
  | .oldAddressInBrackets => "An IPv4 address cannot be in brackets"
  | .ambiguous host =>
    "netloc '" ++ host ++ "' contains invalid characters under NFKC normalization"

def splitFirst (sep : Char) (s : List Char) : List Char × Option (List Char) :=
  let head := s.takeWhile (· ≠ sep)
  match s.drop head.length with
  | [] => (head, none)
  | _ :: rest => (head, some rest)

def afterLast (sep : Char) (s : List Char) : List Char :=
  (s.reverse.takeWhile (· ≠ sep)).reverse

def decimalValue (digits : List Char) : Nat :=
  digits.foldl (fun n c => 10 * n + (c.toNat - 48)) 0

def isOctet (s : List Char) : Bool :=
  s ≠ [] && s.all Text.isAsciiDigit && s.length ≤ 3 && (s == ['0'] || s.head? != some '0') &&
  decimalValue s ≤ 255

def isIpv4 (s : List Char) : Bool :=
  let parts := Text.pieces '.' s
  parts.length == 4 && parts.all isOctet

def isGroup (s : List Char) : Bool :=
  s ≠ [] && s.all Text.isHexDigit && s.length ≤ 4

/-- The groups, an IPv4 address at the end counting as two; none if that address is malformed. -/
def ipv6Groups? (s : List Char) : Option (List (List Char)) :=
  let parts := Text.pieces ':' s
  if parts.length < 3 then none
  else match parts.getLast? with
    | some last =>
      if last.contains '.' then
        if isIpv4 last then some (parts.dropLast ++ [['0'], ['0']]) else none
      else some parts
    | none => none

/-- Eight groups, or fewer with one gap of at least one group, which the first or the last colons
may also mark. -/
def areIpv6Groups (parts : List (List Char)) : Bool :=
  let inner := (parts.drop 1).dropLast
  let gaps := inner.filter (·.isEmpty)
  if 9 < parts.length then false
  else match gaps with
    | [] => parts.length == 8 && parts.all isGroup
    | [_] =>
      let high := parts.takeWhile (fun p => !p.isEmpty)
      if parts.head? = some [] then
        match parts.drop 1 with
        | [] :: low => areLow low
        | _ => false
      else high.all isGroup && areLowAfter high.length (parts.drop (high.length + 1))
    | _ => false
where
  /-- The groups behind a gap, which may end in an idle colon. -/
  areLowAfter (high : Nat) (low : List (List Char)) : Bool :=
    if low == [[]] then high < 8
    else low.all isGroup && high + low.length < 8
  areLow (low : List (List Char)) : Bool := areLowAfter 0 low

def isIpv6 (s : List Char) : Bool :=
  let (address, zone) := splitFirst '%' s
  let zoneOk := match zone with
    | none => true
    | some z => z ≠ [] && !z.contains '%'
  zoneOk && match ipv6Groups? address with
    | none => false
    | some groups => areIpv6Groups groups

def isFuture (s : List Char) : Bool :=
  match s with
  | 'v' :: s =>
    match splitFirst '.' s with
    | (version, some rest) =>
      version ≠ [] && version.all Text.isHexDigit && rest ≠ [] && !rest.contains '\n'
    | _ => false
  | _ => false

def checkAddress (s : List Char) : Except Fault Unit :=
  if s.head? = some 'v' then
    if isFuture s then .ok () else .error .futureAddress
  else if isIpv4 s then .error .oldAddressInBrackets
  else if isIpv6 s then .ok ()
  else .error (.notAnAddress (String.ofList s))

def checkBrackets (host : List Char) : Except Fault Unit :=
  if host.contains '[' != host.contains ']' then .error .badBrackets
  else if !host.contains '[' then .ok ()
  else
    match splitFirst '[' (afterLast '@' host) with
    | (address, none) => checkAddress (splitFirst ':' address).1
    | ([], some bracketed) =>
      let (address, port) := splitFirst ']' bracketed
      match port.getD [] with
      | [] => checkAddress address
      | ':' :: _ => checkAddress address
      | _ => .error .badBrackets
    | _ => .error .badBrackets

/-- The characters whose compatibility form holds one of `/ ? # @ :`, by code point. -/
def separatorLikeRanges : List (Nat × Nat) := [
  (0x2047, 0x2049), (0x2100, 0x2101), (0x2105, 0x2106), (0x2a74, 0x2a74), (0xfe13, 0xfe13),
  (0xfe16, 0xfe16), (0xfe55, 0xfe56), (0xfe5f, 0xfe5f), (0xfe6b, 0xfe6b), (0xff03, 0xff03),
  (0xff0f, 0xff0f), (0xff1a, 0xff1a), (0xff1f, 0xff20)]

def checkHost (host : List Char) : Except Fault Unit := do
  checkBrackets host
  if host.any (Text.inRanges separatorLikeRanges) then .error (.ambiguous (String.ofList host))

end ThemeLint.Uri
