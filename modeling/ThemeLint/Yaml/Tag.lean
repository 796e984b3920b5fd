import ThemeLint.Text.Digit

/-!
Tags say what a node means. A plain scalar without a tag gets one from its form: a truth value, a
decimal or whole number (in sixties too), a merge mark, nothing, a point in time, a default mark, or
else a text.
-/

set_option autoImplicit false

namespace ThemeLint.Yaml

inductive Tag where
  | null
  | bool
  | int
  | float
  | binary
  | timestamp
  | orderedMap
  | pairs
  | set
  | str
  | seq
  | map
  | merge
  | value
  | unknown (name : String)
  deriving DecidableEq, Repr

def standardTags : String := "tag:yaml.org,2002:"

def Tag.ofName (name : String) : Tag :=
  if !standardTags.toList.isPrefixOf name.toList then .unknown name
  else match String.ofList (name.toList.drop standardTags.length) with
    | "null" => .null
    | "bool" => .bool
    | "int" => .int
    | "float" => .float
    | "binary" => .binary
    | "timestamp" => .timestamp
    | "omap" => .orderedMap
    | "pairs" => .pairs
    | "set" => .set
    | "str" => .str
    | "seq" => .seq
    | "map" => .map
    | "merge" => .merge
    | "value" => .value
    | _ => .unknown name

namespace Form

def isDigitMark (c : Char) : Bool := Text.isAsciiDigit c || c == '_'

def dropSign : List Char → List Char
  | '+' :: s | '-' :: s => s
  | s => s

def allIn (p : Char → Bool) (s : List Char) : Bool := s ≠ [] && s.all p

/-- Digits up to sixty, each group behind a colon; what follows the last of one group or more. -/
def sixties? (found : Bool) : (fuel : Nat) → List Char → Option (List Char)
  | 0, _ => none
  | fuel + 1, s =>
    match s with
    | ':' :: s =>
      let digits := s.takeWhile Text.isAsciiDigit
      let fits := match digits with
        | [_] => true
        | [c, _] => c ≤ '5'
        | _ => false
      if fits then sixties? true fuel (s.drop digits.length) else none
    | s => if found then some s else none

def isExponent : List Char → Bool
  | [] => true
  | e :: sign :: digits =>
    (e == 'e' || e == 'E') && (sign == '+' || sign == '-') && allIn Text.isAsciiDigit digits
  | _ => false

def isFraction (s : List Char) : Bool := isExponent (s.dropWhile isDigitMark)

def isBool (s : List Char) : Bool :=
  ["yes", "Yes", "YES", "no", "No", "NO", "true", "True", "TRUE", "false", "False", "FALSE",
    "on", "On", "ON", "off", "Off", "OFF"].contains (String.ofList s)

def isNull (s : List Char) : Bool := ["~", "null", "Null", "NULL", ""].contains (String.ofList s)

/-- Digits with a point and perhaps an exponent, digits in sixties with a point, or a point and then
digits or the name of a special value; only the digits behind a leading point have no sign. -/
def isFloat (s : List Char) : Bool :=
  let unsigned := dropSign s
  let whole := unsigned.takeWhile isDigitMark
  let rest := unsigned.drop whole.length
  let number := match whole, rest with
    | c :: _, '.' :: fraction => Text.isAsciiDigit c && isFraction fraction
    | c :: _, ':' :: _ =>
      Text.isAsciiDigit c && match sixties? false (rest.length + 1) rest with
        | some ('.' :: fraction) => fraction.all isDigitMark
        | _ => false
    | _, _ => false
  let leadingPoint := match s with
    | '.' :: c :: fraction => Text.isAsciiDigit c && isFraction fraction
    | _ => false
  number || leadingPoint ||
    [".inf", ".Inf", ".INF"].contains (String.ofList unsigned) ||
    [".nan", ".NaN", ".NAN"].contains (String.ofList s)

def isInt (s : List Char) : Bool :=
  match dropSign s with
  | ['0'] => true
  | '0' :: 'b' :: digits => allIn (fun c => c == '0' || c == '1' || c == '_') digits
  | '0' :: 'x' :: digits => allIn (fun c => Text.isHexDigit c || c == '_') digits
  | '0' :: digits => allIn (fun c => ('0' ≤ c && c ≤ '7') || c == '_') digits
  | c :: s =>
    Text.isAsciiDigit c &&
      let rest := s.dropWhile isDigitMark
      (rest.isEmpty || sixties? false (rest.length + 1) rest == some [])
  | [] => false

/-- The clock part of a point in time: digits of the hour, minute, second and fraction, and the
distance to universal time as a sign with the digits of hours and minutes. -/
structure ClockText where
  hour : List Char
  minute : List Char
  second : List Char
  fraction : List Char
  zone : Option (Option Char × List Char × List Char)

structure StampText where
  year : List Char
  month : List Char
  day : List Char
  clock : Option ClockText

def digits? (least most : Nat) (s : List Char) : Option (List Char × List Char) :=
  let run := s.takeWhile Text.isAsciiDigit
  if least ≤ run.length ∧ run.length ≤ most then some (run, s.drop run.length) else none

def char? (p : Char → Bool) : List Char → Option (Char × List Char)
  | c :: s => if p c then some (c, s) else none
  | [] => none

def isBlank (c : Char) : Bool := c == ' ' || c == '\t'

def zone? (s : List Char) : Option (Option (Option Char × List Char × List Char)) :=
  if s = [] then some none
  else match s.dropWhile isBlank with
    | ['Z'] => some (some (none, [], []))
    | sign :: s =>
      if sign == '+' || sign == '-' then do
        let (hours, s) ← digits? 1 2 s
        match s with
        | [] => some (some (some sign, hours, []))
        | ':' :: s => do
          let (minutes, s) ← digits? 2 2 s
          if s = [] then some (some (some sign, hours, minutes)) else none
        | _ => none
      else none
    | [] => none

def clock? (s : List Char) : Option ClockText := do
  let (hour, s) ← digits? 1 2 s
  let (_, s) ← char? (· == ':') s
  let (minute, s) ← digits? 2 2 s
  let (_, s) ← char? (· == ':') s
  let (second, s) ← digits? 2 2 s
  let (fraction, s) := match s with
    | '.' :: s => (s.takeWhile Text.isAsciiDigit, s.dropWhile Text.isAsciiDigit)
    | s => ([], s)
  let zone ← zone? s
  some ⟨hour, minute, second, fraction, zone⟩

def stamp? (s : List Char) : Option StampText := do
  let (year, s) ← digits? 4 4 s
  let (_, s) ← char? (· == '-') s
  let (month, s) ← digits? 1 2 s
  let (_, s) ← char? (· == '-') s
  let (day, s) ← digits? 1 2 s
  match s with
  | [] => some ⟨year, month, day, none⟩
  | c :: s =>
    if c == 'T' || c == 't' then do
      let clock ← clock? s
      some ⟨year, month, day, some clock⟩
    else if isBlank c then do
      let clock ← clock? (s.dropWhile isBlank)
      some ⟨year, month, day, some clock⟩
    else none

/-- A day on its own is a point in time only with two digits for month and day. -/
def isStamp (s : List Char) : Bool :=
  match stamp? s with
  | some t => t.clock.isSome || (t.month.length == 2 && t.day.length == 2)
  | none => false

def orBeforeBreak (form : List Char → Bool) (s : List Char) : Bool :=
  form s || (s.getLast? == some '\n' && form s.dropLast)

end Form

def Tag.ofForm (text : String) : Tag :=
  let s := text.toList
  let is := fun form => Form.orBeforeBreak form s
  if is Form.isBool then .bool
  else if is Form.isFloat then .float
  else if is Form.isInt then .int
  else if is (· == ['<', '<']) then .merge
  else if (s.isEmpty || s.head? ≠ some '\n') && is Form.isNull then .null
  else if is Form.isStamp then .timestamp
  else if is (· == ['=']) then .value
  else if is (fun s => s == ['!'] || s == ['&'] || s == ['*']) then .unknown (standardTags ++ "yaml")
  else .str

end ThemeLint.Yaml
