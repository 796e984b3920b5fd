import ThemeLint.Calendar
import ThemeLint.Number.Numeral
import ThemeLint.Number.Shortest
import ThemeLint.Text.Base64
import ThemeLint.Text.Lines
import ThemeLint.Text.LowerCase
import ThemeLint.Text.Quoted
import ThemeLint.Yaml.Tag

set_option autoImplicit false

namespace ThemeLint.Yaml

inductive Scalar where
  | null
  | bool (value : Bool)
  | int (value : Int)
  | float (value : Double)
  /-- What is no number, though its tag says so. All that is written by name is one and the same;
  whatever else comes to none is of its own node and differs from all others. -/
  | noNumber (node : Option Nat)
  | str (value : WideText)
  | bytes (value : List UInt8)
  | date (value : Calendar.Date)
  | moment (value : Calendar.Moment)
  deriving DecidableEq, Repr

inductive Fault where
  | meaningless
  /-- Nodes stand in one another, or for one another, more deeply than can be followed. -/
  | tooDeep
  | badInteger (base : Nat) (text : WideText)
  | tooManyDigits (count : Nat)
  | badDecimal (text : WideText)
  | noDigits
  | notTruth (text : WideText)
  | notTimestamp
  | timestampOfMapping
  | calendar (fault : Calendar.Fault)
  | tooLarge
  | tooLongToWrite
  | noSuchCharacter
  | codeTooLarge
  deriving DecidableEq, Repr

def shownLimit : Nat := 200

def limitMessage : String :=
  s!"Exceeds the limit ({Numeral.digitLimit} digits) for integer string conversion"

def Fault.message : Fault → String
  | .meaningless => "<yaml>"
  | .tooDeep => "maximum recursion depth exceeded"
  | .badInteger base text =>
    s!"invalid literal for int() with base {base}: " ++
      String.ofList ((Text.Quoted.encode text.points).take shownLimit)
  | .tooManyDigits count =>
    s!"{limitMessage}: value has {count} digits; " ++
      "use sys.set_int_max_str_digits() to increase the limit"
  | .badDecimal text => s!"could not convert string to float: {Text.quoted text}"
  | .noDigits => "string index out of range"
  | .notTruth text => Text.quoted text
  | .notTimestamp => "'NoneType' object has no attribute 'groupdict'"
  | .timestampOfMapping => "expected string or bytes-like object, got 'list'"
  | .calendar fault => fault.message
  | .tooLarge => "int too large to convert to float"
  | .tooLongToWrite =>
    s!"{limitMessage}; use sys.set_int_max_str_digits() to increase the limit"
  | .noSuchCharacter => "chr() arg not in range(0x110000)"
  | .codeTooLarge => "Python int too large to convert to C int"

namespace Scalar

def dropMarks (s : List CodePoint) : List CodePoint := s.filter (· ≠ .char '_')

def whole (base : Nat) (s : List CodePoint) : Except Fault Int :=
  (Numeral.readWhole base s).mapError fun
    | .malformed => .badInteger base ⟨s⟩
    | .tooManyDigits count => .tooManyDigits count

def inSixties (parts : List Int) : Int := parts.foldl (fun n part => 60 * n + part) 0

def unsignedInt (s : List CodePoint) : Except Fault Int :=
  match s with
  | [] => .error .noDigits
  | [.char '0'] => .ok 0
  | .char '0' :: .char 'b' :: digits => whole 2 digits
  | .char '0' :: .char 'x' :: digits => whole 16 digits
  | .char '0' :: _ => whole 8 s
  | _ =>
    if s.contains (.char ':') then ((Text.pieces (.char ':') s).mapM (whole 10)).map inSixties
    else whole 10 s

def readInt (text : WideText) : Except Fault Int :=
  match dropMarks text.points with
  | .char '-' :: s => (unsignedInt s).map fun n => -n
  | .char '+' :: s => unsignedInt s
  | s => unsignedInt s

def decimal (s : List CodePoint) : Except Fault Double :=
  match Numeral.readDecimal s with
  | some x => .ok x
  | none => .error (.badDecimal ⟨s⟩)

/-- Parts in base sixty from the units up, each weighed and added with rounding. -/
def addSixties (sum : Double) (weight : Nat) : List Double → Except Fault Double
  | [] => .ok sum
  | part :: parts =>
    match Double.ofNat weight with
    | .infinite _ => .error .tooLarge
    | w => addSixties (sum.add (part.mul w)) (weight * 60) parts

def ofDouble (node : Nat) (negative : Bool) : Double → Scalar
  | .nan => .noNumber (some node)
  | x => .float (if negative then x.negate else x)

def unsignedFloat (node : Nat) (negative : Bool) (s : List CodePoint) : Except Fault Scalar :=
  if s = (WideText.ofString ".inf").points then .ok (.float (.infinite negative))
  else if s = (WideText.ofString ".nan").points then .ok (.noNumber none)
  else if s.contains (.char ':') then do
    let parts ← (Text.pieces (.char ':') s).mapM decimal
    return ofDouble node negative (← addSixties Double.zero 1 parts.reverse)
  else (decimal s).map (ofDouble node negative)

def readFloat (node : Nat) (text : WideText) : Except Fault Scalar :=
  match (Text.lower ⟨dropMarks text.points⟩).points with
  | [] => .error .noDigits
  | .char '-' :: s => unsignedFloat node true s
  | .char '+' :: s => unsignedFloat node false s
  | s => unsignedFloat node false s

def readBool (text : WideText) : Except Fault Bool :=
  let word := Text.lower text
  if word = "yes" || word = "true" || word = "on" then .ok true
  else if word = "no" || word = "false" || word = "off" then .ok false
  else .error (.notTruth word)

def number (digits : List Char) : Nat := Numeral.valueOf 10 digits

def micro (fraction : List Char) : Nat :=
  number (fraction.take 6 ++ List.replicate (6 - fraction.length) '0')

def calendar {α : Type} : Except Calendar.Fault α → Except Fault α
  | .ok a => .ok a
  | .error fault => .error (.calendar fault)

def zoneMinutes : Option Char × List Char × List Char → Int
  | (sign, hours, minutes) =>
    let total := number hours * 60 + number minutes
    if sign = some '-' then -total else total

def ofStamp (t : Form.StampText) : Except Fault Scalar :=
  match t.clock with
  | none => calendar (do
      let d ← Calendar.date (number t.year) (number t.month) (number t.day)
      .ok (.date d))
  | some c => calendar (do
      let ahead ← match c.zone with
        | none => .ok none
        | some zone => (Calendar.offset (zoneMinutes zone)).map some
      let d ← Calendar.date (number t.year) (number t.month) (number t.day)
      let time ← Calendar.clock (number c.hour) (number c.minute) (number c.second) (micro c.fraction)
      .ok (.moment ⟨d, time, ahead⟩))

def readStamp (text : WideText) : Except Fault Scalar :=
  let form? (s : List Char) : Option Form.StampText :=
    Form.stamp? s <|> (if s.getLast? = some '\n' then Form.stamp? s.dropLast else none)
  match text.plain?.bind fun s => form? s.toList with
  | some t => ofStamp t
  | none => .error .notTimestamp

def readBytes (text : WideText) : Except Fault (List UInt8) :=
  match text.plain? with
  | none => .error .meaningless
  | some s =>
    if s.toList.all (·.toNat < 0x80) then
      match Text.Base64.decode? s.toList with
      | some content => .ok content
      | none => .error .meaningless
    else .error .meaningless

def ofText (tag : Tag) (node : Nat) (text : WideText) : Except Fault Scalar :=
  match tag with
  | .null => .ok .null
  | .bool => (readBool text).map .bool
  | .int => (readInt text).map .int
  | .float => readFloat node text
  | .str => .ok (.str text)
  | .binary => (readBytes text).map .bytes
  | .timestamp => readStamp text
  | _ => .error .meaningless

def wholeNumber? : Scalar → Option Int
  | .bool b => some (if b then 1 else 0)
  | .int n => some n
  | .float x => x.toInt?
  | _ => none

def same : Scalar → Scalar → Bool
  | .float x, .float y => x.same y
  | .moment x, .moment y => x.same y
  | x, y =>
    x = y || match x.wholeNumber?, y.wholeNumber? with
      | some m, some n => m == n
      | _, _ => false

def text : Scalar → WideText
  | .null => "None"
  | .bool b => if b then "True" else "False"
  | .int n => toString n
  | .float x => x.text
  | .noNumber _ => Double.nan.text
  | .str s => s
  | .bytes b => String.ofList (Text.Quoted.encodeBytes b)
  | .date d => d.text
  | .moment m => m.text

def label : Scalar → Except Fault WideText
  | .int n =>
    if Numeral.digitLimit < (Nat.toDigits 10 n.natAbs).length then .error .tooLongToWrite
    else .ok (Scalar.text (.int n))
  | s => .ok s.text

def holds : Scalar → Bool
  | .null => false
  | .bool b => b
  | .int n => n != 0
  | .float x => !x.isZero
  | .noNumber _ => true
  | .str s => !s.isEmpty
  | .bytes b => !b.isEmpty
  | .date _ | .moment _ => true

end Scalar

end ThemeLint.Yaml
