import ThemeLint.Number.Numeral
import ThemeLint.Text.Digit
import ThemeLint.Text.Utf8
import ThemeLint.Yaml.Cursor
import ThemeLint.Yaml.Token.Basic

set_option autoImplicit false

namespace ThemeLint.Yaml

/-- What a reader at a place finds there, and the place behind it. -/
abbrev Reader (α : Type) := Cursor → Except Malformed (α × Cursor)

def refuse {α : Type} : Except Malformed α := .error .grammar

def endsAnchor (c : Char) : Bool := isBlank c || "?:,]\x7d%@\x60".toList.contains c

def readAnchorName : Reader String := fun c =>
  let (name, c) := c.next.span isWord
  if name = [] then refuse
  else if endOr endsAnchor c.peek then .ok (String.ofList name, c)
  else refuse

def isTagChar (c : Char) : Bool :=
  isWord c || ";/?:@&=+$,.!~*\x27()[]".toList.contains c

def readEscapes : (fuel : Nat) → Cursor → Option (List UInt8 × Cursor)
  | 0, _ => none
  | fuel + 1, c =>
    match c.rest with
    | '%' :: a :: b :: _ =>
      match Text.hexValue? a, Text.hexValue? b with
      | some x, some y =>
        (readEscapes fuel (c.skip 3)).map fun r => (UInt8.ofNat (16 * x + y) :: r.1, r.2)
      | _, _ => none
    | '%' :: _ => none
    | _ => some ([], c)

def readTagChars : (fuel : Nat) → Reader (List Char)
  | 0, c => .ok ([], c)
  | fuel + 1, c =>
    let (plain, c) := c.span isTagChar
    if c.peek ≠ some '%' then .ok (plain, c)
    else match readEscapes (c.rest.length + 1) c with
      | none => refuse
      | some (bytes, c) =>
        match Text.Utf8.decode bytes with
        | .error _ => refuse
        | .ok chars => do
          let (more, c) ← readTagChars fuel c
          .ok (plain ++ chars ++ more, c)

def readTagText : Reader String := fun c => do
  let (chars, c') ← readTagChars (c.rest.length + 1) c
  if c'.index = c.index then refuse else .ok (String.ofList chars, c')

def readHandle : Reader String := fun c =>
  if c.peek ≠ some '!' then refuse
  else if c.peekAt 1 = some ' ' then .ok ("!", c.next)
  else
    let (name, c) := c.next.span isWord
    if c.peek = some '!' then .ok (String.ofList ('!' :: name ++ ['!']), c.next) else refuse

def isBreakOrSpace (c : Char) : Bool := isBreak c || c == ' '

def readTag : Reader TagName := fun c => do
  let (name, c) ←
    if c.peekAt 1 = some '<' then do
      let (suffix, c) ← readTagText (c.skip 2)
      if c.peek = some '>' then .ok (⟨none, suffix⟩, c.next) else refuse
    else if endOr isBlank (c.peekAt 1) then .ok (⟨none, "!"⟩, c.next)
    else if ((c.rest.drop 1).takeWhile (!isBreakOrSpace ·)).contains '!' then do
      let (handle, c) ← readHandle c
      let (suffix, c) ← readTagText c
      .ok (⟨some handle, suffix⟩, c)
    else do
      let (suffix, c) ← readTagText c.next
      .ok (⟨some "!", suffix⟩, c)
  if endOr isBreakOrSpace c.peek then .ok (name, c) else refuse

def readNumber : Reader Nat := fun c =>
  let (digits, c) := c.span Text.isAsciiDigit
  if digits = [] then refuse
  else if Numeral.digitLimit < digits.length then .error (.tooManyDigits digits.length)
  else .ok (Numeral.valueOf 10 digits, c)

def readVersion : Reader Directive := fun c => do
  let (major, c) ← readNumber c.skipSpaces
  if c.peek ≠ some '.' then refuse
  else do
    let (minor, c) ← readNumber c.next
    if endOr isBreakOrSpace c.peek then .ok (.version major minor, c) else refuse

def readTagDirective : Reader Directive := fun c => do
  let (handle, c) ← readHandle c.skipSpaces
  if c.peek ≠ some ' ' then refuse
  else do
    let (beginning, c) ← readTagText c.skipSpaces
    if endOr isBreakOrSpace c.peek then .ok (.tag handle beginning, c) else refuse

def readDirective : Reader Directive := fun c => do
  let (name, c) := c.next.span isWord
  if name = [] || !endOr isBreakOrSpace c.peek then refuse
  else do
    let (d, c) ←
      if name = "YAML".toList then readVersion c
      else if name = "TAG".toList then readTagDirective c
      else .ok (.other, c.skipWhile (!isBreak ·))
    match c.restOfLine? with
    | some c => .ok (d, c)
    | none => refuse

end ThemeLint.Yaml
