import ThemeLint.Text.Quoted

/-!
UTF-8. A byte sequence is cut into pieces, each a character or a fault; a fault spans the longest
beginning of a well-formed sequence that stands there, or a single byte that begins none. Strict
reading refuses at the first fault; forgiving reading puts U+FFFD for each. Of the halves of
surrogate pairs only some can be written.
-/

set_option autoImplicit false

namespace ThemeLint.Text.Utf8

inductive Reason where
  | invalidStart
  | invalidContinuation
  | unexpectedEnd
  deriving DecidableEq, Repr

def Reason.message : Reason → String
  | .invalidStart => "invalid start byte"
  | .invalidContinuation => "invalid continuation byte"
  | .unexpectedEnd => "unexpected end of data"

structure Fault where
  position : Nat
  first : UInt8
  length : Nat
  reason : Reason
  deriving DecidableEq, Repr

def Fault.message (f : Fault) : String :=
  let place :=
    if f.length = 1 then
      s!"byte 0x{String.ofList (hexDigits 2 f.first.toNat)} in position {f.position}"
    else s!"bytes in position {f.position}-{f.position + f.length - 1}"
  s!"'utf-8' codec can't decode {place}: {f.reason.message}"

inductive Piece where
  | char (c : Char)
  | fault (f : Fault)
  deriving DecidableEq, Repr

/-- What a character in the making still needs: the value so far, the number of bytes to come, the
range of the next one, and the first byte with the count of bytes read. -/
structure Unfinished where
  value : Nat
  missing : Nat
  low : UInt8
  high : UInt8
  first : UInt8
  read : Nat
  deriving DecidableEq, Repr

inductive Start where
  | char (c : Char)
  | lead (p : Unfinished)
  | bad
  deriving DecidableEq, Repr

/-- What a byte begins. The range of the second byte shuts out overlong forms, surrogates and
values beyond U+10FFFF. -/
def start (b : UInt8) : Start :=
  if b < 0x80 then .char (Char.ofNat b.toNat)
  else if b < 0xc2 then .bad
  else if b < 0xe0 then .lead ⟨b.toNat - 0xc0, 1, 0x80, 0xbf, b, 1⟩
  else if b < 0xf0 then
    .lead ⟨b.toNat - 0xe0, 2, if b = 0xe0 then 0xa0 else 0x80, if b = 0xed then 0x9f else 0xbf, b, 1⟩
  else if b < 0xf5 then
    .lead ⟨b.toNat - 0xf0, 3, if b = 0xf0 then 0x90 else 0x80, if b = 0xf4 then 0x8f else 0xbf, b, 1⟩
  else .bad

def Unfinished.faultAt (p : Unfinished) (position : Nat) (reason : Reason) : Piece :=
  .fault ⟨position - p.read, p.first, p.read, reason⟩

/-- The pieces of the bytes from `position` on, inside a character if `begun` holds one. -/
def piecesFrom (position : Nat) : (begun : Option Unfinished) → List UInt8 → List Piece
  | none, [] => []
  | some p, [] => [p.faultAt position .unexpectedEnd]
  | none, b :: bs =>
    match start b with
    | .char c => .char c :: piecesFrom (position + 1) none bs
    | .lead p => piecesFrom (position + 1) (some p) bs
    | .bad => .fault ⟨position, b, 1, .invalidStart⟩ :: piecesFrom (position + 1) none bs
  | some p, b :: bs =>
    if p.low ≤ b ∧ b ≤ p.high then
      let value := p.value * 64 + (b.toNat - 0x80)
      if p.missing ≤ 1 then .char (Char.ofNat value) :: piecesFrom (position + 1) none bs
      else piecesFrom (position + 1) (some ⟨value, p.missing - 1, 0x80, 0xbf, p.first, p.read + 1⟩) bs
    else
      p.faultAt position .invalidContinuation ::
        match start b with
        | .char c => .char c :: piecesFrom (position + 1) none bs
        | .lead q => piecesFrom (position + 1) (some q) bs
        | .bad => .fault ⟨position, b, 1, .invalidStart⟩ :: piecesFrom (position + 1) none bs

def pieces (bytes : List UInt8) : List Piece := piecesFrom 0 none bytes

def strict : List Piece → Except Fault (List Char)
  | [] => .ok []
  | .char c :: ps => (strict ps).map (c :: ·)
  | .fault f :: _ => .error f

def decode (bytes : List UInt8) : Except Fault (List Char) := strict (pieces bytes)

def Piece.orReplacement : Piece → Char
  | .char c => c
  | .fault _ => '\uFFFD'

def decodeReplacing (bytes : List UInt8) : List Char := (pieces bytes).map Piece.orReplacement

def encode (s : String) : List UInt8 := s.toUTF8.toList

/-- A half from U+DC80 to U+DCFF stands for a byte that is part of no character; no bytes stand for
any other half. -/
def isEncodable : CodePoint → Bool
  | .char _ => true
  | .half n => 0x480 ≤ n.val && n.val ≤ 0x4ff

/-- A half that cannot be written, its place, and how many halves stand in a row from there on. -/
structure HalfFault where
  position : Nat
  first : CodePoint
  length : Nat
  deriving DecidableEq, Repr

def HalfFault.message (f : HalfFault) : String :=
  let place :=
    if f.length = 1 then
      s!"character '{String.ofList (Quoted.escaped f.first.toNat)}' in position {f.position}"
    else s!"characters in position {f.position}-{f.position + f.length - 1}"
  s!"'utf-8' codec can't encode {place}: surrogates not allowed"

def halfFault? (s : List CodePoint) : Option HalfFault :=
  match s.dropWhile isEncodable with
  | [] => none
  | x :: rest =>
    let more := rest.takeWhile fun y => y.char?.isNone
    some ⟨(s.takeWhile isEncodable).length, x, more.length + 1⟩

end ThemeLint.Text.Utf8
