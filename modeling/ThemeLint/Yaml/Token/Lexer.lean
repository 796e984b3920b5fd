import ThemeLint.Yaml.Token.Scalar

/-!
From the text to its tokens. Indentation opens and closes block collections. What may turn out to
be the key of a mapping is kept in mind, once for every depth of brackets, until a colon on the same
line within 1024 characters makes it one; its key token then goes in where it began.
-/

set_option autoImplicit false

namespace ThemeLint.Yaml

structure KeyCandidate where
  position : Nat
  /-- In a block mapping the line can only be a key. -/
  required : Bool
  index : Nat
  line : Nat
  column : Nat

def keyReach : Nat := 1024

structure Lexer where
  cursor : Cursor
  flow : Nat
  /-- The column of the innermost block collection, -1 outside of all. -/
  indent : Int
  indents : List Int
  keyAllowed : Bool
  candidates : List (Nat × KeyCandidate)
  tokens : Array Token

namespace Lexer

def start (s : List Char) : Lexer := ⟨Cursor.start s, 0, -1, [], true, [], #[]⟩

def push (l : Lexer) (t : Token) : Lexer := { l with tokens := l.tokens.push t }

def insertAt (l : Lexer) (n : Nat) (t : Token) : Lexer :=
  { l with tokens := l.tokens.insertIdxIfInBounds n t }

def inFlow (l : Lexer) : Bool := l.flow != 0

def isStale (l : Lexer) (k : KeyCandidate) : Bool :=
  k.line != l.cursor.line || keyReach < l.cursor.index - k.index

def dropStale (l : Lexer) : Except Malformed Lexer :=
  if l.candidates.any fun c => l.isStale c.2 && c.2.required then refuse
  else .ok { l with candidates := l.candidates.filter fun c => !l.isStale c.2 }

def dropCandidate (l : Lexer) : Except Malformed Lexer :=
  match l.candidates.lookup l.flow with
  | some k =>
    if k.required then refuse
    else .ok { l with candidates := l.candidates.filter fun c => c.1 != l.flow }
  | none => .ok l

def keepCandidate (l : Lexer) : Except Malformed Lexer :=
  if l.keyAllowed then do
    let l ← l.dropCandidate
    let required := !l.inFlow && l.indent == (l.cursor.column : Int)
    let k := ⟨l.tokens.size, required, l.cursor.index, l.cursor.line, l.cursor.column⟩
    .ok { l with candidates := (l.flow, k) :: l.candidates }
  else .ok l

def unwind (column : Int) : (fuel : Nat) → Lexer → Lexer
  | 0, l => l
  | fuel + 1, l =>
    if l.inFlow || l.indent ≤ column then l
    else match l.indents with
      | outer :: indents =>
        unwind column fuel ({ l with indent := outer, indents := indents }.push .blockEnd)
      | [] => l

def unwindTo (l : Lexer) (column : Int) : Lexer := unwind column (l.indents.length + 1) l

def deepen (l : Lexer) (column : Nat) : Lexer × Bool :=
  if l.indent < column then
    ({ l with indent := column, indents := l.indent :: l.indents }, true)
  else (l, false)

def allowKey (l : Lexer) (allowed : Bool) : Lexer := { l with keyAllowed := allowed }

def advance (l : Lexer) (n : Nat) : Lexer := { l with cursor := l.cursor.skip n }

/-- Passes over blanks, comments and line breaks. Outside of brackets a key may follow a break. -/
def toNextToken : (fuel : Nat) → Lexer → Lexer
  | 0, l => l
  | fuel + 1, l =>
    let c := l.cursor.skipSpaces
    let c := if c.peek = some '#' then c.skipWhile (!isBreak ·) else c
    match c.lineBreak with
    | (none, c) => { l with cursor := c }
    | (some _, c) => toNextToken fuel { l with cursor := c, keyAllowed := l.keyAllowed || !l.inFlow }

def closeAll (l : Lexer) : Except Malformed Lexer := do
  let l ← (l.unwindTo (-1)).dropCandidate
  .ok (l.allowKey false)

def separator (l : Lexer) (t : Token) : Except Malformed Lexer := do
  let l ← l.closeAll
  .ok ((l.advance 3).push t)

def openFlow (l : Lexer) (t : Token) : Except Malformed Lexer := do
  let l ← l.keepCandidate
  .ok (({ l with flow := l.flow + 1, keyAllowed := true }.advance 1).push t)

def closeFlow (l : Lexer) (t : Token) : Except Malformed Lexer := do
  let l ← l.dropCandidate
  if l.flow = 0 then refuse
  else .ok (({ l with flow := l.flow - 1, keyAllowed := false }.advance 1).push t)

def flowEntry (l : Lexer) : Except Malformed Lexer := do
  let l ← (l.allowKey true).dropCandidate
  .ok ((l.advance 1).push .flowEntry)

def beginBlock (l : Lexer) (t : Token) : Except Malformed Lexer :=
  if l.inFlow then .ok l
  else if !l.keyAllowed then refuse
  else
    let (l, deeper) := l.deepen l.cursor.column
    .ok (if deeper then l.push t else l)

def blockEntry (l : Lexer) : Except Malformed Lexer := do
  let l ← l.beginBlock .blockSequenceStart
  let l ← (l.allowKey true).dropCandidate
  .ok ((l.advance 1).push .blockEntry)

def key (l : Lexer) : Except Malformed Lexer := do
  let l ← l.beginBlock .blockMappingStart
  let l ← (l.allowKey !l.inFlow).dropCandidate
  .ok ((l.advance 1).push .key)

def value (l : Lexer) : Except Malformed Lexer := do
  let l ← match l.candidates.lookup l.flow with
    | some k =>
      let l := { l with candidates := l.candidates.filter fun c => c.1 != l.flow }
      let l := l.insertAt k.position .key
      let (l, deeper) := if l.inFlow then (l, false) else l.deepen k.column
      .ok ((if deeper then l.insertAt k.position .blockMappingStart else l).allowKey false)
    | none => do
      let l ← l.beginBlock .blockMappingStart
      (l.allowKey !l.inFlow).dropCandidate
  .ok ((l.advance 1).push .value)

/-- A token that may begin a key and after which none may follow. -/
def content {α : Type} (l : Lexer) (read : Reader α) (token : α → Token) : Except Malformed Lexer := do
  let l ← l.keepCandidate
  let (a, c) ← read l.cursor
  .ok ({ l with cursor := c, keyAllowed := false }.push (token a))

def block (l : Lexer) (folded : Bool) : Except Malformed Lexer := do
  let l ← (l.allowKey true).dropCandidate
  let (text, c) ← readBlock folded l.indent l.cursor
  .ok ({ l with cursor := c }.push (.scalar text false))

def plain (l : Lexer) : Except Malformed Lexer := do
  let l ← l.keepCandidate
  let r := readPlain l.inFlow l.indent l.cursor
  .ok ({ l with cursor := r.cursor, keyAllowed := r.broken }.push (.scalar (String.ofList r.text) true))

def directive (l : Lexer) : Except Malformed Lexer := do
  let l ← l.closeAll
  let (d, c) ← readDirective l.cursor
  .ok ({ l with cursor := c }.push (.directive d))

def isIndicator (c : Char) : Bool := "-?:,[]\x7b\x7d#&*!|>\x27\x22%@\x60".toList.contains c

/-- A hyphen, and outside of brackets a question mark or colon, begins a plain scalar when no blank
follows. -/
def beginsPlain (l : Lexer) (c : Char) : Bool :=
  !(isBlank c || isIndicator c) ||
    (!endOr isBlank (l.cursor.peekAt 1) && (c == '-' || (!l.inFlow && (c == '?' || c == ':'))))

def token (l : Lexer) (c : Char) : Except Malformed Lexer :=
  let alone := endOr isBlank (l.cursor.peekAt 1)
  let atMargin := l.cursor.column == 0
  if c = '%' && atMargin then l.directive
  else if c = '-' && atMargin && l.cursor.isSeparator then l.separator .documentStart
  else if c = '.' && atMargin && l.cursor.isSeparator then l.separator .documentEnd
  else if c = '[' then l.openFlow .flowSequenceStart
  else if c = '\x7b' then l.openFlow .flowMappingStart
  else if c = ']' then l.closeFlow .flowSequenceEnd
  else if c = '\x7d' then l.closeFlow .flowMappingEnd
  else if c = ',' then l.flowEntry
  else if c = '-' && alone then l.blockEntry
  else if c = '?' && (l.inFlow || alone) then l.key
  else if c = ':' && (l.inFlow || alone) then l.value
  else if c = '*' then l.content readAnchorName .alias
  else if c = '&' then l.content readAnchorName .anchor
  else if c = '!' then l.content readTag .tag
  else if c = '|' && !l.inFlow then l.block false
  else if c = '>' && !l.inFlow then l.block true
  else if c = '\x27' then l.content (readQuoted false) fun s => .scalar s false
  else if c = '\x22' then l.content (readQuoted true) fun s => .scalar s false
  else if l.beginsPlain c then l.plain
  else refuse

def step (l : Lexer) : Except Malformed (Lexer × Bool) := do
  let l := toNextToken (l.cursor.rest.length + 1) l
  let l ← l.dropStale
  let l := l.unwindTo l.cursor.column
  match l.cursor.peek with
  | none => do
    let l ← l.closeAll
    .ok (l.push .streamEnd, true)
  | some c => do
    let l ← l.token c
    .ok (l, false)

def settled (l : Lexer) : List Token :=
  let open_ := (l.candidates.filter fun c => !l.isStale c.2).map fun c => c.2.position
  l.tokens.toList.take (open_.foldl min l.tokens.size)

/-- The tokens up to the end, or up to what makes no sense. What is not settled by then is lost, as
nobody could have looked at it. -/
def run : (fuel : Nat) → Lexer → List Token
  | 0, l => l.settled ++ [.fault .grammar]
  | fuel + 1, l =>
    match l.step with
    | .error why => l.settled ++ [.fault why]
    | .ok (l, true) => l.tokens.toList
    | .ok (l, false) => run fuel l

end Lexer

def Token.scan (text : String) : List Token :=
  let chars := text.toList
  if !chars.all isAllowed then [.fault .grammar]
  else
    let cursor := Cursor.start chars
    let cursor := if cursor.peek = some byteOrderMark then cursor.next else cursor
    Lexer.run (chars.length + 2) { Lexer.start chars with cursor := cursor }

end ThemeLint.Yaml
