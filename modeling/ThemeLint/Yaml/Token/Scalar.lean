import ThemeLint.Yaml.Token.Name

/-!
Scalars of a YAML text: plain ones, those in quotes, and blocks. Inside a plain or quoted scalar a
single line break is a blank and of several the first is dropped; a block keeps its breaks or folds
them likewise between lines that start with no blank.
-/

set_option autoImplicit false

namespace ThemeLint.Yaml

def foldBreaks (first : Char) (more : List Char) : List Char :=
  if first ≠ '\n' then first :: more
  else if more = [] then [' ']
  else more

/-! Plain scalars. -/

def isFlowMark (c : Char) : Bool := ",[]\x7b\x7d".toList.contains c

def plainRun (flow : Bool) : List Char → List Char
  | [] => []
  | c :: cs =>
    if isBlank c then []
    else if c = ':' && (endOr isBlank cs.head? || (flow && cs.head?.any isFlowMark)) then []
    else if flow && (isFlowMark c || c = '?') then []
    else c :: plainRun flow cs

inductive Gap where
  | spaces (s : List Char)
  | lines (s : List Char)
  /-- Document separators end the scalar. -/
  | separator

def readBreaks : (fuel : Nat) → Cursor → Option (List Char) × Cursor
  | 0, c => (some [], c)
  | fuel + 1, c =>
    if c.peek = some ' ' then readBreaks fuel c.next
    else match c.lineBreak with
      | (none, c) => (some [], c)
      | (some b, c) =>
        if c.isSeparator then (none, c)
        else
          let (more, c) := readBreaks fuel c
          (more.map (b :: ·), c)

def readGap (c : Cursor) : Gap × Cursor :=
  let (spaces, c) := c.span (· == ' ')
  match c.lineBreak with
  | (none, c) => (.spaces spaces, c)
  | (some b, c) =>
    if c.isSeparator then (.separator, c)
    else match readBreaks (c.rest.length + 1) c with
      | (none, c) => (.separator, c)
      | (some more, c) => (.lines (foldBreaks b more), c)

/-- What is read of a plain scalar: its text, whether it ran over a line break at its end, and the
place behind it. -/
structure PlainScalar where
  text : List Char
  broken : Bool
  cursor : Cursor

def readPlainFrom (flow : Bool) (indent : Int) (gap : List Char) (broken : Bool) :
    (fuel : Nat) → Cursor → PlainScalar
  | 0, c => ⟨[], broken, c⟩
  | fuel + 1, c =>
    let run := if c.peek = some '#' then [] else plainRun flow c.rest
    if run = [] then ⟨[], broken, c⟩
    else
      let more (gap : List Char) (broken : Bool) (c : Cursor) : PlainScalar :=
        if gap = [] || c.peek = some '#' || (!flow && (c.column : Int) < indent) then ⟨[], broken, c⟩
        else readPlainFrom flow indent gap broken fuel c
      let r := match readGap (c.skip run.length) with
        | (.spaces s, c) => more s false c
        | (.lines s, c) => more s true c
        | (.separator, c) => ⟨[], true, c⟩
      ⟨gap ++ run ++ r.text, r.broken, r.cursor⟩

def readPlain (flow : Bool) (indent : Int) (c : Cursor) : PlainScalar :=
  readPlainFrom flow (indent + 1) [] false (c.rest.length + 1) c

/-! Scalars in quotes. -/

def escapeOf? : Char → Option Char
  | '0' => some '\x00'
  | 'a' => some '\x07'
  | 'b' => some '\x08'
  | 't' => some '\t'
  | '\t' => some '\t'
  | 'n' => some '\n'
  | 'v' => some '\x0b'
  | 'f' => some '\x0c'
  | 'r' => some '\r'
  | 'e' => some '\x1b'
  | ' ' => some ' '
  | '\x22' => some '\x22'
  | '\\' => some '\\'
  | '/' => some '/'
  | 'N' => some '\x85'
  | '_' => some '\xa0'
  | 'L' => some '\u2028'
  | 'P' => some '\u2029'
  | _ => none

def escapeWidth? : Char → Option Nat
  | 'x' => some 2
  | 'u' => some 4
  | 'U' => some 8
  | _ => none

def codeLimit : Nat := 0x7fffffff

def pointOf (code : Nat) : Except Malformed CodePoint :=
  if codeLimit < code then .error .codeTooLarge
  else if 0x10ffff < code then .error .noSuchCharacter
  else if h : code - 0xd800 < 0x800 then
    .ok (if code < 0xd800 then .char (Char.ofNat code) else .half ⟨code - 0xd800, h⟩)
  else .ok (.char (Char.ofNat code))

def readQuotedBreaks : (fuel : Nat) → Reader (List Char)
  | 0, c => .ok ([], c)
  | fuel + 1, c =>
    if c.isSeparator then refuse
    else match (c.skipWhile isSpaceOrTab).lineBreak with
      | (none, c) => .ok ([], c)
      | (some b, c) => do
        let (more, c) ← readQuotedBreaks fuel c
        .ok (b :: more, c)

/-- Blanks inside quotes: kept within a line, folded around breaks. -/
def readQuotedBlanks : Reader (List Char) := fun c =>
  let (blanks, c) := c.span isSpaceOrTab
  match c.peek, c.lineBreak with
  | none, _ => refuse
  | _, (none, c) => .ok (blanks, c)
  | _, (some b, c) => do
    let (more, c) ← readQuotedBreaks (c.rest.length + 1) c
    .ok (foldBreaks b more, c)

/-- An escape behind its backslash. One at the end of a line joins it to the next. -/
def readEscape : Reader (List CodePoint) := fun c =>
  match c.peek with
  | none => refuse
  | some e =>
    match escapeOf? e, escapeWidth? e with
    | some ch, _ => .ok ([.char ch], c.next)
    | none, some width => do
      let digits := (c.next.rest.take width).filter Text.isHexDigit
      if digits.length < width then refuse
      else do
        let x ← pointOf (Numeral.valueOf 16 digits)
        .ok ([x], c.next.skip width)
    | none, none =>
      if isBreak e then do
        let (s, c) ← readQuotedBreaks (c.rest.length + 1) c.lineBreak.2
        .ok (s.map .char, c)
      else refuse

def isPlainInQuotes (c : Char) : Bool := !(isBlank c || c == '\x27' || c == '\x22' || c == '\\')

def readQuotedFrom (double : Bool) : (fuel : Nat) → Reader (List CodePoint)
  | 0, _ => refuse
  | fuel + 1, c => do
    let go (s : List CodePoint) (c : Cursor) : Except Malformed (List CodePoint × Cursor) := do
      let (more, c) ← readQuotedFrom double fuel c
      .ok (s ++ more, c)
    match c.rest with
    | [] => refuse
    | '\x27' :: rest =>
      if double then go [.char '\x27'] c.next
      else if rest.head? = some '\x27' then go [.char '\x27'] (c.skip 2)
      else .ok ([], c.next)
    | '\x22' :: _ => if double then .ok ([], c.next) else go [.char '\x22'] c.next
    | '\\' :: _ =>
      if double then do
        let (s, c) ← readEscape c.next
        go s c
      else go [.char '\\'] c.next
    | ch :: _ =>
      if isBlank ch then do
        let (s, c) ← readQuotedBlanks c
        go (s.map .char) c
      else
        let (s, c) := c.span isPlainInQuotes
        go (s.map .char) c

def readQuoted (double : Bool) : Reader WideText := fun c => do
  let (s, c) ← readQuotedFrom double (c.rest.length + 1) c.next
  .ok (⟨s⟩, c)

/-! Block scalars. -/

inductive Chomping where
  | strip
  | clip
  | keep
  deriving DecidableEq, Repr

def chomping? : Option Char → Option Chomping
  | some '+' => some .keep
  | some '-' => some .strip
  | _ => none

def depth? : Option Char → Option Nat
  | some c => if Text.isAsciiDigit c then some (c.toNat - 48) else none
  | none => none

structure BlockHead where
  chomping : Chomping
  depth : Option Nat

/-- The marks behind the bar or angle of a block, in either order, and the rest of the line. -/
def readBlockHead : Reader BlockHead := fun c =>
  let (ch, depth, c) :=
    match chomping? c.peek with
    | some ch =>
      match depth? c.next.peek with
      | some d => (ch, some d, c.skip 2)
      | none => (ch, none, c.next)
    | none =>
      match depth? c.peek with
      | some d =>
        match chomping? c.next.peek with
        | some ch => (ch, some d, c.skip 2)
        | none => (.clip, some d, c.next)
      | none => (.clip, none, c)
  if depth = some 0 || !endOr isBreakOrSpace c.peek then refuse
  else match c.restOfLine? with
    | some c => .ok (⟨ch, depth⟩, c)
    | none => refuse

/-- The breaks before the first line of a block, and the deepest column met on the way. -/
def readBlockIndent (deepest : Nat) : (fuel : Nat) → Cursor → List Char × Nat × Cursor
  | 0, c => ([], deepest, c)
  | fuel + 1, c =>
    if c.peek = some ' ' then readBlockIndent (max deepest c.next.column) fuel c.next
    else match c.lineBreak with
      | (none, c) => ([], deepest, c)
      | (some b, c) =>
        let (more, deepest, c) := readBlockIndent deepest fuel c
        (b :: more, deepest, c)

def skipToColumn (column : Int) (c : Cursor) : Cursor :=
  c.skip ((c.rest.take (column - c.column).toNat).takeWhile (· == ' ')).length

def readBlockBreaks (indent : Int) : (fuel : Nat) → Cursor → List Char × Cursor
  | 0, c => ([], c)
  | fuel + 1, c =>
    match (skipToColumn indent c).lineBreak with
    | (none, c) => ([], c)
    | (some b, c) =>
      let (more, c) := readBlockBreaks indent fuel c
      (b :: more, c)

/-- The lines of a block, each behind the breaks before it; at the end what chomping decides on: the
last line's own break and the breaks behind it. -/
def readBlockLines (folded : Bool) (indent : Int) (breaks : List Char) :
    (fuel : Nat) → Cursor → List Char × Option Char × List Char × Cursor
  | 0, c => ([], none, breaks, c)
  | fuel + 1, c =>
    if (c.column : Int) ≠ indent || c.peek = none then ([], none, breaks, c)
    else
      let flush := !c.peek.any isSpaceOrTab
      let (line, c) := c.span (!isBreak ·)
      let (own, c) := c.lineBreak
      let (after, c) := readBlockBreaks indent (c.rest.length + 1) c
      if (c.column : Int) = indent && c.peek ≠ none then
        let joint :=
          if folded && own = some '\n' && flush && !c.peek.any isSpaceOrTab then
            if after = [] then [' '] else []
          else own.toList
        let (more, last, tail, c) := readBlockLines folded indent after fuel c
        (breaks ++ line ++ joint ++ more, last, tail, c)
      else (breaks ++ line, own, after, c)

def readBlock (folded : Bool) (indent : Int) : Reader String := fun c => do
  let (head, c) ← readBlockHead c.next
  let least := max (indent + 1) 1
  let (breaks, indent, c) :=
    match head.depth with
    | none =>
      let (breaks, deepest, c) := readBlockIndent 0 (c.rest.length + 1) c
      (breaks, max least deepest, c)
    | some d =>
      let indent := least + d - 1
      let (breaks, c) := readBlockBreaks indent (c.rest.length + 1) c
      (breaks, indent, c)
  let (text, last, tail, c) := readBlockLines folded indent breaks (c.rest.length + 1) c
  let ending := match head.chomping with
    | .strip => []
    | .clip => last.toList
    | .keep => last.toList ++ tail
  .ok (String.ofList (text ++ ending), c)

end ThemeLint.Yaml
