import EdgeCsv.Yaml.Token.FlowScalar

/-!
# Scalars in a block

A block scalar starts with a header: `|` to keep its lines or `>` to fold them, perhaps how far the
text is indented, and what becomes of the line ends at its end. The text is the lines behind it that
are indented so far; if the header does not say how far, the first line that is not empty does.
-/

namespace EdgeCsv.Yaml.BlockScalar

/-- What becomes of the line ends at the end of the text. -/
inductive Chomping
  /-- None of them belongs to the text. -/
  | strip
  /-- The first of them does. -/
  | clip
  /-- All of them do. -/
  | keep
  deriving DecidableEq, Repr

/-- What a header says. -/
structure Header where
  /-- Whether the lines are kept. -/
  literal : Bool
  /-- What becomes of the line ends at the end. -/
  chomping : Chomping := .clip
  /-- How much further the text is indented than what it stands in. -/
  increment : Option Nat := none
  deriving DecidableEq, Repr

/-- The chomping that a sign stands for. -/
def chomping? : Option Char → Option Chomping
  | some '-' => some .strip
  | some '+' => some .keep
  | _ => none

/-- Reads an indentation indicator, if there is one. -/
def increment (start : Mark) (cur : Cursor) : Except Fault (Option Nat × Cursor) :=
  match cur.peek? with
  | some c =>
    if c = '0' then .error (.within .blockScalar start .zeroIndentation cur.mark)
    else if c.isDigit then .ok (some (c.toNat - '0'.toNat), cur.skip 1)
    else .ok (none, cur)
  | none => .ok (none, cur)

/-- Reads the indicators of a header, which come in either order. -/
def indicators (literal : Bool) (start : Mark) (cur : Cursor) : Except Fault (Header × Cursor) :=
  match chomping? cur.peek? with
  | some chomping => do
    let (n, cur) ← increment start (cur.skip 1)
    .ok (⟨literal, chomping, n⟩, cur)
  | none => do
    let (n, cur) ← increment start cur
    match n, chomping? cur.peek? with
    | some _, some chomping => .ok (⟨literal, chomping, n⟩, cur.skip 1)
    | _, _ => .ok (⟨literal, .clip, n⟩, cur)

/-- Reads a header, from its sign to the start of the next line. -/
def header (literal : Bool) (cur : Cursor) : Except Fault (Header × Cursor) := do
  let start := cur.mark
  let (header, cur) ← indicators literal start (cur.skip 1)
  let cur := cur.skipComment
  if endsLine cur.peek? then .ok (header, cur.skipBreak)
  else .error (.within .blockScalar start .noBlockHeaderEnd cur.mark)

/-- Where the reading of the lines stands. -/
structure Lines where
  /-- How far the text is indented, once that is known. -/
  indent : Option Nat
  /-- The most spaces that an empty line had so far. -/
  widest : Nat := 0
  /-- Whether the reading is inside a line of the text. -/
  inLine : Bool := false
  /-- The line end of the last line of the text. -/
  first : Option Char := none
  /-- The line ends of the empty lines behind it, last one first. -/
  more : List Char := []
  /-- Whether the last line of the text started with a blank. -/
  afterBlank : Bool := false
  /-- The text so far, last character first. -/
  read : List Char := []
  deriving DecidableEq, Repr

namespace Lines

/-- Whether a place is in the indentation, as far as that is known. -/
def isIndentation (s : Lines) (m : Mark) : Bool :=
  s.indent.all fun n => m.column < n

/-- How far the text is indented; `margin` is the least that it can be. -/
def indentation (s : Lines) (margin : Nat) : Nat :=
  s.indent.getD (max s.widest (max margin 1))

/-- One more space of indentation, at a place. -/
def space (s : Lines) (m : Mark) : Lines :=
  { s with widest := max s.widest (m.column + 1) }

/-- One more empty line. -/
def emptyLine (s : Lines) (c : Char) : Lines :=
  { s with more := lineEnd c :: s.more }

/-- The end of a line of the text. -/
def endLine (s : Lines) (c : Char) : Lines :=
  { s with inLine := false, first := some (lineEnd c) }

/-- One more character of a line. -/
def char (s : Lines) (c : Char) : Lines :=
  { s with read := c :: s.read }

/-- What stands for the line ends before a line that starts with `c`, last character first. Between
two lines that do not start with blanks, folding makes one line end a space. -/
def between (s : Lines) (literal : Bool) (c : Char) : List Char :=
  if !literal && s.first = some '\n' && !s.afterBlank && !isBlank c then
    if s.more = [] then [' '] else s.more
  else s.more ++ s.first.toList

/-- The start of a line, with its first character. -/
def startLine (s : Lines) (literal : Bool) (indent : Nat) (c : Char) : Lines where
  indent := some indent
  widest := s.widest
  inLine := true
  first := none
  more := []
  afterBlank := isBlank c
  read := c :: (s.between literal c ++ s.read)

/-- The text at the end. -/
def text (s : Lines) (chomping : Chomping) : List Char :=
  let ends :=
    match chomping with
    | .strip => []
    | .clip => s.first.toList
    | .keep => s.more ++ s.first.toList
  (ends ++ s.read).reverse

end Lines

/-- Reads the lines of the text, up to the first character that is not indented enough. -/
def lines (literal : Bool) (margin : Nat) (start : Mark) :
    Lines → List Char → Mark → Except Fault (Lines × Cursor)
  | s, [], m => .ok (s, ⟨[], m⟩)
  | s, c :: rest, m =>
    if isHalfBreak c rest then lines literal margin start s rest m.passReturn
    else if s.inLine then
      if isBreak c then lines literal margin start (s.endLine c) rest (m.nextLine 1)
      else lines literal margin start (s.char c) rest m.next
    else if s.isIndentation m && c = ' ' then lines literal margin start (s.space m) rest m.next
    else if s.isIndentation m && c = '\t' then
      .error (.within .blockScalar start .tabInIndentation m)
    else if isBreak c then lines literal margin start (s.emptyLine c) rest (m.nextLine 1)
    else if m.column = s.indentation margin then
      lines literal margin start (s.startLine literal (s.indentation margin) c) rest m.next
    else .ok (s, ⟨c :: rest, m⟩)

/-- Reads a block scalar; `margin` is one more than the indentation of what it stands in, or zero
outside of everything. -/
def scan (literal : Bool) (margin : Nat) (cur : Cursor) : Except Fault (List Char × Cursor) := do
  let (header, body) ← header literal cur
  let indent := header.increment.map (margin - 1 + ·)
  let (s, rest) ← lines literal margin cur.mark { indent } body.rest body.mark
  .ok (s.text header.chomping, rest)

end EdgeCsv.Yaml.BlockScalar
