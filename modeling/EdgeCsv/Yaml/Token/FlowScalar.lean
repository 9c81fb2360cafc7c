import EdgeCsv.Yaml.Source

/-!
# Scalars that flow over lines

A plain or a quoted scalar may go over several lines. Blanks inside a line stay, blanks around a
line end go, one line end becomes a space, and of several line ends all but the first stay (`Gap`).
Characters are read one at a time; the carriage return of a two-character line end is passed over,
and the line feed behind it ends the line.
-/

namespace EdgeCsv.Yaml

/-- What lies between two words of a scalar. -/
inductive Gap
  | none
  /-- Blanks on one line, last one first. -/
  | blanks (read : List Char)
  /-- Line ends: the first, unless that was escaped, and the others, last one first. -/
  | lines (first : Option Char) (more : List Char)
  deriving DecidableEq, Repr

namespace Gap

/-- One more blank. -/
def blank (c : Char) : Gap → Gap
  | none => blanks [c]
  | blanks read => blanks (c :: read)
  | lines first more => lines first more

/-- One more line end. -/
def newline (c : Char) : Gap → Gap
  | none | blanks _ => lines (some (lineEnd c)) []
  | lines first more => lines first (lineEnd c :: more)

/-- What stands for the gap in the scalar, last character first. -/
def folded : Gap → List Char
  | none => []
  | blanks read => read
  | lines (some '\n') [] => [' ']
  | lines (some '\n') more => more
  | lines first more => more ++ first.toList

/-- Whether a line ended in the gap. -/
def hasLines : Gap → Bool
  | lines .. => true
  | _ => false

end Gap

/-- Whether this is the carriage return of a two-character line end. -/
def isHalfBreak (c : Char) (rest : List Char) : Bool :=
  c = '\r' && rest.head? = some '\n'

/-- The place behind the carriage return of a two-character line end. -/
def Mark.passReturn (m : Mark) : Mark :=
  { m with index := m.index + 1 }

namespace FlowScalar

/-- What an escape stands for. -/
inductive Escape
  | char (c : Char)
  /-- The code of a character, in this many hexadecimal digits. -/
  | code (digits : Nat)
  deriving DecidableEq, Repr

/-- The escapes by the character behind the backslash. -/
def escape? (c : Char) : Option Escape :=
  match c with
  | '0' => some (.char '\x00')
  | 'a' => some (.char '\x07')
  | 'b' => some (.char '\x08')
  | 't' | '\t' => some (.char '\t')
  | 'n' => some (.char '\n')
  | 'v' => some (.char '\x0b')
  | 'f' => some (.char '\x0c')
  | 'r' => some (.char '\r')
  | 'e' => some (.char '\x1b')
  | ' ' => some (.char ' ')
  | '"' => some (.char '"')
  | '/' => some (.char '/')
  | '\\' => some (.char '\\')
  | 'N' => some (.char '\x85')
  | '_' => some (.char '\xa0')
  | 'L' => some (.char '\u2028')
  | 'P' => some (.char '\u2029')
  | 'x' => some (.code 2)
  | 'u' => some (.code 4)
  | 'U' => some (.code 8)
  | _ => none

/-- The character of a code, if there is one. -/
def charOfCode? (n : Nat) : Option Char :=
  if n.isValidChar then some (Char.ofNat n) else none

/-- Where the reading of a quoted scalar stands. -/
inductive Mode
  /-- Behind a gap, or between two characters. -/
  | text (gap : Gap)
  /-- Before the second of two quotes that stand for one. -/
  | secondQuote
  /-- Behind the backslash at a place. -/
  | escape (backslash : Mark)
  /-- Before `left + 1` more digits of a code that starts at a place. -/
  | code (left value : Nat) (start : Mark)
  deriving DecidableEq, Repr

/-- Reads a quoted scalar behind its opening quote; `read` has been read before, last character
first. -/
def quoted (single : Bool) (start : Mark) :
    Mode → List Char → List Char → Mark → Except Fault (List Char × Cursor)
  | .text _, _, [], m => .error (.within .quotedScalar start .endInsideQuotes m)
  | .secondQuote, _, [], m => .error (.within .quotedScalar start .endInsideQuotes m)
  | .escape backslash, _, [], _ => .error (.within .quotedEscape start .unknownEscape backslash)
  | .code _ _ begin, _, [], _ => .error (.within .quotedEscape start .badHexadecimal begin)
  | .text gap, read, c :: rest, m =>
    if isHalfBreak c rest then quoted single start (.text gap) read rest m.passReturn
    else if isBlank c then quoted single start (.text (gap.blank c)) read rest m.next
    else if isBreak c then quoted single start (.text (gap.newline c)) read rest (m.nextLine 1)
    else if atDocumentIndicator (c :: rest) m then
      .error (.within .quotedScalar start .documentInsideQuotes m)
    else
      let read := gap.folded ++ read
      if c = (if single then '\'' else '"') then
        if single && rest.head? = some '\'' then quoted single start .secondQuote read rest m.next
        else .ok (read.reverse, ⟨rest, m.next⟩)
      else if !single && c = '\\' then quoted single start (.escape m) read rest m.next
      else quoted single start (.text .none) (c :: read) rest m.next
  | .secondQuote, read, c :: rest, m => quoted single start (.text .none) (c :: read) rest m.next
  | .escape backslash, read, c :: rest, m =>
    if isHalfBreak c rest then quoted single start (.escape backslash) read rest m.passReturn
    else if isBreak c then quoted single start (.text (.lines none [])) read rest (m.nextLine 1)
    else
      match escape? c with
      | none => .error (.within .quotedEscape start .unknownEscape backslash)
      | some (.char e) => quoted single start (.text .none) (e :: read) rest m.next
      | some (.code digits) => quoted single start (.code (digits - 1) 0 m.next) read rest m.next
  | .code left value begin, read, c :: rest, m =>
    match hexValue? c with
    | none => .error (.within .quotedEscape start .badHexadecimal begin)
    | some d =>
      let value := value * 16 + d
      match left with
      | left + 1 => quoted single start (.code left value begin) read rest m.next
      | 0 =>
        match charOfCode? value with
        | none => .error (.within .quotedEscape start .badCodePoint begin)
        | some e => quoted single start (.text .none) (e :: read) rest m.next

/-- A character that ends a plain scalar inside brackets. -/
def isFlowIndicator (c : Char) : Bool :=
  c ∈ [',', '[', ']', '\x7b', '\x7d']

/-- Whether a plain scalar cannot go on with `c` behind a gap: the line is not indented enough, a
line between documents starts, or a comment. -/
def endsBehindGap (flow : Bool) (margin : Nat) (c : Char) (rest : List Char) (m : Mark) : Bool :=
  (!flow && m.column < margin) || atDocumentIndicator (c :: rest) m || c = '#'

/-- Whether a plain scalar ends before `c`, at a colon that makes it a key or inside brackets. -/
def endsPlain (flow : Bool) (c : Char) (rest : List Char) : Bool :=
  (c = ':' && endsWord rest.head?) || (flow && isFlowIndicator c)

/-- Reads a plain scalar. The result has the text, whether a line ended behind it, and what is left;
`read` has been read before, last character first. -/
def plain (flow : Bool) (margin : Nat) (start : Mark) :
    Gap → List Char → List Char → Mark → Except Fault (List Char × Bool × Cursor)
  | gap, read, [], m => .ok (read.reverse, gap.hasLines, ⟨[], m⟩)
  | gap, read, c :: rest, m =>
    if isHalfBreak c rest then plain flow margin start gap read rest m.passReturn
    else if isBlank c then
      if gap.hasLines && m.column < margin && c = '\t' then
        .error (.within .plainScalar start .tabInPlain m)
      else plain flow margin start (gap.blank c) read rest m.next
    else if isBreak c then plain flow margin start (gap.newline c) read rest (m.nextLine 1)
    else if gap ≠ .none && endsBehindGap flow margin c rest m then
      .ok (read.reverse, gap.hasLines, ⟨c :: rest, m⟩)
    else if flow && c = ':' && rest.head?.any (fun d => d = '?' || isFlowIndicator d) then
      .error (.within .plainScalar start .colonInPlain m)
    else if endsPlain flow c rest then .ok (read.reverse, gap.hasLines, ⟨c :: rest, m⟩)
    else plain flow margin start .none (c :: (gap.folded ++ read)) rest m.next

end FlowScalar

end EdgeCsv.Yaml
