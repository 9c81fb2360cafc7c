import EdgeCsv.Yaml.Character
import EdgeCsv.Yaml.Fault

/-!
# The text of a document

The text is taken in window by window. A window that holds a character which may not stand in a
document is not taken in at all; the fault comes up when reading gets to where that window starts.
-/

namespace EdgeCsv.Yaml

/-- The readable part of a text, and why reading stops behind it if that is not the end. -/
structure Source where
  /-- The characters that can be read. -/
  chars : List Char
  /-- What comes up behind them, unless the text ends there. -/
  fault : Option Fault := none
  deriving DecidableEq, Repr

namespace Source

/-- The number of bytes in a window. -/
def windowSize : Nat := 16384

/-- The most characters that fit into `room` bytes, and the rest. -/
def cut (room : Nat) : List Char → List Char × List Char
  | [] => ([], [])
  | c :: rest =>
    if room < c.utf8Size then ([], c :: rest)
    else
      let (window, behind) := cut (room - c.utf8Size) rest
      (c :: window, behind)

/-- The number of bytes of a text. -/
def byteCount (cs : List Char) : Nat :=
  cs.foldl (fun n c => n + c.utf8Size) 0

/-- Takes in windows up to the first that holds a forbidden character; `offset` bytes and `read`,
last character first, have been taken in before. -/
def takeIn : Nat → Nat → List Char → List Char → Source
  | 0, _, read, _ => ⟨read.reverse, none⟩
  | fuel + 1, offset, read, text =>
    if text = [] then ⟨read.reverse, none⟩
    else
      let (window, behind) := cut windowSize text
      let good := window.takeWhile isReadable
      if good.length < window.length then
        ⟨read.reverse, some ⟨.controlCharacter, .offset (offset + byteCount good), none⟩⟩
      else takeIn fuel (offset + byteCount window) (window.reverse ++ read) behind

/-- A text as it can be read. -/
def ofText (text : List Char) : Source :=
  if text.all isReadable then ⟨text, none⟩ else takeIn text.length 0 [] text

end Source

/-- What is left to read, and where that is. -/
structure Cursor where
  /-- The characters ahead. -/
  rest : List Char
  /-- The place of the first of them. -/
  mark : Mark
  deriving DecidableEq, Repr

namespace Cursor

/-- The next character. -/
def peek? (cur : Cursor) : Option Char :=
  cur.rest.head?

/-- The character `n` places ahead. -/
def peekAt? (cur : Cursor) (n : Nat) : Option Char :=
  cur.rest[n]?

/-- Passes over `n` characters that do not end a line. -/
def skip (cur : Cursor) (n : Nat) : Cursor where
  rest := cur.rest.drop n
  mark := cur.mark.advance n

/-- Reads characters of a class, none of which ends a line. -/
def span (p : Char → Bool) (cur : Cursor) : List Char × Cursor :=
  let taken := cur.rest.takeWhile p
  (taken, cur.skip taken.length)

/-- Passes over characters of a class, none of which ends a line. -/
def skipWhile (p : Char → Bool) (cur : Cursor) : Cursor :=
  (cur.span p).2

/-- Passes over a line end, if there is one. -/
def skipBreak (cur : Cursor) : Cursor :=
  match cur.rest with
  | '\r' :: '\n' :: rest => ⟨rest, cur.mark.nextLine 2⟩
  | c :: rest => if isBreak c then ⟨rest, cur.mark.nextLine 1⟩ else cur
  | [] => cur

/-- Passes over blanks and a comment, up to the line end. -/
def skipComment (cur : Cursor) : Cursor :=
  let cur := cur.skipWhile isBlank
  if cur.peek? = some '#' then cur.skipWhile fun c => !isBreak c else cur

end Cursor

/-- How a line end appears in a scalar: all but the line and paragraph separators as a line feed. -/
def lineEnd (c : Char) : Char :=
  if c = '\u2028' ∨ c = '\u2029' then c else '\n'

/-- Whether a line between documents starts here: three dashes or dots, and the end of the word. -/
def isDocumentIndicator (dot : Char) (rest : List Char) : Bool :=
  match rest with
  | a :: b :: c :: rest => a = dot && b = dot && c = dot && endsWord rest.head?
  | _ => false

/-- Whether this is a line between documents, at its start. -/
def atDocumentIndicator (rest : List Char) (m : Mark) : Bool :=
  m.column = 0 && (isDocumentIndicator '-' rest || isDocumentIndicator '.' rest)

end EdgeCsv.Yaml
