import EdgeCsv.Yaml.Character
import EdgeCsv.Yaml.Scalar

/-!
# Writing a text as a scalar

A text is written in one of four styles. A text of several lines is written as a literal block, a
text that would be read as something else in single quotes, and any other text plain. Where the
style cannot hold the text, the next stronger one is taken: single quotes for plain, double quotes
for all others. `Style.choose` decides by the characters and their neighbours, `Style.write` writes
the text behind the key of a mapping that is itself indented by two.
-/

namespace EdgeCsv.Yaml

/-- How a scalar is written. -/
inductive Style
  | plain
  | singleQuoted
  | doubleQuoted
  | literal
  deriving DecidableEq, Repr

namespace Style

/-- Whether two neighbours in the text belong to two classes. -/
def hasPair (first second : Char → Bool) : List Char → Bool
  | c :: d :: rest => (first c && second d) || hasPair first second (d :: rest)
  | _ => false

/-- A space; a tab is no space here. -/
def isSpace (c : Char) : Bool :=
  c = ' '

/-- A text that starts like a line between documents. -/
def startsLikeMarker : List Char → Bool
  | '-' :: '-' :: '-' :: _ => true
  | '.' :: '.' :: '.' :: _ => true
  | _ => false

/-- Whether a first character would be taken for an indicator. -/
def isFirstIndicator (c : Char) (next? : Option Char) : Bool :=
  c ∈ ['#', ',', '[', ']', '\x7b', '\x7d', '&', '*', '!', '|', '>', '\'', '"', '%', '@', '\x60'] ||
    (c ∈ ['?', ':', '-'] && endsWord next?)

/-- Whether a character behind `previous` would be taken for an indicator. -/
def hasLaterIndicator (previous : Char) : List Char → Bool
  | [] => false
  | c :: rest =>
    (c = ':' && endsWord rest.head?) || (c = '#' && endsWord (some previous)) ||
      hasLaterIndicator c rest

/-- Whether part of the text would be taken for an indicator. -/
def hasIndicator : List Char → Bool
  | [] => false
  | c :: rest =>
    startsLikeMarker (c :: rest) || isFirstIndicator c rest.head? || hasLaterIndicator c rest

/-- Whether the text can stand without quotes. -/
def fitsPlain (cs : List Char) : Bool :=
  !hasIndicator cs && cs.all isPrintable && !cs.any isBreak &&
    !cs.head?.any isSpace && !cs.getLast?.any isSpace

/-- Whether the text can stand in single quotes. -/
def fitsSingleQuoted (cs : List Char) : Bool :=
  cs.all isPrintable && !hasPair isBreak isSpace cs && !hasPair isSpace isBreak cs

/-- Whether the text can stand in a literal block. -/
def fitsLiteral (cs : List Char) : Bool :=
  cs.all isPrintable && !hasPair isSpace isBreak cs && !cs.getLast?.any isSpace

/-- Whether the text would be read as something else if it stood without quotes. -/
def isMisread (cs : List Char) : Bool :=
  match Scalar.ofPlain (String.ofList cs) with
  | .text _ => Scalar.isZeroLed cs
  | _ => true

/-- The style in which a text is written. -/
def choose (cs : List Char) : Style :=
  if '\n' ∈ cs then
    if fitsLiteral cs then .literal else .doubleQuoted
  else if !isMisread cs && fitsPlain cs then .plain
  else if fitsSingleQuoted cs then .singleQuoted
  else .doubleQuoted

/-- The indentation of a scalar that goes over several lines. -/
def margin : List Char := [' ', ' ', ' ', ' ']

/-- The text of a single-quoted scalar: quotes are doubled, and a new line is indented before its
first character, or before the closing quote. -/
def writeSingleQuoted (afterBreak : Bool) : List Char → List Char
  | [] => if afterBreak then margin else []
  | c :: rest =>
    if isBreak c then c :: writeSingleQuoted true rest
    else
      (if afterBreak then margin else []) ++ (if c = '\'' then ['\'', '\''] else [c]) ++
        writeSingleQuoted false rest

/-- Upper-case hexadecimal digits, at least `width` of them. -/
def hexadecimal (width n : Nat) : List Char :=
  let digits := (Nat.toDigits 16 n).map Char.toUpper
  List.replicate (width - digits.length) '0' ++ digits

/-- The escape of a character in double quotes. -/
def escape (c : Char) : List Char :=
  let n := c.toNat
  if n = 0x00 then ['\\', '0']
  else if n = 0x07 then ['\\', 'a']
  else if n = 0x08 then ['\\', 'b']
  else if n = 0x09 then ['\\', 't']
  else if n = 0x0A then ['\\', 'n']
  else if n = 0x0B then ['\\', 'v']
  else if n = 0x0C then ['\\', 'f']
  else if n = 0x0D then ['\\', 'r']
  else if n = 0x1B then ['\\', 'e']
  else if n = 0x22 then ['\\', '"']
  else if n = 0x5C then ['\\', '\\']
  else if n = 0x85 then ['\\', 'N']
  else if n = 0x2028 then ['\\', 'L']
  else if n = 0x2029 then ['\\', 'P']
  else if n ≤ 0xFF then '\\' :: 'x' :: hexadecimal 2 n
  else if n ≤ 0xFFFF then '\\' :: 'u' :: hexadecimal 4 n
  else '\\' :: 'U' :: hexadecimal 8 n

/-- One character in double quotes. -/
def writeDoubleQuotedChar (c : Char) : List Char :=
  if isPrintable c && !isBreak c && c ≠ '"' && c ≠ '\\' then [c] else escape c

/-- The indentation indicator of a literal block, needed if the text starts with a space or a line
end. -/
def indentIndicator (cs : List Char) : List Char :=
  if cs.head?.any fun c => isSpace c || isBreak c then ['2'] else []

/-- The indicator for the line ends at the end of a literal block: none belongs to the text, one, or
more than one. -/
def chompIndicator (cs : List Char) : List Char :=
  match cs.reverse with
  | [] => ['-']
  | c :: before =>
    if !isBreak c then ['-']
    else if before.head?.all isBreak then ['+']
    else []

/-- The lines of a literal block, each indented unless it is empty. -/
def writeLines (afterBreak : Bool) : List Char → List Char
  | [] => []
  | c :: rest =>
    if isBreak c then c :: writeLines true rest
    else (if afterBreak then margin else []) ++ c :: writeLines false rest

/-- A text in a style, with the line end behind it. -/
def write (cs : List Char) : Style → List Char
  | .plain => cs ++ ['\n']
  | .singleQuoted => '\'' :: writeSingleQuoted false cs ++ ['\'', '\n']
  | .doubleQuoted => '"' :: cs.flatMap writeDoubleQuotedChar ++ ['"', '\n']
  | .literal =>
    '|' :: indentIndicator cs ++ chompIndicator cs ++ '\n' :: writeLines true cs ++
      if cs.getLast?.any isBreak then [] else ['\n']

end Style

end EdgeCsv.Yaml
