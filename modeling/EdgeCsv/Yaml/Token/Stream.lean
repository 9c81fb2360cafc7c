import EdgeCsv.Yaml.Token.BlockScalar
import EdgeCsv.Yaml.Token.Directive

/-!
# The tokens of a document

Tokens are read from left to right. Whether a word is a key is known only when the colon behind it
is met, so a token that may turn out to start a key is held back; a key sign, and where a mapping
starts the sign for that, are then put in front of it. A key and its colon stand on one line, at
most 1024 characters apart. Indentation is kept as margins: a margin is one more than the column of
a block collection, and zero outside of all of them.

`Token.stream` gives the tokens up to the end of the document or up to a fault. A token that is held
back when a fault is met is not among them.
-/

namespace EdgeCsv.Yaml.Token

/-- A word that may turn out to be a key. -/
structure Key where
  /-- Whether it has to be one, because it stands where a mapping goes on. -/
  required : Bool
  /-- The number of its first token. -/
  number : Nat
  /-- Where it starts. -/
  mark : Mark
  deriving DecidableEq, Repr

/-- The most characters from the start of a key to its colon. -/
def maxKeyLength : Nat := 1024

/-- Whether no colon behind a place can make the word a key any more. -/
def Key.isStale (k : Key) (m : Mark) : Bool :=
  k.mark.line < m.line || k.mark.index + maxKeyLength < m.index

/-- Where the reading of tokens stands. -/
structure State where
  /-- What is left to read. -/
  cursor : Cursor
  /-- The tokens that are free to go, last one first. -/
  released : List Token := []
  /-- The tokens that are held back. -/
  queue : List Token := []
  /-- How many tokens are free to go. -/
  count : Nat := 0
  /-- The word that may be a key, inside the innermost brackets. -/
  key : Option Key := none
  /-- The words that may be keys outside of the brackets, innermost first; one for each bracket. -/
  outerKeys : List (Option Key) := []
  /-- The margin of the innermost block collection. -/
  margin : Nat := 0
  /-- The margins of the block collections around it. -/
  outerMargins : List Nat := []
  /-- Whether a key may start here. -/
  keyAllowed : Bool := true
  /-- Whether the first token has been read. -/
  started : Bool := false
  /-- Whether the last token has been read. -/
  ended : Bool := false
  deriving DecidableEq, Repr

namespace State

/-- The place that the reading has come to. -/
def mark (s : State) : Mark :=
  s.cursor.mark

/-- Whether the reading is inside brackets. -/
def inFlow (s : State) : Bool :=
  !s.outerKeys.isEmpty

/-- Adds a token at the end. -/
def enqueue (s : State) (kind : Kind) (m : Mark) : State :=
  { s with queue := s.queue ++ [⟨kind, m⟩] }

/-- Adds a token in front of the one with a number. -/
def insert (s : State) (number : Nat) (kind : Kind) (m : Mark) : State :=
  let i := number - s.count
  { s with queue := s.queue.take i ++ ⟨kind, m⟩ :: s.queue.drop i }

/-- Adds a token of `n` characters that is read here. -/
def take (s : State) (kind : Kind) (n : Nat) : State :=
  { s.enqueue kind s.mark with cursor := s.cursor.skip n }

/-- Adds a token that was read from here up to `rest`. -/
def takeTo (s : State) (kind : Kind) (rest : Cursor) : State :=
  { s.enqueue kind s.mark with cursor := rest }

/-- Allows or forbids a key at the next token. -/
def allowKey (s : State) (allowed : Bool) : State :=
  { s with keyAllowed := allowed }

/-- The fault of a key that goes without a colon. -/
def missingColon (s : State) (k : Key) : Fault :=
  .within .simpleKey k.mark .noKeyColon s.mark

/-- Gives up the word that may be a key. -/
def dropKey (s : State) : Except Fault State :=
  match s.key with
  | none => .ok s
  | some k => if k.required then .error (s.missingColon k) else .ok { s with key := none }

/-- Notes that the next token may start a key. -/
def noteKey (s : State) : Except Fault State :=
  if !s.keyAllowed then .ok s
  else do
    let required := !s.inFlow && s.margin = s.mark.column + 1
    let s ← s.dropKey
    .ok { s with key := some ⟨required, s.count + s.queue.length, s.mark⟩ }

/-- Gives up one of the words that may be keys if that is out of reach by now. -/
def dropIfStale (s : State) : Option Key → Except Fault (Option Key)
  | none => .ok none
  | some k =>
    if !k.isStale s.mark then .ok (some k)
    else if k.required then .error (s.missingColon k)
    else .ok none

/-- Gives up all words that may be keys and are out of reach by now. -/
def dropStale (s : State) : Except Fault State := do
  let outerKeys ← s.outerKeys.mapM s.dropIfStale
  let key ← s.dropIfStale s.key
  .ok { s with key, outerKeys }

/-- Opens a block collection at a column, unless one is open there or further in. `number` is the
token that it starts in front of. -/
def openBlock (s : State) (column number : Nat) (kind : Kind) (m : Mark) : State :=
  if !s.inFlow && s.margin ≤ column then
    { s.insert number kind m with margin := column + 1, outerMargins := s.margin :: s.outerMargins }
  else s

/-- Opens a block collection here. -/
def openBlockHere (s : State) (kind : Kind) : State :=
  s.openBlock s.mark.column (s.count + s.queue.length) kind s.mark

/-- Closes the block collections whose margin is greater than `margin`; `margins` are those around
the innermost. -/
def closeBlocks (margin : Nat) (s : State) : List Nat → State
  | [] => s
  | outer :: margins =>
    if s.margin ≤ margin then s
    else
      closeBlocks margin
        { s.enqueue .blockEnd s.mark with margin := outer, outerMargins := margins } margins

/-- Closes the block collections that do not go on at a margin. Inside brackets indentation says
nothing. -/
def unroll (s : State) (margin : Nat) : State :=
  if s.inFlow then s else s.closeBlocks margin s.outerMargins

/-- Passes over blanks, comments and line ends. A tab is passed over only where no key may start. A
line end outside of brackets allows a key. -/
def skipBlanks (flow : Bool) : Bool → Bool → List Char → Mark → Bool × Cursor
  | _, allowed, [], m => (allowed, ⟨[], m⟩)
  | comment, allowed, c :: rest, m =>
    if isHalfBreak c rest then skipBlanks flow comment allowed rest m.passReturn
    else if isBreak c then skipBlanks flow false (allowed || !flow) rest (m.nextLine 1)
    else if comment || c = ' ' || (c = '\t' && (flow || !allowed)) ||
        (c = '\ufeff' && m.index = 0) then
      skipBlanks flow comment allowed rest m.next
    else if c = '#' then skipBlanks flow true allowed rest m.next
    else (allowed, ⟨c :: rest, m⟩)

/-- Goes to where the next token starts. -/
def toNextToken (s : State) : State :=
  let (keyAllowed, cursor) := skipBlanks s.inFlow false s.keyAllowed s.cursor.rest s.mark
  { s with keyAllowed, cursor }

/-- Reads the first token. -/
def start (s : State) : State :=
  { s.enqueue .streamStart s.mark with started := true }

/-- Reads the last token. It stands at the start of a line. -/
def finish (s : State) : Except Fault State := do
  let m := s.mark
  let m := if m.column = 0 then m else { m with line := m.line + 1, column := 0 }
  let s ← ({ s with cursor := ⟨[], m⟩ }.unroll 0).dropKey
  .ok { (s.allowKey false).enqueue .streamEnd m with ended := true }

/-- Reads a directive. -/
def directive (s : State) : Except Fault State := do
  let s := (← (s.unroll 0).dropKey).allowKey false
  let (kind, rest) ← Directive.scan s.cursor
  .ok (s.takeTo kind rest)

/-- Reads a line between documents. -/
def documentIndicator (s : State) (kind : Kind) : Except Fault State := do
  let s := (← (s.unroll 0).dropKey).allowKey false
  .ok (s.take kind 3)

/-- Reads an opening bracket. -/
def openFlow (s : State) (kind : Kind) : Except Fault State := do
  let s ← s.noteKey
  .ok ({ s with key := none, outerKeys := s.key :: s.outerKeys }.allowKey true |>.take kind 1)

/-- Reads a closing bracket. -/
def closeFlow (s : State) (kind : Kind) : Except Fault State := do
  let s ← s.dropKey
  let s :=
    match s.outerKeys with
    | [] => s
    | key :: outerKeys => { s with key, outerKeys }
  .ok ((s.allowKey false).take kind 1)

/-- Reads a comma between brackets. -/
def flowEntry (s : State) : Except Fault State := do
  .ok (((← s.dropKey).allowKey true).take .flowEntry 1)

/-- Reads a dash. -/
def blockEntry (s : State) : Except Fault State :=
  if !s.inFlow && !s.keyAllowed then .error (.bare .misplacedEntry s.mark)
  else do
    let s ← (s.openBlockHere .blockSequenceStart).dropKey
    .ok ((s.allowKey true).take .blockEntry 1)

/-- Reads a question mark. -/
def explicitKey (s : State) : Except Fault State :=
  if !s.inFlow && !s.keyAllowed then .error (.bare .misplacedKey s.mark)
  else do
    let s ← (s.openBlockHere .blockMappingStart).dropKey
    .ok ((s.allowKey !s.inFlow).take .key 1)

/-- Reads a colon. It makes a key of the word before it, or else stands for itself. -/
def value (s : State) : Except Fault State :=
  match s.key with
  | some k =>
    let s := s.insert k.number .key k.mark
    let s := s.openBlock k.mark.column k.number .blockMappingStart k.mark
    .ok (({ s with key := none }.allowKey false).take .value 1)
  | none =>
    if !s.inFlow && !s.keyAllowed then .error (.bare .misplacedValue s.mark)
    else
      let s := s.openBlockHere .blockMappingStart
      .ok ((s.allowKey !s.inFlow).take .value 1)

/-- Reads an alias or an anchor. -/
def anchor (s : State) (activity : Activity) (kind : List Char → Kind) : Except Fault State := do
  let s := (← s.noteKey).allowKey false
  let (name, rest) ← scanAnchor activity s.cursor
  .ok (s.takeTo (kind name) rest)

/-- Reads a tag. -/
def tag (s : State) : Except Fault State := do
  let s := (← s.noteKey).allowKey false
  let ((handle, suffix), rest) ← Tag.scan s.inFlow s.cursor
  .ok (s.takeTo (.tag handle suffix) rest)

/-- Reads a block scalar. -/
def blockScalar (s : State) (literal : Bool) : Except Fault State := do
  let s := (← s.dropKey).allowKey true
  let (text, rest) ← BlockScalar.scan literal s.margin s.cursor
  .ok (s.takeTo (.scalar text false) rest)

/-- Reads a quoted scalar. -/
def quotedScalar (s : State) (single : Bool) : Except Fault State := do
  let s := (← s.noteKey).allowKey false
  let (text, rest) ←
    FlowScalar.quoted single s.mark (.text .none) [] (s.cursor.rest.drop 1) s.mark.next
  .ok (s.takeTo (.scalar text false) rest)

/-- Reads a plain scalar. A line end behind it allows a key. -/
def plainScalar (s : State) : Except Fault State := do
  let s := (← s.noteKey).allowKey false
  let (text, newLine, rest) ←
    FlowScalar.plain s.inFlow s.margin s.mark .none [] s.cursor.rest s.mark
  .ok ((s.takeTo (.scalar text true) rest).allowKey newLine)

/-- A sign that cannot start a plain scalar. -/
def isIndicator (c : Char) : Bool :=
  c ∈ ['-', '?', ':', ',', '[', ']', '\x7b', '\x7d', '#', '&', '*', '!', '|', '>', '\'', '"', '%',
    '@', '\x60']

/-- Whether a plain scalar starts with `c`. A dash, and outside of brackets a question mark or a
colon, may start one if more of the word follows. -/
def startsPlain (flow : Bool) (c : Char) (next? : Option Char) : Bool :=
  !(isBlank c || isBreak c || isIndicator c) ||
    (c = '-' && !next?.any isBlank) ||
    (!flow && (c = '?' || c = ':') && !endsWord next?)

/-- Reads the token that starts here. -/
def token (s : State) : Except Fault State :=
  match s.cursor.rest with
  | [] => s.finish
  | c :: rest =>
    let flow := s.inFlow
    let lineStart := s.mark.column = 0
    let wordEnds := endsWord rest.head?
    if lineStart ∧ c = '%' then s.directive
    else if lineStart ∧ isDocumentIndicator '-' (c :: rest) then s.documentIndicator .documentStart
    else if lineStart ∧ isDocumentIndicator '.' (c :: rest) then s.documentIndicator .documentEnd
    else if c = '[' then s.openFlow .flowSequenceStart
    else if c = '\x7b' then s.openFlow .flowMappingStart
    else if c = ']' then s.closeFlow .flowSequenceEnd
    else if c = '\x7d' then s.closeFlow .flowMappingEnd
    else if c = ',' then s.flowEntry
    else if c = '-' ∧ wordEnds then s.blockEntry
    else if c = '?' ∧ (flow ∨ wordEnds) then s.explicitKey
    else if c = ':' ∧ (flow ∨ wordEnds) then s.value
    else if c = '*' then s.anchor .alias .alias
    else if c = '&' then s.anchor .anchor .anchor
    else if c = '!' then s.tag
    else if c = '|' ∧ !flow then s.blockScalar true
    else if c = '>' ∧ !flow then s.blockScalar false
    else if c = '\'' then s.quotedScalar true
    else if c = '"' then s.quotedScalar false
    else if startsPlain flow c rest.head? then s.plainScalar
    else .error (.within .nextToken s.mark .noToken s.mark)

/-- Reads the next token, and those that indentation makes. -/
def fetch (s : State) : Except Fault State :=
  if !s.started then .ok s.start
  else do
    let s ← s.toNextToken.dropStale
    (s.unroll (s.mark.column + 1)).token

/-- The number of the first token that may start a key. -/
def firstKey? (s : State) : Option Nat :=
  ((s.key :: s.outerKeys).filterMap fun k? => k?.map Key.number).min?

/-- Sets the tokens free that no key can start with. -/
def release (s : State) : State :=
  let n :=
    match s.firstKey? with
    | none => s.queue.length
    | some number => min s.queue.length (number - s.count)
  { s with
    released := (s.queue.take n).reverse ++ s.released
    queue := s.queue.drop n
    count := s.count + n }

/-- Gives up words that are out of reach, then sets tokens free. -/
def settle (s : State) : Except Fault State := do
  if s.queue = [] then .ok s else .ok (← s.dropStale).release

end State

/-- How far ahead of a token the text is read. -/
def lookAhead : Nat := 4

/-- Whether the reading has come so near to the end of what can be read that a fault behind it comes
up; `size` characters can be read. -/
def isNearEnd (size : Nat) (place : Place) : Bool :=
  match place with
  | .mark m => size < m.index + lookAhead
  | .offset _ => false

/-- Reads the next token of a source, or meets the fault behind what can be read of it. -/
def fetchFrom (source : Source) (size : Nat) (s : State) : Except Fault State :=
  match source.fault, s.fetch with
  | none, result => result
  | some fault, .ok s => if isNearEnd size (.mark s.mark) then .error fault else .ok s
  | some fault, .error f => .error (if isNearEnd size f.place then fault else f)

/-- Reads tokens to the end or up to a fault, at most `fuel` times. -/
def run (source : Source) (size : Nat) : Nat → State → List Token × Option Fault
  | 0, s => (s.released.reverse, none)
  | fuel + 1, s =>
    match s.settle with
    | .error f => (s.released.reverse, some f)
    | .ok s =>
      if s.ended then (s.released.reverse, none)
      else
        match fetchFrom source size s with
        | .error f => (s.released.reverse, some f)
        | .ok s => run source size fuel s

/-- The tokens of a source, and the fault behind them if they do not reach its end. Every token but
the first and the last takes at least one character, so the number of characters bounds the work. -/
def stream (source : Source) : List Token × Option Fault :=
  run source source.chars.length (source.chars.length + 3) { cursor := ⟨source.chars, {}⟩ }

end EdgeCsv.Yaml.Token
