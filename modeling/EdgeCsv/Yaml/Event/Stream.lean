import EdgeCsv.Yaml.Event
import EdgeCsv.Yaml.Fault
import EdgeCsv.Yaml.Token

/-!
# The events of a document

Tokens are turned into events by a machine with a stack: what is expected next, what behind that,
and so on outwards. One step looks at the first tokens, takes what belongs to one event, and says
what is expected instead. A value that is left out is told as an empty scalar.

`Event.stream` gives the events up to the end of the tokens, or up to a fault: one that the tokens
do not fit together, or the one that the tokens end with.
-/

namespace EdgeCsv.Yaml.Event

/-- What may come next. -/
inductive Expectation
  /-- The start of all. -/
  | stream
  /-- A document or the end; only the first document may go without a sign for its start. -/
  | document (first : Bool)
  /-- The content of a document behind the sign for its start. -/
  | content
  /-- The end of a document. -/
  | documentEnd
  /-- The content of a document that starts without a sign. -/
  | bareContent
  /-- The sign for the start of a collection, which has been told already. -/
  | opening (inside : Expectation)
  /-- An entry behind a dash, or the end of the sequence that starts at a place. -/
  | blockEntry (start : Mark)
  /-- An entry behind a dash that is not indented, or the end of the sequence. -/
  | indentlessEntry
  /-- A key, or the end of the mapping that starts at a place. -/
  | blockKey (start : Mark)
  /-- A value of the mapping that starts at a place. -/
  | blockValue (start : Mark)
  /-- An entry between square brackets, or the closing one. -/
  | flowEntry (start : Mark) (first : Bool)
  /-- The key of a single pair between square brackets. -/
  | pairKey
  /-- The value of a single pair. -/
  | pairValue
  /-- The end of a single pair. -/
  | pairEnd
  /-- A key between braces, or the closing one. -/
  | flowKey (start : Mark) (first : Bool)
  /-- A value between braces. -/
  | flowValue
  /-- A value between braces that is left out together with its colon. -/
  | flowNoValue
  deriving DecidableEq, Repr

/-- Where the telling stands. -/
structure State where
  /-- The tokens that are left. -/
  tokens : List Token
  /-- What comes up behind the tokens, unless they are all there are. -/
  fault : Option Fault
  /-- What is expected, innermost first. -/
  stack : List Expectation := [.stream]
  /-- The handles that the document has declared, and what they stand for. -/
  handles : List (Bytes × Bytes) := []
  deriving DecidableEq, Repr

/-- The fault of a token list that ends too early; a stream always ends with a token of its own. -/
def noMoreTokens : Fault :=
  .bare .noDocumentStart {}

/-- The handles that every document has. -/
def defaultHandles : List (Bytes × Bytes) :=
  [(Utf8.encode ['!'], Utf8.encode ['!']),
    (Utf8.encode ['!', '!'], Utf8.encode "tag:yaml.org,2002:".toList)]

namespace State

/-- The next token. -/
def peek (s : State) : Except Fault Token :=
  match s.tokens with
  | t :: _ => .ok t
  | [] => .error (s.fault.getD noMoreTokens)

/-- Takes the next token away. -/
def skip (s : State) : State :=
  { s with tokens := s.tokens.tail }

/-- Expects something more before the rest. -/
def push (s : State) (e : Expectation) : State :=
  { s with stack := e :: s.stack }

/-- A value that is left out. -/
def empty (s : State) (m : Mark) : Except Fault (Event × State) :=
  .ok (⟨.scalar {} [] true, m⟩, s)

/-- The tag that a handle and a suffix stand for. A tag without a handle stands for itself. -/
def resolveTag (s : State) (start : Mark) (handle suffix : Bytes) (m : Mark) :
    Except Fault Bytes :=
  if handle = [] then .ok suffix
  else
    match s.handles.lookup handle with
    | some lead => .ok (lead ++ suffix)
    | none => .error (.within .node start .undefinedTagHandle m)

/-- Reads an anchor, if there is one. -/
def anchor (s : State) : Except Fault (Option (List Char) × State) := do
  match (← s.peek).kind with
  | .anchor name => .ok (some name, s.skip)
  | _ => .ok (none, s)

/-- Reads a tag, if there is one: handle, suffix and where it starts. -/
def tag (s : State) : Except Fault (Option (Bytes × Bytes × Mark) × State) := do
  let t ← s.peek
  match t.kind with
  | .tag handle suffix => .ok (some (handle, suffix, t.mark), s.skip)
  | _ => .ok (none, s)

/-- Reads an anchor and a tag, in either order. -/
def properties (s : State) : Except Fault (Properties × State) := do
  let start := (← s.peek).mark
  let (anchor?, s) ← s.anchor
  let (tag?, s) ← s.tag
  let (anchor?, s) ← if anchor?.isNone && tag?.isSome then s.anchor else .ok (anchor?, s)
  match tag? with
  | none => .ok (⟨anchor?, none⟩, s)
  | some (handle, suffix, m) => .ok (⟨anchor?, some (← s.resolveTag start handle suffix m)⟩, s)

/-- The properties of a scalar: a bare exclamation mark is no tag. -/
def scalarProperties (p : Properties) : Properties :=
  if p.tag = some (Utf8.encode ['!']) then { p with tag := none } else p

/-- Reads the content of a node that starts at a place with properties. -/
def nodeContent (s : State) (block indentless : Bool) (start : Mark) (p : Properties) :
    Except Fault (Event × State) := do
  let t ← s.peek
  match t.kind with
  | .scalar text plain => .ok (⟨.scalar (scalarProperties p) text plain, start⟩, s.skip)
  | .flowSequenceStart =>
    .ok (⟨.sequenceStart p, start⟩, s.push (.opening (.flowEntry t.mark true)))
  | .flowMappingStart => .ok (⟨.mappingStart p, start⟩, s.push (.opening (.flowKey t.mark true)))
  | kind =>
    if indentless ∧ kind = .blockEntry then .ok (⟨.sequenceStart p, start⟩, s.push .indentlessEntry)
    else if block ∧ kind = .blockSequenceStart then
      .ok (⟨.sequenceStart p, start⟩, s.push (.opening (.blockEntry t.mark)))
    else if block ∧ kind = .blockMappingStart then
      .ok (⟨.mappingStart p, start⟩, s.push (.opening (.blockKey t.mark)))
    else if p.anchor.isSome ∨ p.tag.isSome then .ok (⟨.scalar p [] true, start⟩, s)
    else .error (.within (if block then .blockNode else .flowNode) start .noContent t.mark)

/-- Reads a node, outside of brackets if `block`. Behind a key, dashes need not be indented. -/
def node (s : State) (block indentless : Bool) : Except Fault (Event × State) := do
  let t ← s.peek
  match t.kind with
  | .alias name => .ok (⟨.alias name, t.mark⟩, s.skip)
  | _ =>
    let (p, s) ← s.properties
    s.nodeContent block indentless t.mark p

/-- Reads a node unless one of the tokens comes that show that it is left out; then it is told as
empty at `m`. -/
def nodeUnless (s : State) (stops : List Token.Kind) (m : Token → Mark)
    (read : State → Except Fault (Event × State)) : Except Fault (Event × State) := do
  let t ← s.peek
  if t.kind ∈ stops then s.empty (m t) else read s

/-- Reads directives: the handles that they declare, and whether a version was among them. -/
def directives : Nat → Bool → State → Except Fault State
  | 0, _, s => .ok s
  | fuel + 1, versioned, s => do
    let t ← s.peek
    match t.kind with
    | .versionDirective major minor =>
      if versioned then .error (.bare .duplicateVersion t.mark)
      else if major ≠ 1 ∨ (minor ≠ 1 ∧ minor ≠ 2) then .error (.bare .incompatibleVersion t.mark)
      else directives fuel true s.skip
    | .tagDirective handle lead =>
      if (s.handles.lookup handle).isSome then .error (.bare .duplicateTagDirective t.mark)
      else directives fuel versioned { s.skip with handles := s.handles ++ [(handle, lead)] }
    | _ => .ok { s with handles := s.handles ++ defaultHandles }

/-- Passes over signs for the end of a document. -/
def skipDocumentEnds (s : State) : State :=
  { s with tokens := s.tokens.dropWhile (·.kind = .documentEnd) }

/-- Reads the start of a document, or the end of all. -/
def document (first : Bool) (s : State) : Except Fault (Event × State) := do
  let s := if first then s else s.skipDocumentEnds
  let t ← s.peek
  match t.kind with
  | .streamEnd => .ok (⟨.streamEnd, t.mark⟩, s.skip)
  | .versionDirective .. | .tagDirective .. | .documentStart =>
    explicit s t.mark
  | _ =>
    if first then
      let s ← s.directives 1 false
      .ok (⟨.documentStart, t.mark⟩, (s.push .documentEnd).push .bareContent)
    else explicit s t.mark
where
  /-- Reads directives and the sign for the start of a document. -/
  explicit (s : State) (m : Mark) : Except Fault (Event × State) := do
    let s ← s.directives (s.tokens.length + 1) false
    let t ← s.peek
    if t.kind = .documentStart then
      .ok (⟨.documentStart, m⟩, (s.skip.push .documentEnd).push .content)
    else .error (.bare .noDocumentStart t.mark)

/-- Reads the end of a document, with a sign or without. -/
def documentEnd (s : State) : Except Fault (Event × State) := do
  let t ← s.peek
  let s := if t.kind = .documentEnd then s.skip else s
  .ok (⟨.documentEnd, t.mark⟩, { s with handles := [] }.push (.document false))

/-- Whether a token can only stand behind the content of a document. -/
def endsContent : Token.Kind → Bool
  | .versionDirective .. | .tagDirective .. | .documentStart | .documentEnd | .streamEnd => true
  | _ => false

/-- Reads the content of a document, which may be empty. -/
def content (s : State) : Except Fault (Event × State) := do
  let t ← s.peek
  if endsContent t.kind then s.empty t.mark else s.node true false

/-- Reads an entry of a block sequence, or its end. -/
def blockEntry (start : Mark) (s : State) : Except Fault (Event × State) := do
  let t ← s.peek
  match t.kind with
  | .blockEntry =>
    (s.skip.push (.blockEntry start)).nodeUnless [.blockEntry, .blockEnd] (fun _ => t.mark.next)
      (·.node true false)
  | .blockEnd => .ok (⟨.sequenceEnd, t.mark⟩, s.skip)
  | _ => .error (.within .blockCollection start .noEntry t.mark)

/-- Reads an entry of a block sequence that is not indented, or its end. -/
def indentlessEntry (s : State) : Except Fault (Event × State) := do
  let t ← s.peek
  match t.kind with
  | .blockEntry =>
    (s.skip.push .indentlessEntry).nodeUnless [.blockEntry, .key, .value, .blockEnd]
      (fun _ => t.mark.next) (·.node true false)
  | _ => .ok (⟨.sequenceEnd, t.mark⟩, s)

/-- Reads a key of a block mapping, or its end. -/
def blockKey (start : Mark) (s : State) : Except Fault (Event × State) := do
  let t ← s.peek
  match t.kind with
  | .key =>
    (s.skip.push (.blockValue start)).nodeUnless [.key, .value, .blockEnd] (fun _ => t.mark.next)
      (·.node true true)
  | .blockEnd => .ok (⟨.mappingEnd, t.mark⟩, s.skip)
  | _ => .error (.within .blockMapping start .noKey t.mark)

/-- Reads a value of a block mapping. -/
def blockValue (start : Mark) (s : State) : Except Fault (Event × State) := do
  let t ← s.peek
  let s' := s.push (.blockKey start)
  match t.kind with
  | .value =>
    s'.skip.nodeUnless [.key, .value, .blockEnd] (fun _ => t.mark.next) (·.node true true)
  | _ => s'.empty t.mark

/-- Takes the comma before an entry, which only the first goes without. -/
def comma (s : State) (first : Bool) (fault : Mark → Fault) : Except Fault State := do
  let t ← s.peek
  if first then .ok s
  else if t.kind = .flowEntry then .ok s.skip
  else .error (fault t.mark)

/-- Reads an entry between square brackets, or the closing one. An entry may be a single pair. -/
def flowEntry (start : Mark) (first : Bool) (s : State) : Except Fault (Event × State) := do
  let t ← s.peek
  if t.kind = .flowSequenceEnd then .ok (⟨.sequenceEnd, t.mark⟩, s.skip)
  else
    let s ← s.comma first (.within .flowSequence start .noSequenceComma)
    let t ← s.peek
    match t.kind with
    | .key =>
      .ok (⟨.mappingStart {}, t.mark⟩, (s.skip.push (.flowEntry start false)).push .pairKey)
    | .flowSequenceEnd => .ok (⟨.sequenceEnd, t.mark⟩, s.skip)
    | _ => (s.push (.flowEntry start false)).node false false

/-- Reads the key of a single pair. If it is left out, the token in its place is passed over. -/
def pairKey (s : State) : Except Fault (Event × State) := do
  let t ← s.peek
  let s := s.push .pairValue
  if t.kind ∈ [.value, .flowEntry, .flowSequenceEnd] then s.skip.empty t.mark.next
  else s.node false false

/-- Reads the value of a single pair. -/
def pairValue (s : State) : Except Fault (Event × State) := do
  let t ← s.peek
  let s := s.push .pairEnd
  if t.kind = .value then
    s.skip.nodeUnless [.flowEntry, .flowSequenceEnd] Token.mark (·.node false false)
  else s.empty t.mark

/-- Tells the end of a single pair. -/
def pairEnd (s : State) : Except Fault (Event × State) := do
  .ok (⟨.mappingEnd, (← s.peek).mark⟩, s)

/-- Reads a key between braces, or the closing one. -/
def flowKey (start : Mark) (first : Bool) (s : State) : Except Fault (Event × State) := do
  let t ← s.peek
  if t.kind = .flowMappingEnd then .ok (⟨.mappingEnd, t.mark⟩, s.skip)
  else
    let s ← s.comma first (.within .flowMapping start .noMappingComma)
    let t ← s.peek
    let behind := s.push (.flowKey start false)
    match t.kind with
    | .key =>
      (behind.skip.push .flowValue).nodeUnless [.value, .flowEntry, .flowMappingEnd] Token.mark
        (·.node false false)
    | .flowMappingEnd => .ok (⟨.mappingEnd, t.mark⟩, s.skip)
    | _ => (behind.push .flowNoValue).node false false

/-- Reads a value between braces. -/
def flowValue (s : State) : Except Fault (Event × State) := do
  let t ← s.peek
  if t.kind = .value then
    s.skip.nodeUnless [.flowEntry, .flowMappingEnd] Token.mark (·.node false false)
  else s.empty t.mark

/-- Meets an expectation: one event, and what is expected behind it. -/
def meet (s : State) : Expectation → Except Fault (Event × State)
  | .stream => do
    let t ← s.peek
    .ok (⟨.streamStart, t.mark⟩, s.skip.push (.document true))
  | .document first => s.document first
  | .content => s.content
  | .documentEnd => s.documentEnd
  | .bareContent => s.node true false
  | .opening inside => do
    let _ ← s.peek
    s.skip.meet inside
  | .blockEntry start => s.blockEntry start
  | .indentlessEntry => s.indentlessEntry
  | .blockKey start => s.blockKey start
  | .blockValue start => s.blockValue start
  | .flowEntry start first => s.flowEntry start first
  | .pairKey => s.pairKey
  | .pairValue => s.pairValue
  | .pairEnd => s.pairEnd
  | .flowKey start first => s.flowKey start first
  | .flowValue => s.flowValue
  | .flowNoValue => do s.empty (← s.peek).mark

/-- One step: meets the innermost expectation. -/
def step? (s : State) : Option (Except Fault (Event × State)) :=
  match s.stack with
  | [] => none
  | e :: stack => some ({ s with stack }.meet e)

end State

/-- Tells events until nothing is expected any more or a fault comes up, at most `fuel` of them. -/
def run : Nat → State → List Event × Option Fault
  | 0, _ => ([], none)
  | fuel + 1, s =>
    match s.step? with
    | none => ([], none)
    | some (.error f) => ([], some f)
    | some (.ok (event, s)) =>
      let (events, fault) := run fuel s
      (event :: events, fault)

/-- The events that tokens tell, and the fault behind them if they do not reach the end. Each token
makes for at most four events: its own, the end of a collection, and a key and a value left out. -/
def stream (tokens : List Token) (fault : Option Fault) : List Event × Option Fault :=
  run (4 * tokens.length + 4) { tokens, fault }

end EdgeCsv.Yaml.Event
