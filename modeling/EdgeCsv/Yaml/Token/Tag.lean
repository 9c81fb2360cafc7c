import EdgeCsv.Text.Utf8
import EdgeCsv.Yaml.Source

/-!
# Anchors, aliases and tags

An anchor or an alias is a sign and a name. A tag is a handle and a suffix, or a whole URI between
angle brackets; octets of a URI may be written in hexadecimal. Handles, suffixes and URIs are byte
strings and end at a zero byte.
-/

namespace EdgeCsv.Yaml

/-- What may stand behind the name of an anchor, apart from the end of the word. -/
def endsName (c? : Option Char) : Bool :=
  endsWord c? || c?.any (· ∈ ['?', ':', ',', ']', '\x7d', '%', '@', '\x60'])

/-- Reads the name of an anchor or an alias, from its sign on. -/
def scanAnchor (activity : Activity) (cur : Cursor) : Except Fault (List Char × Cursor) :=
  let (name, rest) := (cur.skip 1).span isWord
  if name = [] ∨ !endsName rest.peek? then
    .error (.within activity cur.mark .noAnchorName rest.mark)
  else .ok (name, rest)

namespace Tag

/-- What a tag or a part of it is read for. -/
inductive Use
  | node
  | directive
  deriving DecidableEq, Repr

/-- What is being read when the URI of a tag is wrong. -/
def Use.uriActivity : Use → Activity
  | .node => .tagUri
  | .directive => .tagDirectiveUri

/-- What is being read when the handle of a tag does not start as it should. -/
def Use.handleActivity : Use → Activity
  | .node => .tag
  | .directive => .tagDirectiveHandle

/-- Reads a handle: an exclamation mark and, perhaps, a name and a second one. In a directive only
the bare mark may go without the second. -/
def scanHandle (use : Use) (start : Mark) (cur : Cursor) : Except Fault (List Char × Cursor) :=
  if cur.peek? ≠ some '!' then .error (.within use.handleActivity start .noTagMark cur.mark)
  else
    let (name, rest) := (cur.skip 1).span isWord
    if rest.peek? = some '!' then .ok ('!' :: name ++ ['!'], rest.skip 1)
    else if use = .directive ∧ name ≠ [] then
      .error (.within .tagDirectiveHandleEnd start .noTagMark rest.mark)
    else .ok ('!' :: name, rest)

/-- A character of a URI. Commas and brackets belong to it only where nothing else can follow. -/
def isUriChar (verbatim : Bool) (c : Char) : Bool :=
  isWord c ||
    c ∈ [';', '/', '?', ':', '@', '&', '=', '+', '$', '.', '%', '!', '~', '*', '\'', '(', ')'] ||
    (verbatim && c ∈ [',', '[', ']'])

/-- The octet that is written here as a percent sign and two digits. -/
def escapedOctet? : List Char → Option Nat
  | '%' :: a :: b :: _ => do some ((← hexValue? a) * 16 + (← hexValue? b))
  | _ => none

/-- How many octets follow the first octet of a character. -/
def following? (octet : Nat) : Option Nat :=
  if octet < 0x80 then some 0
  else if 0xC0 ≤ octet ∧ octet < 0xE0 then some 1
  else if 0xE0 ≤ octet ∧ octet < 0xF0 then some 2
  else if 0xF0 ≤ octet ∧ octet < 0xF8 then some 3
  else none

/-- Reads `n` more escaped octets of a character. -/
def scanFollowing (use : Use) (start : Mark) : Nat → Cursor → Except Fault (Bytes × Cursor)
  | 0, cur => .ok ([], cur)
  | n + 1, cur =>
    match escapedOctet? cur.rest with
    | none => .error (.within use.uriActivity start .noEscapedOctet cur.mark)
    | some octet =>
      if octet < 0x80 ∨ 0xC0 ≤ octet then
        .error (.within use.uriActivity start .badTrailingOctet cur.mark)
      else do
        let (octets, rest) ← scanFollowing use start n (cur.skip 3)
        .ok (octet.toUInt8 :: octets, rest)

/-- Reads a character that is written in escaped octets. -/
def scanEscaped (use : Use) (start : Mark) (cur : Cursor) : Except Fault (Bytes × Cursor) :=
  match escapedOctet? cur.rest with
  | none => .error (.within use.uriActivity start .noEscapedOctet cur.mark)
  | some octet =>
    match following? octet with
    | none => .error (.within use.uriActivity start .badLeadingOctet cur.mark)
    | some n => do
      let (octets, rest) ← scanFollowing use start n (cur.skip 3)
      .ok (octet.toUInt8 :: octets, rest)

/-- Reads the characters of a URI, at most as many as `fuel`. -/
def scanUriChars (use : Use) (verbatim : Bool) (start : Mark) :
    Nat → Cursor → Except Fault (Bytes × Cursor)
  | 0, cur => .ok ([], cur)
  | fuel + 1, cur =>
    match cur.rest with
    | [] => .ok ([], cur)
    | c :: _ =>
      if !isUriChar verbatim c then .ok ([], cur)
      else do
        let (octets, rest) ←
          if c = '%' then scanEscaped use start cur
          else .ok (String.utf8EncodeChar c, cur.skip 1)
        let (more, rest) ← scanUriChars use verbatim start fuel rest
        .ok (octets ++ more, rest)

/-- Reads a URI behind the `head` of it that was read as a handle. -/
def scanUri (use : Use) (verbatim : Bool) (head : List Char) (start : Mark) (cur : Cursor) :
    Except Fault (Bytes × Cursor) := do
  let (octets, rest) ← scanUriChars use verbatim start cur.rest.length cur
  if head = [] ∧ octets = [] then
    .error (.within use.uriActivity start .noTagUri rest.mark)
  else .ok ((Utf8.encode head.tail ++ octets).takeWhile (· ≠ 0), rest)

/-- Whether a handle has a name and so needs a suffix. -/
def isNamedHandle (handle : List Char) : Bool :=
  1 < handle.length && handle.getLast? = some '!'

/-- Reads a tag in one of its forms: the handle and the suffix. -/
def scanForm (cur : Cursor) : Except Fault ((Bytes × Bytes) × Cursor) := do
  let start := cur.mark
  if cur.peekAt? 1 = some '<' then
    let (uri, rest) ← scanUri .node true [] start (cur.skip 2)
    if rest.peek? = some '>' then .ok (([], uri), rest.skip 1)
    else .error (.within .tag start .noTagClose rest.mark)
  else
    let (handle, rest) ← scanHandle .node start cur
    if isNamedHandle handle then
      let (suffix, rest) ← scanUri .node false [] start rest
      .ok ((Utf8.encode handle, suffix), rest)
    else
      let (suffix, rest) ← scanUri .node false handle start rest
      if suffix = [] then .ok (([], Utf8.encode ['!']), rest)
      else .ok ((Utf8.encode ['!'], suffix), rest)

/-- Reads a tag and looks at what follows: the end of the word or, inside brackets, a comma. -/
def scan (flow : Bool) (cur : Cursor) : Except Fault ((Bytes × Bytes) × Cursor) := do
  let (tag, rest) ← scanForm cur
  if (flow && rest.peek? = some ',') || endsWord rest.peek? then .ok (tag, rest)
  else .error (.within .tag cur.mark .noWhitespaceOrBreak rest.mark)

end Tag

end EdgeCsv.Yaml
