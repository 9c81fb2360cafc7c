import EdgeCsv.Yaml.Error
import EdgeCsv.Yaml.Event.Stream
import EdgeCsv.Yaml.Token.Stream

/-!
# Documents

A document is a list of items with aliases resolved to where their anchors are. Anchors are
numbered: one gets as its number how many names were in use when it was met, so a name that is used
again gets a new number, which the next new name then shares. An alias leads to the last anchor with
its number.

A text may break off in the middle of a document. The items up to there are kept, together with the
reason, which comes up only if reading gets there.
-/

namespace EdgeCsv.Yaml

/-- A piece of a document. -/
inductive Item
  | alias (number : Nat)
  | scalar (tag : Option Bytes) (text : List Char) (plain : Bool)
  | sequenceStart
  | sequenceEnd
  | mappingStart
  | mappingEnd
  /-- A document with nothing in it at all. -/
  | void
  deriving DecidableEq, Repr

/-- Pieces of a document and where they start. -/
abbrev Items := List (Item × Mark)

/-- A document. -/
structure Document where
  /-- Its pieces. -/
  items : Items
  /-- The number of items before the one that an anchor is at, by the number of the anchor. -/
  targets : List (Nat × Nat) := []
  /-- Why the items end before the document does. -/
  error : Option Error := none
  deriving DecidableEq, Repr

namespace Document

/-- A document as far as it has been put together. -/
structure Draft where
  /-- The items, last one first. -/
  items : Items := []
  /-- How many they are. -/
  size : Nat := 0
  /-- The names in use and their numbers, latest first. -/
  names : List (List Char × Nat) := []
  /-- How many different names are in use. -/
  nameCount : Nat := 0
  /-- The items that anchors are at, latest first. -/
  targets : List (Nat × Nat) := []
  deriving DecidableEq, Repr

namespace Draft

/-- One more item. -/
def add (d : Draft) (item : Item) (m : Mark) : Draft :=
  { d with items := (item, m) :: d.items, size := d.size + 1 }

/-- Notes the anchor of the next item. -/
def note (d : Draft) (p : Properties) : Draft :=
  match p.anchor with
  | none => d
  | some name =>
    let isNew := (d.names.lookup name).isNone
    { d with
      names := (name, d.nameCount) :: d.names
      nameCount := if isNew then d.nameCount + 1 else d.nameCount
      targets := (d.nameCount, d.size) :: d.targets }

/-- The document, broken off for a reason or complete. -/
def finish (d : Draft) (error : Option Error) : Document where
  items := d.items.reverse
  targets := d.targets
  error := error

end Draft

/-- Puts a document together, and gives the events behind it. Without a document the events end. -/
def gather (fault : Option Fault) : Draft → List Event → Document × List Event
  | d, [] => (d.finish (fault.map .fault), [])
  | d, ⟨kind, m⟩ :: rest =>
    match kind with
    | .streamStart | .documentStart => gather fault d rest
    | .streamEnd => ((if d.items = [] then d.add .void m else d).finish none, [⟨.streamEnd, m⟩])
    | .documentEnd => (d.finish none, rest)
    | .alias name =>
      match d.names.lookup name with
      | some number => gather fault (d.add (.alias number) m) rest
      | none => (d.finish (some (.unknownAnchor m)), rest)
    | .scalar p text plain => gather fault ((d.note p).add (.scalar p.tag text plain) m) rest
    | .sequenceStart p => gather fault ((d.note p).add .sequenceStart m) rest
    | .sequenceEnd => gather fault (d.add .sequenceEnd m) rest
    | .mappingStart p => gather fault ((d.note p).add .mappingStart m) rest
    | .mappingEnd => gather fault (d.add .mappingEnd m) rest

/-- Whether nothing but the end follows. -/
def isEnd : List Event → Bool
  | ⟨.streamEnd, _⟩ :: _ => true
  | _ => false

/-- The first document of a text, and whether another one follows it. -/
def ofText (text : String) : Document × Bool :=
  let (tokens, fault) := Token.stream (Source.ofText text.toList)
  let (events, fault) := Event.stream tokens fault
  let (doc, rest) := gather fault {} events
  (doc, !isEnd rest)

/-- What comes up behind the items. -/
def exhausted (doc : Document) : Error :=
  doc.error.getD .endOfDocument

/-- The items from the one on that an alias leads to. -/
def target (doc : Document) (number : Nat) : Items :=
  doc.items.drop ((doc.targets.lookup number).getD doc.items.length)

/-- Reads one thing where an alias leads to and goes on behind the alias, or reads it here. -/
def followAlias {α : Type} (doc : Document) (items : Items)
    (read : Items → Except Error (α × Items)) : Except Error (α × Items) :=
  match items with
  | (.alias number, _) :: rest => (read (doc.target number)).map fun (a, _) => (a, rest)
  | _ => read items

/-- Passes over one thing with all that is in it; `depth` collections have been entered. -/
def skip (doc : Document) : Nat → Items → Except Error Items
  | _, [] => .error doc.exhausted
  | depth, (item, _) :: rest =>
    match item with
    | .sequenceStart | .mappingStart => skip doc (depth + 1) rest
    | .sequenceEnd | .mappingEnd => if depth ≤ 1 then .ok rest else skip doc (depth - 1) rest
    | .alias _ | .scalar .. | .void => if depth = 0 then .ok rest else skip doc depth rest

end Document

/-- The beginning of the tags that the language itself defines. -/
def coreTag (name : String) : Bytes :=
  Bytes.ofString ("tag:yaml.org,2002:" ++ name)

/-- A text that is not of the kind that its tag says. -/
def checked {α : Type} (text : String) (expected : String) (a? : Option α) (f : α → Scalar) :
    Except Complaint Scalar :=
  match a? with
  | some a => .ok (f a)
  | none => .error (.invalidValue text expected)

/-- The meaning of a scalar. A tag of the language decides, and the text has to fit; any other tag
of the document's own leaves it to the text, and all else is a text. -/
def meaning (tag : Option Bytes) (text : String) (plain : Bool) : Except Complaint Scalar :=
  match tag with
  | none => .ok (if plain then .ofPlain text else .text text)
  | some tag =>
    if tag = coreTag "bool" then checked text "a boolean" (Scalar.bool? text) .bool
    else if tag = coreTag "int" then
      checked text "an integer" (Scalar.integer? text.toList) .integer
    else if tag = coreTag "float" then checked text "a float" (Scalar.number? text) .number
    else if tag = coreTag "null" then
      checked text "null" (if Scalar.isNull text then some () else none) fun _ => .null
    else if plain ∧ tag.head? = some 33 then .ok (.ofPlain text)
    else .ok (.text text)

/-- The complaint about an item that is not what was asked for. -/
def Item.complaint (expected : String) : Item → Complaint
  | .scalar tag text plain =>
    match meaning tag (String.ofList text) plain with
    | .ok s => .invalidType (.scalar s) expected
    | .error c => c
  | .mappingStart => .invalidType .mapping expected
  | _ => .invalidType .sequence expected

/-- Whether a value is there, or a null stands in its place. -/
def Item.isPresent : Item → Except Complaint Bool
  | .scalar tag text plain =>
    let null := Scalar.isNull (String.ofList text)
    if !plain then .ok true
    else
      match tag with
      | none => .ok (text ≠ [] && !null)
      | some tag =>
        if tag ≠ coreTag "null" then .ok true
        else if null then .ok false
        else .error (.invalidValue (String.ofList text) "null")
  | .void => .ok false
  | _ => .ok true

namespace Document

/-- Reads a text: any scalar, whatever its kind. -/
def readText (doc : Document) (expected : String) (trail : Trail) (items : Items) :
    Except Error (String × Items) :=
  doc.followAlias items fun
    | [] => .error doc.exhausted
    | (.scalar _ text _, _) :: rest => .ok (String.ofList text, rest)
    | (.void, _) :: _ => .error .endOfDocument
    | (item, m) :: _ => .error (.refused (item.complaint expected) (some (m, trail)))

/-- Reads a value that may be missing. -/
def readOption {α : Type} (doc : Document) (read : Items → Except Error (α × Items))
    (items : Items) : Except Error (Option α × Items) :=
  doc.followAlias items fun
    | [] => .error doc.exhausted
    | (item, m) :: rest =>
      match item.isPresent with
      | .error c => .error (.refused c none)
      | .ok false => .ok (none, rest)
      | .ok true => (read ((item, m) :: rest)).map fun (a, rest) => (some a, rest)

/-- How one field of a record is read: it adds to what has been read before. -/
abbrev Field (σ : Type) := Trail → σ → Items → Except Error (σ × Items)

/-- Reads the keys and values of a mapping up to its end, at most `fuel` of them. A key that names
no field is passed over with its value. -/
def readFields {σ : Type} (doc : Document) (field? : String → Option (Field σ)) (trail : Trail) :
    Nat → σ → Items → Except Error (σ × Items)
  | 0, _, _ => .error doc.exhausted
  | _ + 1, _, [] => .error doc.exhausted
  | fuel + 1, s, (item, m) :: rest =>
    match item with
    | .mappingEnd | .void => .ok (s, rest)
    | _ => do
      let (name, values) ← doc.readText "field identifier" trail ((item, m) :: rest)
      let key :=
        match item with
        | .scalar _ text _ => some (String.ofList text)
        | _ => none
      match field? name with
      | none => doc.readFields field? trail fuel s (← doc.skip 0 values)
      | some field =>
        let (s, rest) ← field (key :: trail) s values
        doc.readFields field? trail fuel s rest

/-- Reads a record: a mapping, or nothing at all for a record without fields. What is wrong with the
record as a whole is said of the place where it starts. -/
def readRecord {σ α : Type} (doc : Document) (expected : String)
    (field? : String → Option (Field σ)) (start : σ) (finish : σ → Except Complaint α)
    (trail : Trail) (items : Items) : Except Error (α × Items) :=
  doc.followAlias items fun
    | [] => .error doc.exhausted
    | (item, m) :: rest =>
      let fields : Except Error (σ × Items) :=
        match item with
        | .mappingStart => doc.readFields field? trail (rest.length + 1) start rest
        | .void => .ok (start, rest)
        | .scalar _ [] true => .ok (start, rest)
        | item => .error (.refused (item.complaint expected) none)
      let record : Except Error (α × Items) := do
        let (s, rest) ← fields
        match finish s with
        | .ok a => .ok (a, rest)
        | .error c => .error (.refused c none)
      record.mapError (Error.locate m trail)

/-- Reads a field once. -/
def once {σ α : Type} (name : String) (get : σ → Option α) (set : σ → α → σ)
    (read : Trail → Items → Except Error (α × Items)) : Field σ :=
  fun trail s items =>
    match get s with
    | some _ => .error (.refused (.duplicateField name) none)
    | none => (read trail items).map fun (a, rest) => (set s a, rest)

/-- Reads a text that has to be the only document of its kind. -/
def readOnly {α : Type} (text : String)
    (read : Document → Items → Except Error (α × Items)) : Except Error α := do
  let (doc, another) := ofText text
  let (a, _) ← read doc doc.items
  match doc.error with
  | some e => .error e
  | none => if another then .error .severalDocuments else .ok a

end Document

end EdgeCsv.Yaml
