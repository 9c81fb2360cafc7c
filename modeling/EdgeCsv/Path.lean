import EdgeCsv.Text.Quoted

/-!
# Paths

A path is a byte string, kept exactly as it was spelled. Its `components` are what the spelling
means: repeated slashes, a trailing slash and every `.` but a leading one say nothing, and `..` is
kept, because what it undoes is known only to the file system. Two paths are the same path when
their components agree. `join` and `parent` work on the spelling.
-/

namespace EdgeCsv

/-- A path, as it was spelled. -/
structure Path where
  /-- The spelling. -/
  bytes : Bytes
  deriving DecidableEq, Repr

namespace Path

/-- The byte that separates the parts of a path. -/
def slash : UInt8 := 47

/-- The path spelled by a text. -/
def ofString (s : String) : Path :=
  ⟨Bytes.ofString s⟩

/-- Whether the path starts at the root. -/
def isAbsolute (p : Path) : Bool :=
  p.bytes.head? = some slash

/-- The pieces between slashes. -/
def parts (p : Path) : List Bytes :=
  p.bytes.splitOn slash

/-- The part that names the directory it stands in. -/
def dot : Bytes := [46]

/-- The part that names the directory above. -/
def dotDot : Bytes := [46, 46]

/-- Whether a part says nothing: it is empty or a single dot. -/
def isIdle (part : Bytes) : Bool :=
  part = [] || part = dot

/-- One step of a path. -/
inductive Component
  /-- Start at the root. -/
  | root
  /-- Start here; only as the first component. -/
  | here
  /-- Go to the directory above. -/
  | up
  /-- Go to the entry of this name. -/
  | name (bytes : Bytes)
  deriving DecidableEq, Repr

/-- The component that a part after the first spells. -/
def Component.ofPart (part : Bytes) : Option Component :=
  if isIdle part then none
  else if part = dotDot then some .up
  else some (.name part)

/-- Where a path starts, if its spelling says so. -/
def start (p : Path) : Option Component :=
  if p.isAbsolute then some .root
  else if p.parts.head? = some dot then some .here
  else none

/-- What the spelling means. -/
def components (p : Path) : List Component :=
  p.start.toList ++ p.parts.filterMap Component.ofPart

/-- Two spellings of the same path. -/
def Same (p q : Path) : Prop :=
  p.components = q.components

instance (p q : Path) : Decidable (Same p q) :=
  inferInstanceAs (Decidable (p.components = q.components))

/-- The path `p`, taken from `base` unless it is absolute. A slash is put between the two where the
base is not empty and does not end in one. -/
def join (base p : Path) : Path :=
  if p.isAbsolute then p
  else if base.bytes.getLast?.any (· ≠ slash) then ⟨base.bytes ++ slash :: p.bytes⟩
  else ⟨base.bytes ++ p.bytes⟩

/-- The bytes of the root slash or of a leading dot, which `parent` never looks into. -/
def anchor (p : Path) : Bytes :=
  match p.start with
  | some .root => [slash]
  | some .here => dot
  | _ => []

/-- The parts after the anchor, last part first. -/
def tailParts (p : Path) : List Bytes :=
  (p.bytes.drop p.anchor.length |>.splitOn slash).reverse

/-- The path without its last component, or nothing for the empty path and every spelling of the
root. Idle parts at the end of what remains are left out. -/
def parent? (p : Path) : Option Path :=
  match p.tailParts.dropWhile isIdle with
  | [] => if p.start = some .here then some ⟨[]⟩ else none
  | _ :: above =>
    some ⟨p.anchor ++ [slash].intercalate (above.dropWhile isIdle).reverse⟩

/-- The last component, if it is a name. -/
def fileName? (p : Path) : Option Bytes :=
  match p.components.getLast? with
  | some (.name bytes) => some bytes
  | _ => none

/-- The path as text, for messages. -/
def display (p : Path) : String :=
  Utf8.lossy p.bytes

/-- The path in double quotes, for the log. -/
def quoted (p : Path) : String :=
  Text.quotedBytes p.bytes

end Path

end EdgeCsv
