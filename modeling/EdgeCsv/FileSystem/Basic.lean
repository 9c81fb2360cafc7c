import EdgeCsv.IoError
import EdgeCsv.Path

/-!
# The file system

A file system is a finite table of entries, each at its location below the root, and a working
directory. `lookup` is the view through which everything else is stated. This is what is left out:

* There are no links, so a location names at most one entry and an entry has one location.
* Entries have no owners and no modes, so access is never refused.
* There is always room for files: a write to an opened file does not fail, and one that was
  interrupted is made again. Only a full device refuses what is written to it.
* Nobody else changes anything in the meantime.

A path is followed part by part: each part needs a directory to stand in, a part that names nothing
there fails, and `..` leads to the directory above, the root being above itself.
-/

namespace EdgeCsv

/-- Where an entry is: the names from it up to the root, its own name first. The root is `[]`. -/
abbrev Location := List Bytes

/-- A special file. -/
inductive Device
  /-- Takes everything that is written, and is empty when read. -/
  | null
  /-- Has no room for anything, and no end when read. -/
  | full
  deriving DecidableEq, Repr

/-- What stands at a location. -/
inductive Entry
  | file (content : Bytes)
  | directory
  | device (kind : Device)
  deriving DecidableEq, Repr

/-- A table of entries and a working directory. -/
structure FileSystem where
  /-- The entries other than the root. -/
  entries : List (Location × Entry)
  /-- The working directory. -/
  cwd : Location
  deriving Repr

namespace FileSystem

/-- The entry at a location; the root is always a directory. -/
def lookup (fs : FileSystem) (loc : Location) : Option Entry :=
  if loc = [] then some .directory else fs.entries.lookup loc

/-- The table with the entry at `loc` replaced, or added at its end. -/
def assign (loc : Location) (e : Entry) : List (Location × Entry) → List (Location × Entry)
  | [] => [(loc, e)]
  | (l, old) :: rest => if l = loc then (loc, e) :: rest else (l, old) :: assign loc e rest

/-- Puts an entry at a location. -/
def set (fs : FileSystem) (loc : Location) (e : Entry) : FileSystem :=
  { fs with entries := assign loc e fs.entries }

/-- Takes the entry at a location away. -/
def erase (fs : FileSystem) (loc : Location) : FileSystem :=
  { fs with entries := fs.entries.filter (·.1 ≠ loc) }

/-- The most bytes that a name may have. -/
def maxName : Nat := 255

/-- The most bytes that a path may have. -/
def maxPath : Nat := 4095

/-- Whether a directory stands at a location; `notFound` or `notDirectory` if not. -/
def requireDirectory (fs : FileSystem) (loc : Location) : Except IoError Unit :=
  match fs.lookup loc with
  | some .directory => .ok ()
  | some _ => .error .notDirectory
  | none => .error .notFound

/-- Follows one part of a path. -/
def follow (fs : FileSystem) (loc : Location) (part : Bytes) : Except IoError Location := do
  fs.requireDirectory loc
  if Path.isIdle part then .ok loc
  else if part = Path.dotDot then .ok loc.tail
  else if maxName < part.length then .error .nameTooLong
  else
    match fs.lookup (part :: loc) with
    | some _ => .ok (part :: loc)
    | none => .error .notFound

/-- Follows parts one after the other. -/
def followAll (fs : FileSystem) (loc : Location) (parts : List Bytes) : Except IoError Location :=
  parts.foldlM fs.follow loc

/-- Where a path starts: at the root or in the working directory. -/
def origin (fs : FileSystem) (p : Path) : Location :=
  if p.isAbsolute then [] else fs.cwd

/-- Refuses a path that no entry can have: one with a zero byte, the empty one, one too long. -/
def precheck (p : Path) : Except IoError Unit :=
  if 0 ∈ p.bytes then .error .zeroByteInPath
  else if p.bytes = [] then .error .notFound
  else if maxPath < p.bytes.length then .error .nameTooLong
  else .ok ()

/-- The location of the entry that a path leads to. -/
def resolve (fs : FileSystem) (p : Path) : Except IoError Location := do
  precheck p
  fs.followAll (fs.origin p) p.parts

/-- Whether a path leads to an entry. -/
def contains (fs : FileSystem) (p : Path) : Bool :=
  (fs.resolve p).isOk

/-- Whether a path leads to a directory. -/
def hasDirectory (fs : FileSystem) (p : Path) : Bool :=
  match fs.resolve p with
  | .ok loc => fs.lookup loc = some .directory
  | .error _ => false

/-- The last part of a path and the directory it is to stand in. -/
inductive Slot
  /-- The path is the root. -/
  | root
  /-- The path ends in `.` or `..`, so it names a directory that is there. -/
  | idle
  /-- The path ends in a name, and in a slash after it if `slashed`. -/
  | name (directory : Location) (name : Bytes) (slashed : Bool)
  deriving DecidableEq, Repr

/-- Follows a path up to its last part, in which an entry may be missing. -/
def slot (fs : FileSystem) (p : Path) : Except IoError Slot := do
  precheck p
  let names := p.parts.filter (· ≠ [])
  match names.getLast? with
  | none => .ok .root
  | some last =>
    let directory ← fs.followAll (fs.origin p) names.dropLast
    fs.requireDirectory directory
    if last = Path.dot ∨ last = Path.dotDot then .ok .idle
    else .ok (.name directory last (p.bytes.getLast? = some Path.slash))

/-- The path of the working directory. -/
def workingDirectory (fs : FileSystem) : Path :=
  ⟨Path.slash :: [Path.slash].intercalate fs.cwd.reverse⟩

end FileSystem

end EdgeCsv
