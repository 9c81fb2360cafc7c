import EdgeCsv.FileSystem.Basic

/-!
# Reading and changing the file system

Each operation returns its outcome together with the file system it leaves. An operation that fails
leaves the file system as it was, except that `createDirectories` may have made some of the
directories it was asked for.
-/

namespace EdgeCsv.FileSystem

/-- The whole content of the file that a path leads to. Where there is no end to it, reading goes on
until the memory is full. -/
def read (fs : FileSystem) (p : Path) : Except IoError Bytes := do
  let loc ← fs.resolve p
  match fs.lookup loc with
  | some (.file content) => .ok content
  | some (.device .null) => .ok []
  | some (.device .full) => .error .outOfMemory
  | some .directory => .error .isDirectory
  | none => .error .notFound

/-- The text of the file that a path leads to. -/
def readText (fs : FileSystem) (p : Path) : Except IoError (List Char) := do
  match Utf8.decode? (← fs.read p) with
  | some text => .ok text
  | none => .error .notText

/-- Opens a file for writing from its start: creates it, or empties the one that is there. The
result is the location to write to. -/
def create (fs : FileSystem) (p : Path) : Except IoError (Location × FileSystem) := do
  match ← fs.slot p with
  | .root | .idle => .error .isDirectory
  | .name directory name slashed =>
    if slashed then .error .isDirectory
    else if maxName < name.length then .error .nameTooLong
    else
      let loc := name :: directory
      match fs.lookup loc with
      | none | some (.file _) => .ok (loc, fs.set loc (.file []))
      | some .directory => .error .isDirectory
      | some (.device _) => .ok (loc, fs)

/-- Writes at the end of an opened file. -/
def append (fs : FileSystem) (loc : Location) (bytes : Bytes) : Option IoError × FileSystem :=
  match fs.lookup loc with
  | some (.file content) => (none, fs.set loc (.file (content ++ bytes)))
  | some (.device .full) => (if bytes = [] then none else some .noSpace, fs)
  | _ => (none, fs)

/-- Makes one directory. -/
def makeDirectory (fs : FileSystem) (p : Path) : Except IoError FileSystem := do
  match ← fs.slot p with
  | .root | .idle => .error .alreadyExists
  | .name directory name _ =>
    if maxName < name.length then .error .nameTooLong
    else
      match fs.lookup (name :: directory) with
      | none => .ok (fs.set (name :: directory) .directory)
      | some _ => .error .alreadyExists

/-- A path and what is left of it when last components are taken away, as long as something is left
to make: neither the empty path nor the root. -/
def ancestors (p : Path) : List Path :=
  go (p.bytes.length + 1) p
where
  /-- At most `fuel` paths; each is shorter than the one before. -/
  go : Nat → Path → List Path
    | 0, _ => []
    | fuel + 1, p =>
      match p.parent? with
      | none => []
      | some above => p :: go fuel above

/-- Makes a directory again after those above it; one that is there by now will do. -/
def remakeDirectory (fs : FileSystem) (p : Path) : Option IoError × FileSystem :=
  match fs.makeDirectory p with
  | .ok fs' => (none, fs')
  | .error e => (if e = .alreadyExists ∧ fs.hasDirectory p then none else some e, fs)

/-- Makes the first of a chain of directories, and before it those further on that are missing. -/
def createChain (fs : FileSystem) : List Path → Option IoError × FileSystem
  | [] => (none, fs)
  | p :: above =>
    match fs.makeDirectory p with
    | .ok fs' => (none, fs')
    | .error e =>
      if e = .notFound then
        match fs.createChain above with
        | (none, fs') => fs'.remakeDirectory p
        | (some e', fs') => (some e', fs')
      else if e = .alreadyExists ∧ fs.hasDirectory p then (none, fs)
      else (some e, fs)

/-- Makes a directory and those above it that are missing. -/
def createDirectories (fs : FileSystem) (p : Path) : Option IoError × FileSystem :=
  fs.createChain (ancestors p)

/-- Creates or empties a file and writes a content to it. -/
def write (fs : FileSystem) (p : Path) (content : Bytes) : Option IoError × FileSystem :=
  match fs.create p with
  | .error e => (some e, fs)
  | .ok (loc, fs') => fs'.append loc content

/-- Takes a file away. -/
def remove (fs : FileSystem) (p : Path) : Except IoError FileSystem := do
  match ← fs.slot p with
  | .root | .idle => .error .isDirectory
  | .name directory name slashed =>
    if maxName < name.length then .error .nameTooLong
    else
      match fs.lookup (name :: directory) with
      | none => .error .notFound
      | some .directory => .error .isDirectory
      | some _ => if slashed then .error .notDirectory else .ok (fs.erase (name :: directory))

end EdgeCsv.FileSystem
