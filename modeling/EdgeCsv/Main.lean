import EdgeCsv.CommandLine.Snapshot

/-!
# Running the program on a disk
-/

namespace EdgeCsv.Disk

/-- The spelling of a location. A name that is no text cannot be spelled on the disk, and is refused
rather than taken for another. -/
def spelling (loc : Location) : IO String :=
  match Utf8.decode? loc.path.bytes with
  | some text => return String.ofList text
  | none => throw (IO.userError ("Name is not UTF-8: " ++ loc.path.quoted))

/-- What stands at a location on the disk. The two devices are known by their places. -/
def entry? (loc : Location) : IO (Option Entry) := do
  let spelled ← spelling loc
  let place := (← IO.currentDir) / spelled
  if spelled = "/dev/full" then return some (.device .full)
  else if spelled = "/dev/null" then return some (.device .null)
  else if ← place.isDir then return some .directory
  else if ← place.pathExists then return some (.file (← IO.FS.readBinFile place).toList)
  else return none

/-- The working directory, with nothing around it. -/
def workingDirectory : IO FileSystem := do
  let here := Path.ofString (← IO.currentDir).toString
  return ⟨[], (here.parts.filter (· ≠ [])).reverse⟩

/-- A file system that shows the given locations as they are on the disk. -/
def observe (fs : FileSystem) (locations : List Location) : IO FileSystem :=
  locations.foldlM (fun fs loc => do
    match ← entry? loc with
    | some entry => return fs.set loc entry
    | none => return fs) fs

/-- The locations above and including the working directory. -/
def surroundings (fs : FileSystem) : List Location :=
  (List.range fs.cwd.length).map fun n => fs.cwd.drop n

/-- Carries an entry over to the disk. -/
def carryOver (loc : Location) (entry : Entry) : IO Unit := do
  match entry with
  | .file content => IO.FS.writeBinFile (← spelling loc) ⟨content.toArray⟩
  | .directory => IO.FS.createDirAll (← spelling loc)
  | .device _ => return

/-- Does what the words of a command line ask for, and gives the exit code. A plan names further
files, so the disk is looked at once more when the plan has been seen. -/
def run (words : List Bytes) : IO UInt32 := do
  let bare ← workingDirectory
  let fs ← observe bare (surroundings bare)
  let fs ← observe fs (CommandLine.locations words fs)
  let fs ← observe fs (CommandLine.locations words fs)
  let ending := CommandLine.program words fs
  for (loc, entry) in fs.changesFrom ending.files do
    carryOver loc entry
  IO.print ending.printed
  IO.eprint ending.complained
  return ending.code.toUInt32

end EdgeCsv.Disk

/-- Runs the program on the words of its command line. -/
def main (args : List String) : IO UInt32 :=
  EdgeCsv.Disk.run (args.map EdgeCsv.Bytes.ofString)
