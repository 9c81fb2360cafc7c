import EdgeCsv.CommandLine.Program

/-!
# Snapshots

The program works on a file system that is a value. To run it on a disk, the entries that it may
look at are taken from the disk beforehand, and what it changed is carried over to the disk
afterwards.
-/

namespace EdgeCsv

/-- The locations that a path leads through, seen from a location, if every part of it is there. -/
def Path.visited (p : Path) (cwd : Location) : List Location :=
  let step := fun ((loc, seen) : Location × List Location) (part : Bytes) =>
    if Path.isIdle part then (loc, seen)
    else if part = Path.dotDot then (loc.tail, seen)
    else (part :: loc, seen ++ [part :: loc])
  (p.parts.foldl step (if p.isAbsolute then [] else cwd, [])).2

/-- The path of a location, from the root on. -/
def Location.path (loc : Location) : Path :=
  ⟨loc.reverse.flatMap fun name => Path.slash :: name⟩

/-- The entries of a file system that another does not have, in the order in which they came about.
-/
def FileSystem.changesFrom (old new : FileSystem) : List (Location × Entry) :=
  new.entries.filter fun (loc, entry) => old.lookup loc ≠ some entry

/-- The paths that a request looks at, as far as the file system shows them: those of a plan only if
its file is there. -/
def CommandLine.Request.paths (fs : FileSystem) : Request → List Path
  | .run none overrides => (overrides.apply .default).paths
  | .run (some p) overrides =>
    match ((Plan.load p).run fs).result, p.parent? with
    | .ok plan, some base => p :: (overrides.apply (plan.resolve base)).paths
    | _, _ => [p]
  | .init p => [p]
  | .template _ => []

/-- The locations that a command line looks at. -/
def CommandLine.locations (words : List Bytes) (fs : FileSystem) : List Location :=
  match read .top {} words with
  | .error _ => []
  | .ok levels => (Request.ofLevels levels).paths fs |>.flatMap (·.visited fs.cwd)

end EdgeCsv
