import EdgeCsv.Proofs.FileSystem.Base

/-!
# Paths seen from the working directory

Putting the working directory in front of a relative path makes a longer path for the same thing, as
long as the working directory is where its path says.

* `isBase_workingDirectory`: the path of the working directory is a base for it.
* `Expandable.resolve_join`: both paths lead to the same entry, or fail for the same reason.
* `Expandable.slot_join`: both have the same slot, so what can be created under one can be created
  under the other.
-/

namespace EdgeCsv.FileSystem

variable {fs fs' : FileSystem} {loc : Location} {p : Path}
  {writes makes : Location → Prop}

/-- A name that an entry can have. -/
structure IsName (name : Bytes) : Prop where
  ne_nil : name ≠ []
  slash_notMem : Path.slash ∉ name
  zero_notMem : 0 ∉ name
  ne_dot : name ≠ Path.dot
  ne_dotDot : name ≠ Path.dotDot
  length_le : name.length ≤ maxName

/-- A directory is at this location, and at each location above it. -/
inductive Stands (fs : FileSystem) : Location → Prop
  | root : Stands fs []
  | child {loc : Location} {name : Bytes} (above : Stands fs loc) (isName : IsName name)
    (directory : fs.lookup (name :: loc) = some .directory) : Stands fs (name :: loc)

namespace Stands

theorem lookup (h : fs.Stands loc) : fs.lookup loc = some .directory := by
  cases h with
  | root => rfl
  | child above isName directory => exact directory

theorem isName (h : fs.Stands loc) : ∀ name ∈ loc, IsName name := by
  induction h with
  | root => simp
  | child above isName directory ih => exact List.forall_mem_cons.2 ⟨isName, ih⟩

theorem confined (hc : Confined writes makes fs fs') (h : fs.Stands loc) : fs'.Stands loc := by
  induction h with
  | root => exact .root
  | child above isName directory ih => exact .child ih isName (hc.directory directory)

/-- From the root, the names of a location lead to it. -/
theorem followAll (h : fs.Stands loc) : fs.followAll [] loc.reverse = .ok loc := by
  induction h with
  | root => rfl
  | @child loc name above isName directory ih =>
    have hidle : Path.isIdle name = false := by
      simp [Path.isIdle, isName.ne_nil, isName.ne_dot]
    have hname : fs.follow loc name = .ok (name :: loc) := by
      rw [follow_eq_ok]
      exact ⟨above.lookup, .inr (.inr ⟨hidle, isName.ne_dotDot, isName.length_le,
        by rw [directory]; rfl, rfl⟩)⟩
    rw [List.reverse_cons, followAll_append]
    exact ⟨loc, ih, followAll_cons.2 ⟨_, hname, followAll_nil.2 rfl⟩⟩

end Stands

/-! ## Putting the working directory in front -/

/-- The path of the working directory takes the names of its location as steps. -/
theorem steps_workingDirectory (hcwd : fs.Stands fs.cwd) :
    fs.workingDirectory.steps = fs.cwd.reverse := by
  have hstep : ∀ name ∈ fs.cwd.reverse, (!Path.isIdle name) = true := by
    intro name hname
    have h := hcwd.isName name (List.mem_reverse.1 hname)
    simp [Path.isIdle, h.ne_nil, h.ne_dot]
  have hslash : ∀ name ∈ fs.cwd.reverse, Path.slash ∉ name := by
    intro name hname
    exact (hcwd.isName name (List.mem_reverse.1 hname)).slash_notMem
  have hparts : fs.workingDirectory.parts =
      [] :: ([Path.slash].intercalate fs.cwd.reverse).splitOn Path.slash :=
    List.splitOn_append_cons_self [] _
  unfold Path.steps
  rw [hparts, List.filter_cons_of_neg (by decide)]
  by_cases hroot : fs.cwd = []
  · rw [hroot]
    rfl
  · rw [List.splitOn_intercalate _ hslash (by simpa using hroot), List.filter_eq_self.2 hstep]

/-- **The path of the working directory leads there.** -/
theorem isBase_workingDirectory (hcwd : fs.Stands fs.cwd) :
    fs.IsBase fs.workingDirectory fs.cwd := by
  refine ⟨?_, ?_⟩
  · rw [steps_workingDirectory hcwd]
    exact walk_eq_ok.2 ⟨hcwd.followAll, hcwd.lookup⟩
  · rw [Path.zero_mem_iff, steps_workingDirectory hcwd]
    rintro ⟨name, hname, hzero⟩
    exact (hcwd.isName name (List.mem_reverse.1 hname)).zero_notMem hzero

/-- A relative path that the working directory can be put in front of: neither it nor the longer
path is refused for its spelling. -/
structure Expandable (fs : FileSystem) (p : Path) : Prop where
  stands : fs.Stands fs.cwd
  relative : p.isAbsolute = false
  accepted : precheck p = .ok ()
  length_le : (fs.workingDirectory.join p).bytes.length ≤ maxPath

namespace Expandable

/-- **Both paths lead to the same entry.** -/
theorem resolve_join (h : fs.Expandable p) :
    fs.resolve (fs.workingDirectory.join p) = fs.resolve p :=
  (isBase_workingDirectory h.stands).resolve_join h.relative (precheck_eq_ok.1 h.accepted).2.1
    h.length_le

/-- **Both paths have the same slot.** -/
theorem slot_join (h : fs.Expandable p) : fs.slot (fs.workingDirectory.join p) = fs.slot p :=
  (isBase_workingDirectory h.stands).slot_join h.relative (precheck_eq_ok.1 h.accepted).2.1
    h.length_le

theorem read_join (h : fs.Expandable p) : fs.read (fs.workingDirectory.join p) = fs.read p := by
  unfold read
  rw [h.resolve_join]

theorem create_join (h : fs.Expandable p) :
    fs.create (fs.workingDirectory.join p) = fs.create p := by
  unfold create
  rw [h.slot_join]

end Expandable

end EdgeCsv.FileSystem
