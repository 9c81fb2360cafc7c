import EdgeCsv.Proofs.FileSystem.Tree
import EdgeCsv.Proofs.FileSystem.Walk

/-!
# Paths taken from a base

What a path means that is taken from a base depends on the directory that the base leads to, and not
on how the base is spelled.

* `isBase_of_resolve`: the parent of a path that leads to a file is a base for the directory of the
  file.
* `IsBase.resolve_join`, `IsBase.slot_join`: a path taken from a base is the path itself, seen from
  the directory of the base.
* `Below.createDirectories_congr`: the directories that are made below a base are the same for every
  spelling of it.
-/

namespace EdgeCsv.FileSystem

variable {fs fs' : FileSystem} {dir : Location} {p q base base' above : Path} {step : Bytes}
  {steps : List Bytes} {writes makes : Location → Prop}

/-- The same files, seen from another directory. -/
def enter (fs : FileSystem) (dir : Location) : FileSystem :=
  { fs with cwd := dir }

/-- The steps of a path walk to a directory. Unlike a path that leads to the directory, a base may
be empty. -/
structure IsBase (fs : FileSystem) (base : Path) (dir : Location) : Prop where
  walk : fs.walk (fs.origin base) base.steps = .ok dir
  zero_notMem : 0 ∉ base.bytes

/-- In a tree, a path that leads to no directory ends in the name of what it leads to. -/
theorem exists_name_of_resolve {loc : Location} (htree : fs.IsTree) (h : fs.resolve p = .ok loc)
    (hfile : fs.lookup loc ≠ some .directory) :
    ∃ before name, p.parts = before ++ [name] ∧ Path.isIdle name = false ∧ name ≠ Path.dotDot ∧
      name.length ≤ maxName ∧ loc = name :: loc.tail ∧
      fs.walk (fs.origin p) before = .ok loc.tail := by
  obtain ⟨-, hfollow⟩ := resolve_eq_ok.1 h
  obtain ⟨before, name, hparts⟩ :=
    (List.eq_nil_or_concat' p.parts).resolve_left (List.splitOn_ne_nil _ _)
  rw [hparts, followAll_concat] at hfollow
  cases hwalk : fs.walk (fs.origin p) before with
  | error e => rw [hwalk] at hfollow; cases hfollow
  | ok dir =>
    rw [hwalk] at hfollow
    obtain ⟨hdir, ⟨-, rfl⟩ | ⟨-, -, rfl⟩ | ⟨hidle, hup, hlen, -, rfl⟩⟩ := follow_eq_ok.1 hfollow
    · exact absurd hdir hfile
    · exact absurd (htree dir (by rw [hdir]; rfl)) hfile
    · exact ⟨before, name, hparts, hidle, hup, hlen, rfl, hwalk⟩

/-- **The parent of a path that leads to a file** is a base for the directory that the file stands
in. -/
theorem isBase_of_resolve {loc : Location} (htree : fs.IsTree) (h : fs.resolve p = .ok loc)
    (hfile : fs.lookup loc ≠ some .directory) :
    ∃ base, p.parent? = some base ∧ fs.IsBase base loc.tail := by
  obtain ⟨hcheck, -⟩ := resolve_eq_ok.1 h
  obtain ⟨before, name, hparts, hidle, -, -, -, hwalk⟩ := exists_name_of_resolve htree h hfile
  have hmem : name ∈ p.parts := by rw [hparts]; simp
  obtain ⟨base, hparent⟩ := Path.exists_parent? hmem hidle
  obtain ⟨hpiece, -⟩ := Path.prefix_of_parent? hparent
  have hsteps : base.steps = before.filter (!Path.isIdle ·) := by
    rw [Path.steps_parent? hparent, Path.steps, hparts, List.filter_append,
      List.filter_cons_of_pos (by simp [hidle]), List.filter_nil, List.dropLast_concat]
  refine ⟨base, hparent, ?_, fun hzero => ?_⟩
  · rw [hsteps, origin_parent? fs hparent, walk_filter]
    exact hwalk
  · exact (precheck_eq_ok.1 hcheck).1 (hpiece.subset hzero)

/-- In a tree, a path that leads to a device can be opened for writing, which changes nothing. -/
theorem create_of_resolve_device {loc : Location} {kind : Device} (htree : fs.IsTree)
    (h : fs.resolve p = .ok loc) (hl : fs.lookup loc = some (.device kind)) :
    fs.create p = .ok (loc, fs) := by
  obtain ⟨hcheck, -⟩ := resolve_eq_ok.1 h
  obtain ⟨before, name, hparts, hidle, hup, hlen, hloc, hwalk⟩ :=
    exists_name_of_resolve htree h (by rw [hl]; simp)
  have hname : name ≠ [] ∧ name ≠ Path.dot := by simpa [Path.isIdle] using hidle
  have hnames : p.parts.filter (· ≠ []) = before.filter (· ≠ []) ++ [name] := by
    rw [hparts, List.filter_append, List.filter_cons_of_pos (by simpa using hname.1),
      List.filter_nil]
  -- the name stands at the end of the path, so no slash does
  have hslash : p.bytes.getLast? ≠ some Path.slash := by
    intro hlast
    rw [← p.intercalate_parts, hparts, getLast?_intercalate hname.1] at hlast
    have hmem : name ∈ p.parts := by rw [hparts]; simp
    exact (mem_of_mem_splitOn hmem _ (List.mem_of_getLast? hlast)).2 rfl
  have hslot : fs.slot p = .ok (.name loc.tail name false) := by
    rw [slot_eq, hcheck, hnames, List.getLast?_concat, List.dropLast_concat, walk_filter_ne_nil,
      hwalk]
    simp [bind, Except.bind, hname.2, hup, hslash]
  unfold create
  rw [hslot]
  simp only [bind, Except.bind, Nat.not_lt.2 hlen, if_false, Bool.false_eq_true, ← hloc, hl]

theorem precheck_congr (hzero : 0 ∈ p.bytes ↔ 0 ∈ q.bytes) (hnil : p.bytes = [] ↔ q.bytes = [])
    (hp : p.bytes.length ≤ maxPath) (hq : q.bytes.length ≤ maxPath) : precheck p = precheck q := by
  unfold precheck
  simp only [hzero, hnil, Nat.not_lt.2 hp, Nat.not_lt.2 hq]

/-! ## Joining -/

namespace IsBase

theorem confined (hc : Confined writes makes fs fs') (h : fs.IsBase base dir) :
    fs'.IsBase base dir := by
  refine ⟨?_, h.zero_notMem⟩
  rw [hc.origin_eq]
  exact hc.walk h.walk

theorem zero_notMem_step (h : fs.IsBase base dir) : ∀ step ∈ base.steps, 0 ∉ step := by
  intro step hstep hzero
  exact h.zero_notMem ((Path.zero_mem_iff base).2 ⟨step, hstep, hzero⟩)

theorem origin_join (fs : FileSystem) (base : Path) (hp : p.isAbsolute = false) :
    fs.origin (base.join p) = fs.origin base := by
  unfold origin
  rw [Path.isAbsolute_join base hp]

theorem precheck_join (h : fs.IsBase base dir) (hp : p.isAbsolute = false) (hne : p.bytes ≠ [])
    (hlen : (base.join p).bytes.length ≤ maxPath) : precheck (base.join p) = precheck p := by
  have hends := Path.getLast?_join base hp hne
  refine precheck_congr ?_ ?_ hlen (le_trans (Path.length_le_join base p) hlen)
  · rw [Path.zero_mem_iff_of_steps (Path.steps_join base hp) h.zero_notMem_step, Path.zero_mem_iff]
  · rw [← List.getLast?_eq_none_iff, ← List.getLast?_eq_none_iff, hends]

/-- **A path taken from a base leads where it leads from the directory of the base.** -/
theorem resolve_join (h : fs.IsBase base dir) (hp : p.isAbsolute = false) (hne : p.bytes ≠ [])
    (hlen : (base.join p).bytes.length ≤ maxPath) :
    fs.resolve (base.join p) = (fs.enter dir).resolve p := by
  obtain ⟨front, idle, hbase, hidle, hparts⟩ := Path.parts_join base hp
  have horigin : (fs.enter dir).origin p = dir := if_neg (by simp [hp])
  have hsteps : front.filter (!Path.isIdle ·) = base.parts.filter (!Path.isIdle ·) := by
    have hnone : idle.filter (!Path.isIdle ·) = [] :=
      Path.filter_of_idle fun part hpart => by rw [hidle part hpart]; rfl
    rw [hbase, List.filter_append, hnone, List.append_nil]
  have hfront : fs.followAll (fs.origin base) front = .ok dir := by
    have hwalk := h.walk
    rw [Path.steps, ← hsteps, walk_filter] at hwalk
    exact (walk_eq_ok.1 hwalk).1
  unfold resolve
  rw [h.precheck_join hp hne hlen, origin_join fs base hp, horigin, hparts,
    followAll_append_of_ok hfront]
  rfl

/-- **A path taken from a base has the slot that it has from the directory of the base.** -/
theorem slot_join (h : fs.IsBase base dir) (hp : p.isAbsolute = false) (hne : p.bytes ≠ [])
    (hlen : (base.join p).bytes.length ≤ maxPath) :
    fs.slot (base.join p) = (fs.enter dir).slot p := by
  have horigin : (fs.enter dir).origin p = dir := if_neg (by simp [hp])
  have hnames := Path.filter_parts_join base hp (f := (· ≠ [])) (by simp)
  have hlast := Path.filter_parts_ne_nil hp hne
  refine slot_congr (h.precheck_join hp hne hlen) ?_ ?_ ?_
  · rw [hnames, List.getLast?_append_of_ne_nil _ hlast]
  · have hbase : fs.walk (fs.origin base) (base.parts.filter (· ≠ [])) = .ok dir := by
      rw [walk_filter_ne_nil, ← walk_filter]
      exact h.walk
    rw [hnames, List.dropLast_append_of_ne_nil hlast, origin_join fs base hp, horigin,
      walk_append_of_ok hbase]
    rfl
  · rw [Path.getLast?_join base hp hne]

/-- Taken from a base, the empty path is the directory, which cannot be read. -/
theorem read_join_nil (h : fs.IsBase base dir) : ∃ e, fs.read (base.join ⟨[]⟩) = .error e := by
  have hsteps : (base.join ⟨[]⟩).steps = base.steps := by
    rw [Path.steps_join base rfl]
    exact List.append_nil _
  have hwalk := h.walk
  rw [← origin_join fs base (rfl : Path.isAbsolute ⟨[]⟩ = false), ← hsteps, Path.steps,
    walk_filter] at hwalk
  obtain ⟨hfollow, hdir⟩ := walk_eq_ok.1 hwalk
  unfold read resolve
  cases precheck (base.join ⟨[]⟩) with
  | error e => exact ⟨e, rfl⟩
  | ok u => exact ⟨.isDirectory, by simp only [bind, Except.bind, hfollow, hdir]⟩

/-- Nor can a file be created there: the path is empty still, or it ends in a slash. -/
theorem create_join_nil (fs : FileSystem) (base : Path) :
    ∃ e, fs.create (base.join ⟨[]⟩) = .error e := by
  have hends : (base.join ⟨[]⟩).bytes = [] ∨
      (base.join ⟨[]⟩).bytes.getLast? = some Path.slash := by
    unfold Path.join
    rw [if_neg (by simp [Path.isAbsolute])]
    split
    · exact .inr (by simp)
    · rename_i hlast
      simp only [List.append_nil]
      cases hbase : base.bytes.getLast? with
      | none => exact .inl (List.getLast?_eq_none_iff.1 hbase)
      | some b => rw [hbase] at hlast; exact .inr (by simpa using hlast)
  cases hcreate : fs.create (base.join ⟨[]⟩) with
  | error e => exact ⟨e, rfl⟩
  | ok created =>
    obtain ⟨loc, opened⟩ := created
    obtain ⟨⟨directory, name, -, -, hslot⟩, -⟩ := create_eq_ok hcreate
    obtain ⟨hcheck, -, -, -, -, -, hslash⟩ := slot_eq_ok hslot
    rcases hends with hnil | hends
    · exact absurd hnil (precheck_eq_ok.1 hcheck).2.1
    · simp [hends] at hslash

/-- **How a base is spelled makes no difference** to what is read or created under a path that is
taken from it. Only the empty path fails for different reasons. -/
theorem access_congr (h : fs.IsBase base dir) (h' : fs.IsBase base' dir)
    (hlen : (base.join p).bytes.length ≤ maxPath) (hlen' : (base'.join p).bytes.length ≤ maxPath) :
    (fs.read (base.join p)).toOption = (fs.read (base'.join p)).toOption ∧
      (fs.create (base.join p)).toOption = (fs.create (base'.join p)).toOption := by
  by_cases habs : p.isAbsolute = true
  · unfold Path.join
    rw [if_pos habs, if_pos habs]
    exact ⟨rfl, rfl⟩
  have hp : p.isAbsolute = false := by simpa using habs
  by_cases hne : p.bytes = []
  · obtain rfl : p = ⟨[]⟩ := congrArg Path.mk hne
    obtain ⟨e, hread⟩ := h.read_join_nil
    obtain ⟨e', hread'⟩ := h'.read_join_nil
    obtain ⟨f, hcreate⟩ := create_join_nil fs base
    obtain ⟨f', hcreate'⟩ := create_join_nil fs base'
    rw [hread, hread', hcreate, hcreate']
    exact ⟨rfl, rfl⟩
  · unfold read create
    rw [h.resolve_join hp hne hlen, h'.resolve_join hp hne hlen', h.slot_join hp hne hlen,
      h'.slot_join hp hne hlen']
    exact ⟨rfl, rfl⟩

end IsBase

/-! ## Making directories -/

/-- Paths are taken away one by one as long as there are any, so no number of them is too small that
exceeds the length of the path. -/
theorem ancestors_go_congr {n m : Nat} (hn : p.bytes.length < n) (hm : p.bytes.length < m) :
    ancestors.go n p = ancestors.go m p := by
  induction n generalizing m p with
  | zero => omega
  | succ n ih =>
    cases m with
    | zero => omega
    | succ m =>
      rw [ancestors.go, ancestors.go]
      cases hparent : p.parent? with
      | none => rfl
      | some above =>
        obtain ⟨-, hshorter⟩ := Path.prefix_of_parent? hparent
        exact congrArg (p :: ·) (ih (by omega) (by omega))

theorem ancestors_of_parent? (h : p.parent? = some above) : ancestors p = p :: ancestors above := by
  obtain ⟨-, hshorter⟩ := Path.prefix_of_parent? h
  unfold ancestors
  rw [ancestors.go, h]
  simp only
  rw [ancestors_go_congr hshorter (Nat.lt_succ_self _)]

/-- A directory that is to be made below another: its path ends in a step, and after its first steps
have walked to `dir`, the rest of them are `steps`. -/
structure Below (fs : FileSystem) (dir : Location) (steps : List Bytes) (p : Path) : Prop where
  ends : ∃ before last, p.parts = before ++ [last] ∧ Path.isIdle last = false
  length_le : p.bytes.length ≤ maxPath
  splits : ∃ front, p.steps = front ++ steps ∧ fs.walk (fs.origin p) front = .ok dir ∧
    ∀ step ∈ front, 0 ∉ step

namespace Below

theorem confined (hc : Confined writes makes fs fs') (h : fs.Below dir steps p) :
    fs'.Below dir steps p := by
  obtain ⟨front, hsteps, hwalk, hzero⟩ := h.splits
  refine ⟨h.ends, h.length_le, front, hsteps, ?_, hzero⟩
  rw [hc.origin_eq]
  exact hc.walk hwalk

theorem bytes_ne_nil (h : fs.Below dir steps p) : p.bytes ≠ [] := by
  intro hnil
  obtain ⟨before, last, hparts, hlast⟩ := h.ends
  have hempty : p.parts = [[]] := by unfold Path.parts; rw [hnil]; rfl
  obtain rfl : last = [] := by
    have hmem : last ∈ p.parts := by rw [hparts]; simp
    rw [hempty] at hmem
    simpa using hmem
  cases hlast

theorem precheck_congr (h : fs.Below dir steps p) (h' : fs.Below dir steps q) :
    precheck p = precheck q := by
  obtain ⟨front, hsteps, -, hfront⟩ := h.splits
  obtain ⟨front', hsteps', -, hfront'⟩ := h'.splits
  refine FileSystem.precheck_congr ?_ (iff_of_false h.bytes_ne_nil h'.bytes_ne_nil) h.length_le
    h'.length_le
  rw [Path.zero_mem_iff_of_steps hsteps hfront, Path.zero_mem_iff_of_steps hsteps' hfront']

/-- The last part is the last step, and the parts before it walk as the other steps do. -/
theorem exists_before (h : fs.Below dir (steps ++ [step]) p) :
    ∃ before, p.parts = before ++ [step] ∧ Path.isIdle step = false ∧
      fs.walk (fs.origin p) before = fs.walk dir steps := by
  obtain ⟨before, last, hparts, hlast⟩ := h.ends
  obtain ⟨front, hsteps, hwalk, -⟩ := h.splits
  rw [Path.steps, hparts, List.filter_append, List.filter_cons_of_pos (by simp [hlast]),
    List.filter_nil, ← List.append_assoc] at hsteps
  obtain ⟨hbefore, hsame⟩ := List.append_inj' hsteps rfl
  obtain rfl : last = step := List.singleton_inj.1 hsame
  refine ⟨before, hparts, hlast, ?_⟩
  rw [← walk_filter, hbefore, walk_append_of_ok hwalk]

theorem resolve_congr (h : fs.Below dir (steps ++ [step]) p)
    (h' : fs.Below dir (steps ++ [step]) q) : fs.resolve p = fs.resolve q := by
  obtain ⟨before, hparts, -, hwalk⟩ := h.exists_before
  obtain ⟨before', hparts', -, hwalk'⟩ := h'.exists_before
  unfold resolve
  rw [h.precheck_congr h', hparts, hparts', followAll_concat, followAll_concat, hwalk, hwalk']

/-- What the slot of such a path takes. -/
theorem slot_eq (h : fs.Below dir (steps ++ [step]) p) :
    fs.slot p = precheck p >>= fun _ => fs.walk dir steps >>= fun directory =>
      if step = Path.dotDot then .ok .idle else .ok (.name directory step false) := by
  obtain ⟨before, hparts, hidle, hwalk⟩ := h.exists_before
  have hne : step ≠ [] := by rintro rfl; cases hidle
  have hdot : step ≠ Path.dot := by rintro rfl; cases hidle
  have hnames : p.parts.filter (· ≠ []) = before.filter (· ≠ []) ++ [step] := by
    rw [hparts, List.filter_append, List.filter_cons_of_pos (by simpa using hne), List.filter_nil]
  have hslash : p.bytes.getLast? ≠ some Path.slash := by
    have hmem : step ∈ p.parts := by rw [hparts]; simp
    rw [← p.intercalate_parts, hparts, getLast?_intercalate hne]
    intro hlast
    exact (mem_of_mem_splitOn hmem Path.slash (List.mem_of_getLast? hlast)).2 rfl
  rw [FileSystem.slot_eq, hnames, List.getLast?_concat, List.dropLast_concat]
  simp only [walk_filter_ne_nil, hwalk, hdot, hslash, false_or, decide_false]

theorem makeDirectory_congr (h : fs.Below dir (steps ++ [step]) p)
    (h' : fs.Below dir (steps ++ [step]) q) : fs.makeDirectory p = fs.makeDirectory q := by
  unfold makeDirectory
  rw [h.slot_eq, h'.slot_eq, h.precheck_congr h']

theorem hasDirectory_congr (h : fs.Below dir (steps ++ [step]) p)
    (h' : fs.Below dir (steps ++ [step]) q) : fs.hasDirectory p = fs.hasDirectory q := by
  unfold hasDirectory
  rw [h.resolve_congr h']

theorem remakeDirectory_congr (h : fs.Below dir (steps ++ [step]) p)
    (h' : fs.Below dir (steps ++ [step]) q) : fs.remakeDirectory p = fs.remakeDirectory q := by
  unfold remakeDirectory
  rw [h.makeDirectory_congr h', h.hasDirectory_congr h']

/-- Right below the directory nothing is missing but what is to be made. -/
theorem makeDirectory_ne_notFound (h : fs.Below dir ([] ++ [step]) p) :
    fs.makeDirectory p ≠ .error .notFound := by
  obtain ⟨front, -, hwalk, -⟩ := h.splits
  have hhere : fs.walk dir [] = .ok dir := walk_nil (walk_eq_ok.1 hwalk).2
  unfold makeDirectory
  rw [h.slot_eq, hhere]
  by_cases hzero : 0 ∈ p.bytes
  · have hcheck : precheck p = .error .zeroByteInPath := if_pos hzero
    rw [hcheck]
    simp [bind, Except.bind]
  · have hcheck : precheck p = .ok () := precheck_eq_ok.2 ⟨hzero, h.bytes_ne_nil, h.length_le⟩
    rw [hcheck]
    by_cases hup : step = Path.dotDot
    · simp [bind, Except.bind, hup]
    · simp only [bind, Except.bind, hup, if_false]
      split
      · simp
      · split <;> simp

/-- The path above, unless that is the directory that the steps were counted from. -/
theorem exists_above (h : fs.Below dir (steps ++ [step]) p) :
    ∃ above, p.parent? = some above ∧ (steps ≠ [] → fs.Below dir steps above) := by
  obtain ⟨before, hparts, hidle, -⟩ := h.exists_before
  obtain ⟨front, hsteps, hwalk, hzero⟩ := h.splits
  have hmem : step ∈ p.parts := by rw [hparts]; simp
  obtain ⟨above, hparent⟩ := Path.exists_parent? hmem hidle
  obtain ⟨-, hshorter⟩ := Path.prefix_of_parent? hparent
  have hlen := h.length_le
  have habove : above.steps = front ++ steps := by
    rw [Path.steps_parent? hparent, hsteps, ← List.append_assoc, List.dropLast_concat]
  refine ⟨above, hparent, fun hne => ⟨?_, by omega, front, habove, ?_, hzero⟩⟩
  · exact Path.exists_last_step hparent (by rw [habove]; simp [hne])
  · rw [origin_parent? fs hparent]
    exact hwalk

/-- **The directories made below a directory are the same however it is spelled.** -/
theorem createDirectories_congr (hne : steps ≠ []) (h : fs.Below dir steps p)
    (h' : fs.Below dir steps q) : fs.createDirectories p = fs.createDirectories q := by
  induction steps using List.reverseRecOn generalizing p q with
  | nil => exact absurd rfl hne
  | append_singleton steps step ih =>
    obtain ⟨above, hparent, habove⟩ := h.exists_above
    obtain ⟨above', hparent', habove'⟩ := h'.exists_above
    unfold createDirectories at ih ⊢
    rw [ancestors_of_parent? hparent, ancestors_of_parent? hparent', createChain, createChain,
      h.makeDirectory_congr h', h.hasDirectory_congr h']
    cases hmake : fs.makeDirectory q with
    | ok fs' => rfl
    | error e =>
      simp only
      by_cases he : e = .notFound
      · -- then there are steps left, and what is above is made first
        have hsteps : steps ≠ [] := by
          rintro rfl
          exact h'.makeDirectory_ne_notFound (he ▸ hmake)
        rw [if_pos he, if_pos he, ih hsteps (habove hsteps) (habove' hsteps)]
        have hc := confined_createChain fs (ancestors above')
        cases hchain : fs.createChain (ancestors above') with
        | mk failure fs' =>
          rw [hchain] at hc
          cases failure with
          | some e' => rfl
          | none => exact (h.confined hc).remakeDirectory_congr (h'.confined hc)
      · rw [if_neg he, if_neg he]

end Below

end EdgeCsv.FileSystem
