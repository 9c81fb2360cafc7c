import EdgeCsv.Proofs.Path

/-!
# The steps of a path

Apart from where it starts, all that a path says is its steps: the parts that are neither empty nor
a single dot.

* `steps_parent?`: a parent takes the same steps but the last, and starts at the same place
  (`isAbsolute_parent?`). It is spelled by a first piece of the path (`prefix_of_parent?`), and its
  last part is a step unless it takes none (`exists_last_step`).
* `steps_join`: a relative path behind a base takes the steps of both.
-/

namespace EdgeCsv.Path

variable {p q base : Path} {rest : Bytes} {kept others : List Bytes}

/-- The parts that say something. -/
def steps (p : Path) : List Bytes :=
  p.parts.filter (!isIdle ·)

/-- Idle parts take no step. -/
theorem filter_of_idle {parts : List Bytes} (h : ∀ part ∈ parts, isIdle part = true) :
    parts.filter (!isIdle ·) = [] := by
  rw [List.filter_eq_nil_iff]
  intro part hpart
  simp [h part hpart]

/-! ## Behind the anchor -/

/-- The parts of what stands behind an anchor, and what the anchor adds to them. -/
theorem parts_anchor_append (p : Path) (rest : Bytes) :
    (⟨p.anchor ++ rest⟩ : Path).parts =
      match p.start with
      | some .root => [] :: rest.splitOn slash
      | some .here => (rest.splitOn slash).modifyHead (dot ++ ·)
      | _ => rest.splitOn slash := by
  unfold parts anchor
  cases p.start with
  | none => rfl
  | some first =>
    cases first with
    | root => exact List.splitOn_append_cons_self [] rest
    | here => exact List.splitOn_cons_eq_if_modifyHead 46 rest
    | up => rfl
    | name bytes => rfl

/-- An anchor takes no step. Behind a leading dot there has to be a slash, or nothing. -/
theorem steps_anchor_append (p : Path)
    (h : p.start = some .here → (rest.splitOn slash).head? = some []) :
    (⟨p.anchor ++ rest⟩ : Path).steps = (rest.splitOn slash).filter (!isIdle ·) := by
  unfold steps
  rw [parts_anchor_append]
  split
  · rfl
  · rename_i hstart
    obtain ⟨others, hothers⟩ := List.head?_eq_some_iff.1 (h hstart)
    rw [hothers]
    rfl
  · rfl

theorem splitOn_drop_anchor (p : Path) :
    (p.bytes.drop p.anchor.length).splitOn slash = p.tailParts.reverse := by
  unfold tailParts
  rw [List.reverse_reverse]

theorem head?_tailParts_of_here (h : p.start = some .here) :
    p.tailParts.reverse.head? = some [] := by
  have hanchor : p.anchor = dot := by unfold anchor; rw [h]
  rw [← splitOn_drop_anchor, hanchor]
  rcases bytes_of_here h with hbytes | ⟨rest, hbytes⟩
  · rw [hbytes]; rfl
  · rw [hbytes]
    exact congrArg List.head? (List.splitOn_append_cons_self [] rest)

theorem steps_eq_filter_tailParts (p : Path) :
    p.steps = p.tailParts.reverse.filter (!isIdle ·) := by
  have hbytes : p = ⟨p.anchor ++ p.bytes.drop p.anchor.length⟩ :=
    congrArg mk (List.prefix_iff_eq_append.1 p.anchor_prefix).symm
  conv_lhs => rw [hbytes]
  rw [steps_anchor_append, splitOn_drop_anchor]
  intro hhere
  rw [splitOn_drop_anchor]
  exact head?_tailParts_of_here hhere

/-! ## The parent -/

theorem mem_of_mem_tailParts {part : Bytes} (h : part ∈ p.tailParts.reverse) :
    ∀ b ∈ part, b ∈ p.bytes.drop p.anchor.length ∧ b ≠ slash := by
  rw [← splitOn_drop_anchor] at h
  exact mem_of_mem_splitOn h

/-- First parts behind an anchor are what their spelling is split into. -/
theorem splitOn_kept (htail : p.tailParts.reverse = kept ++ others) (hne : kept ≠ []) :
    ([slash].intercalate kept).splitOn slash = kept := by
  refine List.splitOn_intercalate slash (fun part hpart hmem => ?_) hne
  have hin : part ∈ p.tailParts.reverse := by rw [htail]; exact List.mem_append_left _ hpart
  exact (mem_of_mem_tailParts hin slash hmem).2 rfl

theorem head?_kept (htail : p.tailParts.reverse = kept ++ others) (hne : kept ≠ [])
    (h : p.start = some .here) : kept.head? = some [] := by
  have hhead := head?_tailParts_of_here h
  rw [htail, List.head?_append_of_ne_nil _ hne] at hhead
  exact hhead

/-- The steps of a path: those of the parts that its parent keeps, and the last one. -/
theorem steps_of_tailParts {idle after : List Bytes} {last : Bytes}
    (htail : p.tailParts.reverse = kept ++ (idle ++ last :: after))
    (hidle : ∀ part ∈ idle, isIdle part = true) (hlast : isIdle last = false)
    (hafter : ∀ part ∈ after, isIdle part = true) :
    p.steps = kept.filter (!isIdle ·) ++ [last] := by
  rw [steps_eq_filter_tailParts, htail, List.filter_append, List.filter_append,
    List.filter_cons_of_pos (by simp [hlast]), filter_of_idle hidle, filter_of_idle hafter,
    List.nil_append]

/-- **A parent takes the same steps but the last.** -/
theorem steps_parent? (h : p.parent? = some q) : q.steps = p.steps.dropLast := by
  rcases parent?_eq_some h with
    ⟨hidle, -, rfl⟩ | ⟨kept, idle, last, after, htail, hidle, hlast, hafter, -, rfl⟩
  · rw [steps_eq_filter_tailParts p,
      filter_of_idle fun part hpart => hidle part (List.mem_reverse.1 hpart)]
    rfl
  · rw [steps_of_tailParts htail hidle hlast hafter, List.dropLast_concat]
    by_cases hkept : kept = []
    · subst hkept
      exact steps_anchor_append p fun _ => rfl
    · have hsplit := splitOn_kept htail hkept
      rw [steps_anchor_append, hsplit]
      intro hhere
      rw [hsplit]
      exact head?_kept htail hkept hhere

/-- The last part of a parent that takes steps is a step. -/
theorem exists_last_step (h : p.parent? = some q) (hsteps : q.steps ≠ []) :
    ∃ front last, q.parts = front ++ [last] ∧ isIdle last = false := by
  rcases parent?_eq_some h with ⟨-, -, rfl⟩ | ⟨kept, idle, last, after, htail, -, -, -, hends, rfl⟩
  · exact absurd rfl hsteps
  have hkept : kept ≠ [] := by
    rintro rfl
    exact hsteps (steps_anchor_append p fun _ => rfl)
  obtain ⟨front, step, rfl⟩ := (List.eq_nil_or_concat' kept).resolve_left hkept
  have hstep : isIdle step = false := hends step (by simp)
  rw [parts_anchor_append, splitOn_kept htail hkept]
  split
  · exact ⟨[] :: front, step, rfl, hstep⟩
  · rename_i hhere
    -- the first of the parts is empty, so the step is not the first
    have hhead := head?_kept htail hkept hhere
    cases front with
    | nil =>
      obtain rfl : step = [] := by simpa using hhead
      cases hstep
    | cons first front => exact ⟨(dot ++ first) :: front, step, rfl, hstep⟩
  · exact ⟨front, step, rfl, hstep⟩

/-- A parent is spelled by a first piece of the path, and not by all of it. -/
theorem prefix_of_parent? (h : p.parent? = some q) :
    q.bytes <+: p.bytes ∧ q.bytes.length < p.bytes.length := by
  rcases parent?_eq_some h with
    ⟨-, hhere, rfl⟩ | ⟨kept, idle, last, after, htail, -, hlast, -, -, rfl⟩
  · refine ⟨List.nil_prefix, ?_⟩
    rcases bytes_of_here hhere with hbytes | ⟨rest, hbytes⟩ <;> simp [hbytes, dot]
  · obtain ⟨more, hmore, hne⟩ : ∃ more, [slash].intercalate (kept ++ (idle ++ last :: after)) =
        [slash].intercalate kept ++ more ∧ more ≠ [] := by
      by_cases hkept : kept = []
      · -- what is left out is not empty, because of the last step
        subst hkept
        have hstep : last ≠ [] := by rintro rfl; cases hlast
        obtain ⟨b, hb⟩ := List.exists_mem_of_ne_nil last hstep
        have hslash : b ≠ slash := (mem_of_mem_tailParts (by rw [htail]; simp) b hb).2
        refine ⟨_, rfl, List.ne_nil_of_mem ((mem_intercalate hslash).2 ⟨last, by simp, hb⟩)⟩
      · exact ⟨_, intercalate_append hkept (by simp), by simp⟩
    have hbytes := p.bytes_eq_anchor_append
    rw [htail, hmore, ← List.append_assoc] at hbytes
    rw [hbytes]
    refine ⟨List.prefix_append _ _, ?_⟩
    have hpos := List.length_pos_iff.2 hne
    simp only [List.length_append]
    omega

/-- A parent starts where the path starts. -/
theorem isAbsolute_parent? (h : p.parent? = some q) : q.isAbsolute = p.isAbsolute := by
  obtain ⟨⟨more, hmore⟩, -⟩ := prefix_of_parent? h
  unfold isAbsolute
  by_cases hq : q.bytes = []
  · -- no path that starts at the root has the empty path for a parent
    have hstart : p.start ≠ some .root := by
      intro hroot
      have hanchor : p.anchor = [slash] := by unfold anchor; rw [hroot]
      rcases parent?_eq_some h with ⟨-, hhere, -⟩ | ⟨kept, _, _, _, -, -, -, -, -, rfl⟩
      · rw [hroot] at hhere; cases hhere
      · simp [hanchor] at hq
    have hrelative : ¬ p.isAbsolute = true := fun habs => hstart (if_pos habs)
    simpa [hq, isAbsolute] using hrelative
  · rw [← hmore, List.head?_append_of_ne_nil _ hq]

/-! ## Bytes and steps -/

/-- A zero byte can only stand in a step. -/
theorem zero_mem_iff (p : Path) : 0 ∈ p.bytes ↔ ∃ step ∈ p.steps, 0 ∈ step := by
  rw [← p.intercalate_parts, mem_intercalate (by decide)]
  unfold steps
  constructor
  · rintro ⟨part, hpart, hzero⟩
    have hne : part ≠ [] := List.ne_nil_of_mem hzero
    have hdot : part ≠ dot := by rintro rfl; exact absurd hzero (by decide)
    have hstep : isIdle part = false := by simp [isIdle, hne, hdot]
    exact ⟨part, List.mem_filter.2 ⟨hpart, by simp [hstep]⟩, hzero⟩
  · rintro ⟨step, hstep, hzero⟩
    exact ⟨step, (List.mem_filter.1 hstep).1, hzero⟩

/-- Nor can it stand in first steps that have none. -/
theorem zero_mem_iff_of_steps {front steps : List Bytes} (hsteps : p.steps = front ++ steps)
    (hfront : ∀ step ∈ front, 0 ∉ step) : 0 ∈ p.bytes ↔ ∃ step ∈ steps, 0 ∈ step := by
  rw [zero_mem_iff, hsteps]
  constructor
  · rintro ⟨step, hstep, hzero⟩
    rcases List.mem_append.1 hstep with hstep | hstep
    · exact absurd hzero (hfront step hstep)
    · exact ⟨step, hstep, hzero⟩
  · rintro ⟨step, hstep, hzero⟩
    exact ⟨step, List.mem_append_right _ hstep, hzero⟩

/-! ## Joining -/

/-- The parts of a relative path behind a base: a slash at the end of the base separates nothing. -/
theorem parts_join (base : Path) (hp : p.isAbsolute = false) :
    ∃ front idle, base.parts = front ++ idle ∧ (∀ part ∈ idle, part = []) ∧
      (base.join p).parts = front ++ p.parts := by
  unfold join parts
  rw [if_neg (by simp [hp])]
  split
  · exact ⟨_, [], (List.append_nil _).symm, by simp, List.splitOn_append_cons_self _ _⟩
  · rename_i hlast
    by_cases hbase : base.bytes = []
    · exact ⟨[], [[]], by rw [hbase]; rfl, by simp, by rw [hbase]; rfl⟩
    · obtain ⟨init, b, hbytes⟩ := (List.eq_nil_or_concat' base.bytes).resolve_left hbase
      obtain rfl : b = slash := by simpa [hbytes] using hlast
      refine ⟨init.splitOn slash, [[]], ?_, by simp, ?_⟩
      · rw [hbytes, List.splitOn_append_cons_self]; rfl
      · rw [hbytes, List.append_assoc]
        exact List.splitOn_append_cons_self _ _

/-- What is left of the parts of a joined path when empty ones, and perhaps others, are left out. -/
theorem filter_parts_join (base : Path) (hp : p.isAbsolute = false) {f : Bytes → Bool}
    (hf : f [] = false) :
    (base.join p).parts.filter f = base.parts.filter f ++ p.parts.filter f := by
  obtain ⟨front, idle, hbase, hidle, hjoin⟩ := parts_join base hp
  have hnone : idle.filter f = [] := by
    rw [List.filter_eq_nil_iff]
    intro part hpart
    simp [hidle part hpart, hf]
  rw [hjoin, hbase, List.filter_append, List.filter_append, hnone, List.append_nil]

/-- **A relative path behind a base takes the steps of both.** -/
theorem steps_join (base : Path) (hp : p.isAbsolute = false) :
    (base.join p).steps = base.steps ++ p.steps :=
  filter_parts_join base hp rfl

theorem isAbsolute_join (base : Path) (hp : p.isAbsolute = false) :
    (base.join p).isAbsolute = base.isAbsolute := by
  unfold join
  rw [if_neg (by simp [hp])]
  by_cases hbase : base.bytes = []
  · simpa [isAbsolute, hbase] using hp
  · split <;> simp [isAbsolute, List.head?_append_of_ne_nil _ hbase]

theorem getLast?_join (base : Path) (hp : p.isAbsolute = false) (hne : p.bytes ≠ []) :
    (base.join p).bytes.getLast? = p.bytes.getLast? := by
  unfold join
  rw [if_neg (by simp [hp])]
  split
  · rw [List.append_cons, List.getLast?_append_of_ne_nil _ hne]
  · rw [List.getLast?_append_of_ne_nil _ hne]

theorem length_le_join (base p : Path) : p.bytes.length ≤ (base.join p).bytes.length := by
  unfold join
  split
  · exact le_refl _
  · split <;> simp only [List.length_append, List.length_cons] <;> omega

/-- The shorter of two relative paths is the shorter one behind a base, too. -/
theorem length_join_le (base : Path) (hp : p.isAbsolute = false) (hq : q.isAbsolute = false)
    (h : p.bytes.length ≤ q.bytes.length) :
    (base.join p).bytes.length ≤ (base.join q).bytes.length := by
  simp only [join, hp, hq, Bool.false_eq_true, if_false]
  split
  · simpa using h
  · simpa using h

/-- A relative path does not begin with an empty part, unless it is empty. -/
theorem exists_first_part (hp : p.isAbsolute = false) (hne : p.bytes ≠ []) :
    ∃ first others, p.parts = first :: others ∧ first ≠ [] := by
  obtain ⟨b, rest, hbytes⟩ := List.exists_cons_of_ne_nil hne
  have hb : b ≠ slash := by simpa [isAbsolute, hbytes] using hp
  obtain ⟨first, others, hrest⟩ := List.exists_cons_of_ne_nil (List.splitOn_ne_nil slash rest)
  refine ⟨b :: first, others, ?_, by simp⟩
  unfold parts
  rw [hbytes, List.splitOn_cons_eq_if_modifyHead, if_neg (by simpa using hb), hrest]
  rfl

theorem filter_parts_ne_nil (hp : p.isAbsolute = false) (hne : p.bytes ≠ []) :
    p.parts.filter (· ≠ []) ≠ [] := by
  obtain ⟨first, others, hparts, hfirst⟩ := exists_first_part hp hne
  rw [hparts, List.filter_cons_of_pos (by simpa using hfirst)]
  simp

end EdgeCsv.Path
