import EdgeCsv.Proofs.Path.Steps

/-!
# What a spelling means

The components of a path are where it starts, if it says so, and its steps. All that is asked of a
path by its components is asked of these two.

* `same_iff`: two spellings are the same path if they start at the same place and take the same
  steps. The empty path has no other spelling (`same_nil_iff`).
* `parent?_eq_none_iff`: a path has no parent if it is empty or a spelling of the root. A path that
  says something has one (`exists_parent?`).
* `fileName?_eq`: the file name is the last step, unless that leads to the directory above.
-/

namespace EdgeCsv.Path

variable {p q : Path}

/-- The component that a step spells. -/
def Component.ofStep (step : Bytes) : Component :=
  if step = dotDot then .up else .name step

/-- Whether a component says where a path starts. -/
def Component.isStart : Component → Bool
  | .root | .here => true
  | .up | .name _ => false

theorem Component.isStart_ofStep (step : Bytes) : (ofStep step).isStart = false := by
  unfold ofStep
  split <;> rfl

theorem Component.ofStep_injective : Function.Injective ofStep := by
  intro step step' h
  unfold ofStep at h
  by_cases hup : step = dotDot
  · by_cases hup' : step' = dotDot
    · rw [hup, hup']
    · rw [if_pos hup, if_neg hup'] at h; cases h
  · by_cases hup' : step' = dotDot
    · rw [if_neg hup, if_pos hup'] at h; cases h
    · rw [if_neg hup, if_neg hup'] at h
      exact Component.name.inj h

/-- An idle part spells no component, and a step spells its own. -/
theorem filterMap_ofPart (parts : List Bytes) :
    parts.filterMap Component.ofPart = (parts.filter (!isIdle ·)).map Component.ofStep := by
  induction parts with
  | nil => rfl
  | cons part parts ih =>
    by_cases hidle : isIdle part = true
    · have hnone : Component.ofPart part = none := if_pos hidle
      rw [List.filterMap_cons_none hnone, List.filter_cons_of_neg (by simp [hidle]), ih]
    · have hsome : Component.ofPart part = some (Component.ofStep part) := by
        unfold Component.ofPart Component.ofStep
        rw [if_neg hidle]
        split <;> rfl
      rw [List.filterMap_cons_some hsome, List.filter_cons_of_pos (by simpa using hidle),
        List.map_cons, ih]

/-- **The components are the start and the steps.** -/
theorem components_eq (p : Path) :
    p.components = p.start.toList ++ p.steps.map Component.ofStep := by
  unfold components steps
  rw [filterMap_ofPart]

theorem start_cases (p : Path) :
    p.start = none ∨ p.start = some .root ∨ p.start = some .here := by
  unfold start
  split
  · exact .inr (.inl rfl)
  · split
    · exact .inr (.inr rfl)
    · exact .inl rfl

theorem isAbsolute_iff_start : p.isAbsolute = true ↔ p.start = some .root := by
  constructor
  · intro habs
    exact if_pos habs
  · intro hstart
    by_contra habs
    unfold start at hstart
    rw [if_neg habs] at hstart
    split at hstart <;> cases hstart

/-- A path says nothing but perhaps that it starts here exactly if it is relative and takes no
step. -/
theorem forall_here_iff :
    (∀ c ∈ p.components, c = .here) ↔ p.isAbsolute = false ∧ p.steps = [] := by
  have habs : p.isAbsolute = false ↔ p.start ≠ some .root := by
    rw [ne_eq, ← isAbsolute_iff_start, Bool.not_eq_true]
  have hstep : ∀ step, Component.ofStep step ≠ .here := by
    intro step hhere
    have hstart := Component.isStart_ofStep step
    rw [hhere] at hstart
    cases hstart
  rw [components_eq, habs]
  constructor
  · intro hhere
    constructor
    · intro hroot
      cases hhere .root (by rw [hroot]; exact List.mem_cons_self)
    · by_contra hne
      obtain ⟨step, hmem⟩ := List.exists_mem_of_ne_nil p.steps hne
      exact hstep step (hhere _ (List.mem_append_right _ (List.mem_map_of_mem hmem)))
  · rintro ⟨hroot, hsteps⟩ c hc
    rw [hsteps, List.map_nil, List.append_nil] at hc
    rcases p.start_cases with hstart | hstart | hstart
    · rw [hstart] at hc; cases hc
    · exact absurd hstart hroot
    · rw [hstart] at hc
      exact List.mem_singleton.1 hc

/-! ## Two spellings of one path -/

theorem find?_isStart (p : Path) : p.components.find? (·.isStart) = p.start := by
  rw [components_eq]
  rcases p.start_cases with h | h | h
  · rw [h, Option.toList_none, List.nil_append, List.find?_eq_none]
    intro c hc
    obtain ⟨step, -, rfl⟩ := List.mem_map.1 hc
    simp [Component.isStart_ofStep]
  · rw [h]; rfl
  · rw [h]; rfl

theorem filter_not_isStart (p : Path) :
    p.components.filter (!·.isStart) = p.steps.map Component.ofStep := by
  have hstart : p.start.toList.filter (!·.isStart) = [] := by
    rcases p.start_cases with h | h | h <;> rw [h] <;> rfl
  rw [components_eq, List.filter_append, hstart, List.nil_append, List.filter_eq_self]
  intro c hc
  obtain ⟨step, -, rfl⟩ := List.mem_map.1 hc
  simp [Component.isStart_ofStep]

/-- **Two spellings are the same path** exactly if they start at the same place and take the same
steps. -/
theorem same_iff : p.Same q ↔ p.start = q.start ∧ p.steps = q.steps := by
  unfold Same
  constructor
  · intro h
    have hstart : p.start = q.start := by
      rw [← find?_isStart, ← find?_isStart, h]
    have hsteps : p.steps.map Component.ofStep = q.steps.map Component.ofStep := by
      rw [← filter_not_isStart, ← filter_not_isStart, h]
    exact ⟨hstart, List.map_injective_iff.2 Component.ofStep_injective hsteps⟩
  · rintro ⟨hstart, hsteps⟩
    rw [components_eq, components_eq, hstart, hsteps]

theorem Same.isAbsolute_eq (h : p.Same q) : p.isAbsolute = q.isAbsolute := by
  rw [Bool.eq_iff_iff, isAbsolute_iff_start, isAbsolute_iff_start, (same_iff.1 h).1]

/-- A path that says neither where it starts nor any step is empty. -/
theorem bytes_of_no_components (hstart : p.start = none) (hsteps : p.steps = []) :
    p.bytes = [] := by
  by_contra hne
  have hrelative : ¬ p.isAbsolute = true := by
    rw [isAbsolute_iff_start, hstart]
    simp
  obtain ⟨first, others, hparts, hfirst⟩ := exists_first_part (by simpa using hrelative) hne
  have hdot : first ≠ dot := by
    rintro rfl
    unfold start at hstart
    rw [if_neg hrelative, if_pos (by rw [hparts]; rfl)] at hstart
    cases hstart
  -- the first part is neither empty nor a dot, so it is a step
  have hstep : first ∈ p.steps := by
    unfold steps
    rw [List.mem_filter, hparts]
    exact ⟨List.mem_cons_self, by simp [isIdle, hfirst, hdot]⟩
  rw [hsteps] at hstep
  cases hstep

/-- **The empty path has no other spelling.** -/
theorem same_nil_iff : p.Same ⟨[]⟩ ↔ p.bytes = [] := by
  constructor
  · intro h
    obtain ⟨hstart, hsteps⟩ := same_iff.1 h
    exact bytes_of_no_components hstart hsteps
  · intro h
    obtain rfl : p = ⟨[]⟩ := congrArg mk h
    rfl

theorem Same.bytes_eq_nil_iff (h : p.Same q) : p.bytes = [] ↔ q.bytes = [] := by
  rw [← same_nil_iff, ← same_nil_iff]
  unfold Same
  rw [h]

/-! ## Paths without a parent -/

theorem parent?_eq_none : p.parent? = none ↔ p.start ≠ some .here ∧ p.steps = [] := by
  have hidle : p.tailParts.dropWhile isIdle = [] ↔ p.steps = [] := by
    rw [steps_eq_filter_tailParts, List.dropWhile_eq_nil_iff, List.filter_eq_nil_iff]
    simp
  rw [← hidle]
  unfold parent?
  split
  · rename_i hnone
    simp [hnone]
  · rename_i last above hparts
    simp [hparts]

/-- **A path that says something has a parent.** -/
theorem exists_parent? {part : Bytes} (hpart : part ∈ p.parts) (hidle : isIdle part = false) :
    ∃ q, p.parent? = some q := by
  have hstep : part ∈ p.steps := List.mem_filter.2 ⟨hpart, by simp [hidle]⟩
  cases hparent : p.parent? with
  | none =>
    rw [(parent?_eq_none.1 hparent).2] at hstep
    cases hstep
  | some q => exact ⟨q, rfl⟩

/-- **A path has no parent** exactly if it is the empty path or a spelling of the root. -/
theorem parent?_eq_none_iff : p.parent? = none ↔ p.bytes = [] ∨ p.Same (.ofString "/") := by
  have hroot : (ofString "/").start = some .root ∧ (ofString "/").steps = [] := by decide
  rw [parent?_eq_none, same_iff, hroot.1, hroot.2]
  constructor
  · rintro ⟨hhere, hsteps⟩
    rcases p.start_cases with hstart | hstart | hstart
    · exact .inl (bytes_of_no_components hstart hsteps)
    · exact .inr ⟨hstart, hsteps⟩
    · exact absurd hstart hhere
  · rintro (hnil | ⟨hstart, hsteps⟩)
    · obtain rfl : p = ⟨[]⟩ := congrArg mk hnil
      decide
    · exact ⟨by simp [hstart], hsteps⟩

/-- **A parent without a parent** is the empty path or the root, spelled by a single slash. -/
theorem bytes_of_last_parent (h : p.parent? = some q) (hq : q.parent? = none) :
    q.bytes = [] ∨ q.bytes = [slash] := by
  rcases parent?_eq_some h with
    ⟨-, -, rfl⟩ | ⟨kept, idle, last, after, htail, hidle, hlast, hafter, hends, rfl⟩
  · exact .inl rfl
  -- the parts that are kept take no step, and yet the last of them would be one
  have hsteps : kept.filter (!isIdle ·) = [] := by
    have hparent := steps_parent? h
    rw [(parent?_eq_none.1 hq).2, steps_of_tailParts htail hidle hlast hafter,
      List.dropLast_concat] at hparent
    exact hparent.symm
  obtain rfl : kept = [] := by
    rcases List.eq_nil_or_concat' kept with hkept | ⟨front, step, rfl⟩
    · exact hkept
    · have hstep : isIdle step = true := by
        simpa using List.filter_eq_nil_iff.1 hsteps step (by simp)
      rw [hends step (by simp)] at hstep
      cases hstep
  rw [List.intercalate_nil, List.append_nil] at hq ⊢
  unfold anchor at hq ⊢
  split
  · exact .inr rfl
  · rename_i hhere
    rw [hhere] at hq
    exact absurd hq (by decide)
  · exact .inl rfl

/-! ## The file name -/

/-- **The file name is the last step**, unless that leads to the directory above. -/
theorem fileName?_eq (p : Path) : p.fileName? = p.steps.getLast?.filter (· ≠ dotDot) := by
  unfold fileName?
  rw [components_eq]
  rcases List.eq_nil_or_concat' p.steps with hsteps | ⟨front, last, hsteps⟩
  · rw [hsteps]
    rcases p.start_cases with hstart | hstart | hstart <;> rw [hstart] <;> rfl
  · rw [hsteps, List.map_append, List.map_singleton, ← List.append_assoc, List.getLast?_concat,
      List.getLast?_concat]
    unfold Component.ofStep
    by_cases hup : last = dotDot
    · simp [hup, Option.filter_some]
    · simp [hup, Option.filter_some]

theorem slash_notMem_fileName? {name : Bytes} (h : p.fileName? = some name) : slash ∉ name := by
  rw [fileName?_eq, Option.filter_eq_some_iff] at h
  have hstep : name ∈ p.parts := (List.mem_filter.1 (List.mem_of_getLast? h.1)).1
  intro hmem
  exact (mem_of_mem_splitOn hstep slash hmem).2 rfl

end EdgeCsv.Path
