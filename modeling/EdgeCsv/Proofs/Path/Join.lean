import EdgeCsv.Proofs.Path.Components

/-!
# Paths behind a base

On spellings, joining is associative and the empty path in front makes no difference, byte for byte.
(The empty path behind a base does: it puts a slash at its end.) The seam between a base and what
comes behind it is where the cases lie: it is empty behind an empty base and behind a slash.

* `join_assoc`, `nil_join`: a base taken from a base.
* `same_join`: joining does not look at more than the components of either path.
* `fileName?_join`: a step at the end of a path is the last one behind every base.
-/

namespace EdgeCsv.Path

variable {p q base base' : Path}

/-- What stands between a base and a path behind it. -/
def seam (base : Path) : Bytes :=
  if base.bytes.getLast?.any (· ≠ slash) then [slash] else []

theorem join_of_isAbsolute (base : Path) (hp : p.isAbsolute = true) : base.join p = p :=
  if_pos hp

theorem bytes_join (base : Path) (hp : p.isAbsolute = false) :
    (base.join p).bytes = base.bytes ++ (base.seam ++ p.bytes) := by
  unfold join seam
  rw [if_neg (by simp [hp])]
  split <;> rfl

/-- **The empty path in front of a path makes no difference.** -/
theorem nil_join (p : Path) : (⟨[]⟩ : Path).join p = p := by
  unfold join
  split <;> rfl

theorem seam_of_slash (h : base.bytes.getLast? = some slash) : base.seam = [] := by
  unfold seam
  rw [h]
  rfl

/-- The empty path behind a base puts a slash at its end, unless there is one. -/
theorem seam_join_nil (base : Path) : (base.join ⟨[]⟩).seam = [] := by
  have hbytes : (base.join ⟨[]⟩).bytes = base.bytes ++ base.seam := by
    rw [bytes_join base rfl, List.append_nil]
  by_cases hlast : base.bytes.getLast?.any (· ≠ slash) = true
  · have hseam : base.seam = [slash] := if_pos hlast
    apply seam_of_slash
    rw [hbytes, hseam, List.getLast?_concat]
  · have hseam : base.seam = [] := if_neg hlast
    rw [hseam, List.append_nil] at hbytes
    unfold seam
    rw [hbytes, if_neg hlast]

/-- A joined path has the seam of what stands at its end. -/
theorem seam_join (base : Path) (hp : p.isAbsolute = false) : (base.join p).seam = p.seam := by
  by_cases hne : p.bytes = []
  · obtain rfl : p = ⟨[]⟩ := congrArg mk hne
    exact seam_join_nil base
  · unfold seam
    rw [getLast?_join base hp hne]

/-- **Joining is associative.** -/
theorem join_assoc (above base p : Path) :
    above.join (base.join p) = (above.join base).join p := by
  cases hp : p.isAbsolute with
  | true =>
    rw [join_of_isAbsolute base hp, join_of_isAbsolute above hp, join_of_isAbsolute _ hp]
  | false =>
    have hjoin : (base.join p).isAbsolute = base.isAbsolute := isAbsolute_join base hp
    cases hbase : base.isAbsolute with
    | true =>
      -- the base is taken from nowhere else, and neither is what stands behind it
      rw [join_of_isAbsolute above (hjoin.trans hbase), join_of_isAbsolute above hbase]
    | false =>
      apply congrArg mk
      calc (above.join (base.join p)).bytes
          = above.bytes ++ (above.seam ++ (base.bytes ++ (base.seam ++ p.bytes))) := by
            rw [bytes_join above (hjoin.trans hbase), bytes_join base hp]
        _ = above.bytes ++ (above.seam ++ base.bytes) ++ (base.seam ++ p.bytes) := by
            simp only [List.append_assoc]
        _ = ((above.join base).join p).bytes := by
            rw [bytes_join (above.join base) hp, seam_join above hbase, bytes_join above hbase]

/-- The base that bases one after the other come to: each is put in front of those before it. -/
def joinAll (first : Path) (later : List Path) : Path :=
  later.foldl (fun below base => base.join below) first

/-- A base that starts at the root is taken from nowhere else. -/
theorem joinAll_of_isAbsolute (h : base.isAbsolute = true) (later : List Path) :
    base.joinAll later = base := by
  induction later with
  | nil => rfl
  | cons next later ih =>
    have hstays : next.join base = base := join_of_isAbsolute next h
    calc base.joinAll (next :: later) = (next.join base).joinAll later := rfl
      _ = base := by rw [hstays, ih]

/-! ## Joined components -/

/-- A joined path starts where its base starts, unless the base is empty. -/
theorem start_join (hne : base.bytes ≠ []) (hp : p.isAbsolute = false) :
    (base.join p).start = base.start := by
  unfold start
  rw [isAbsolute_join base hp]
  by_cases hbase : base.isAbsolute = true
  · rw [if_pos hbase, if_pos hbase]
  rw [if_neg hbase, if_neg hbase]
  obtain ⟨front, idle, hparts, hidle, hjoin⟩ := parts_join base hp
  have hfront : front ≠ [] := by
    rintro rfl
    obtain ⟨first, others, hfirst, hfull⟩ := exists_first_part (by simpa using hbase) hne
    have hmem : first ∈ idle := by
      rw [List.nil_append] at hparts
      rw [← hparts, hfirst]
      exact List.mem_cons_self
    exact hfull (hidle first hmem)
  rw [hjoin, hparts, List.head?_append_of_ne_nil _ hfront, List.head?_append_of_ne_nil _ hfront]

/-- **Joining respects sameness.** A leading dot counts where nothing stands in front of it and is
idle where something does, so the empty base is a case of its own. -/
theorem same_join (hbase : base.Same base') (h : p.Same q) : (base.join p).Same (base'.join q) := by
  have habs : p.isAbsolute = q.isAbsolute := h.isAbsolute_eq
  have hnil : base.bytes = [] ↔ base'.bytes = [] := hbase.bytes_eq_nil_iff
  cases hp : p.isAbsolute with
  | true =>
    rw [join_of_isAbsolute base hp, join_of_isAbsolute base' (habs ▸ hp)]
    exact h
  | false =>
    have hq : q.isAbsolute = false := habs ▸ hp
    by_cases hne : base.bytes = []
    · obtain rfl : base = ⟨[]⟩ := congrArg mk hne
      obtain rfl : base' = ⟨[]⟩ := congrArg mk (hnil.1 hne)
      rw [nil_join, nil_join]
      exact h
    · have hne' : base'.bytes ≠ [] := fun hbytes => hne (hnil.2 hbytes)
      obtain ⟨hstart, hsteps⟩ := same_iff.1 hbase
      rw [same_iff, start_join hne hp, start_join hne' hq, steps_join base hp, steps_join base' hq]
      exact ⟨hstart, by rw [hsteps, (same_iff.1 h).2]⟩

/-- **The file name behind a base** is that of the path, or that of the base if the path takes no
step. -/
theorem fileName?_join (base : Path) (hp : p.isAbsolute = false) :
    (base.join p).fileName? = if p.steps = [] then base.fileName? else p.fileName? := by
  rw [fileName?_eq, steps_join base hp]
  by_cases hsteps : p.steps = []
  · rw [if_pos hsteps, hsteps, List.append_nil, fileName?_eq]
  · rw [if_neg hsteps, List.getLast?_append_of_ne_nil _ hsteps, fileName?_eq]

end EdgeCsv.Path
