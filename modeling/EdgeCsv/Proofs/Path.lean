import Mathlib.Data.List.Infix
import Mathlib.Data.List.TakeWhile
import EdgeCsv.Path
import EdgeCsv.Proofs.Text.Split

/-!
# Paths above a path

* `isAbove_of_parent?`: the parent of a path is spelled by a first piece of the path that ends
  before a slash (`IsAbove`), unless it is a path that has no parent itself.
-/

namespace EdgeCsv.Path

variable {p q r : Path}

/-- A first piece of the spelling of `p` that ends before a slash. -/
def IsAbove (q p : Path) : Prop :=
  q.bytes ++ [slash] <+: p.bytes

theorem IsAbove.trans (h : q.IsAbove p) (h' : p.IsAbove r) : q.IsAbove r :=
  List.IsPrefix.trans h ((List.prefix_append p.bytes [slash]).trans h')

theorem intercalate_parts (p : Path) : [slash].intercalate p.parts = p.bytes :=
  List.intercalate_splitOn slash

/-- A path that starts here is a dot, or a dot and a slash and more. -/
theorem bytes_of_here (h : p.start = some .here) :
    p.bytes = dot ∨ ∃ rest, p.bytes = dot ++ slash :: rest := by
  have hhead : p.parts.head? = some dot := by
    unfold start at h
    by_cases habs : p.isAbsolute = true
    · rw [if_pos habs] at h; cases h
    · rw [if_neg habs] at h
      by_contra hne
      rw [if_neg hne] at h; cases h
  obtain ⟨parts, hparts⟩ : ∃ parts, p.parts = dot :: parts := by
    cases hp : p.parts with
    | nil => rw [hp] at hhead; cases hhead
    | cons first parts => rw [hp] at hhead; cases hhead; exact ⟨parts, rfl⟩
  have hbytes := p.intercalate_parts
  rw [hparts] at hbytes
  by_cases hne : parts = []
  · subst hne
    rw [List.intercalate_singleton] at hbytes
    exact .inl hbytes.symm
  · rw [List.intercalate_cons_of_ne_nil hne, List.append_assoc] at hbytes
    exact .inr ⟨_, hbytes.symm⟩

theorem bytes_of_root (h : p.start = some .root) : ∃ rest, p.bytes = slash :: rest := by
  apply List.head?_eq_some_iff.1
  unfold start at h
  by_contra hne
  rw [if_neg (by simpa [isAbsolute] using hne)] at h
  split at h <;> cases h

theorem anchor_prefix (p : Path) : p.anchor <+: p.bytes := by
  unfold anchor
  split
  · rename_i h
    obtain ⟨rest, hrest⟩ := bytes_of_root h
    rw [hrest]
    exact List.prefix_append [slash] rest
  · rename_i h
    rcases bytes_of_here h with h | ⟨rest, h⟩
    · rw [h]
    · rw [h]; exact List.prefix_append _ _
  · exact List.nil_prefix

theorem bytes_eq_anchor_append (p : Path) :
    p.bytes = p.anchor ++ [slash].intercalate p.tailParts.reverse := by
  unfold tailParts
  rw [List.reverse_reverse, List.intercalate_splitOn]
  exact (List.prefix_iff_eq_append.1 p.anchor_prefix).symm

/-- What a path starts with stands above it, if it has a parent and is not all there is. -/
theorem isAbove_of_anchor (hp : p.tailParts.dropWhile isIdle ≠ [])
    (hq : (⟨p.anchor⟩ : Path).parent? ≠ none) : (⟨p.anchor⟩ : Path).IsAbove p := by
  have hstart : p.start = some .here := by
    unfold anchor at hq
    split at hq
    · exact absurd rfl hq
    · assumption
    · exact absurd rfl hq
  have hanchor : p.anchor = dot := by unfold anchor; rw [hstart]
  unfold IsAbove
  rcases bytes_of_here hstart with hbytes | ⟨more, hbytes⟩
  · have hidle : p.tailParts.dropWhile isIdle = [] := by
      unfold tailParts
      rw [hanchor, hbytes]
      rfl
    exact absurd hidle hp
  · rw [hanchor, hbytes]
    exact ⟨more, by simp⟩

/-- How a parent comes about: the last part that says something is taken away, with the idle parts
behind it and before it. A path without such a part has the empty path for a parent, if it starts
here. -/
theorem parent?_eq_some (h : p.parent? = some q) :
    (∀ part ∈ p.tailParts, isIdle part = true) ∧ p.start = some .here ∧ q = ⟨[]⟩ ∨
      ∃ kept idle last after, p.tailParts.reverse = kept ++ (idle ++ last :: after) ∧
        (∀ part ∈ idle, isIdle part = true) ∧ isIdle last = false ∧
        (∀ part ∈ after, isIdle part = true) ∧
        (∀ part, kept.getLast? = some part → isIdle part = false) ∧
        q = ⟨p.anchor ++ [slash].intercalate kept⟩ := by
  have hhead : ∀ (parts : List Bytes) (part : Bytes), (parts.dropWhile isIdle).head? = some part →
      isIdle part = false := by
    intro parts part hpart
    have hnot := List.head?_dropWhile_not isIdle parts
    rw [hpart] at hnot
    exact hnot
  unfold parent? at h
  split at h
  · rename_i hidle
    split at h
    · rename_i hhere
      cases h
      exact .inl ⟨List.dropWhile_eq_nil_iff.1 hidle, hhere, rfl⟩
    · cases h
  · rename_i last above hparts
    cases h
    refine .inr ⟨(above.dropWhile isIdle).reverse, (above.takeWhile isIdle).reverse, last,
      (p.tailParts.takeWhile isIdle).reverse, ?_, ?_, hhead p.tailParts last (by rw [hparts]; rfl),
      ?_, ?_, rfl⟩
    · have htail : p.tailParts = p.tailParts.takeWhile isIdle ++
          last :: (above.takeWhile isIdle ++ above.dropWhile isIdle) := by
        rw [List.takeWhile_append_dropWhile, ← hparts, List.takeWhile_append_dropWhile]
      conv_lhs => rw [htail]
      simp only [List.reverse_append, List.reverse_cons, List.append_assoc, List.cons_append,
        List.nil_append]
    · intro part hpart
      exact List.mem_takeWhile_imp (List.mem_reverse.1 hpart)
    · intro part hpart
      exact List.mem_takeWhile_imp (List.mem_reverse.1 hpart)
    · intro part hpart
      rw [List.getLast?_reverse] at hpart
      exact hhead above part hpart

/-- **The parent stands above.** The exceptions have no parent themselves: they are the root and the
empty path. -/
theorem isAbove_of_parent? (h : p.parent? = some q) (hq : q.parent? ≠ none) : q.IsAbove p := by
  rcases parent?_eq_some h with
    ⟨-, -, rfl⟩ | ⟨kept, idle, last, after, htail, -, hlast, -, -, rfl⟩
  · exact absurd rfl hq
  by_cases hkept : kept = []
  · -- the parent is what the path starts with
    subst hkept
    rw [List.intercalate_nil, List.append_nil] at hq ⊢
    refine isAbove_of_anchor (fun hidle => ?_) hq
    have hmem : last ∈ p.tailParts := by rw [← List.mem_reverse, htail]; simp
    rw [List.dropWhile_eq_nil_iff.1 hidle last hmem] at hlast
    cases hlast
  · have hbytes := p.bytes_eq_anchor_append
    rw [htail, intercalate_append hkept (by simp)] at hbytes
    unfold IsAbove
    conv_rhs => rw [hbytes]
    simp only [List.append_assoc]
    exact (List.prefix_append_right_inj _).2 ((List.prefix_append_right_inj _).2
      (List.prefix_append [slash] _))

end EdgeCsv.Path
