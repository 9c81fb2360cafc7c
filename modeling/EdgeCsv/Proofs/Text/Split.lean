import Mathlib.Data.List.Basic
import EdgeCsv.Text.Utf8

/-!
# Splitting and joining byte strings

Lines, fields and the parts of a path are all pieces between one separating byte.
-/

namespace EdgeCsv

variable {x b : UInt8}

/-- A piece of a split holds elements of the list, and the separator is not among them. -/
theorem mem_of_mem_splitOn {xs piece : Bytes} (h : piece ∈ xs.splitOn x) :
    ∀ b ∈ piece, b ∈ xs ∧ b ≠ x := by
  induction xs generalizing piece with
  | nil =>
    rw [List.splitOn_nil, List.mem_singleton] at h
    subst h; simp
  | cons a xs ih =>
    rw [List.splitOn_cons_eq_if_modifyHead] at h
    obtain ⟨first, others, hsplit⟩ := List.exists_cons_of_ne_nil (List.splitOn_ne_nil x xs)
    have hrest : piece ∈ xs.splitOn x → ∀ b ∈ piece, b ∈ a :: xs ∧ b ≠ x :=
      fun h b hb => ⟨List.mem_cons_of_mem _ (ih h b hb).1, (ih h b hb).2⟩
    by_cases ha : a = x
    · rw [if_pos (by simpa using ha), List.mem_cons] at h
      rcases h with rfl | h
      · simp
      · exact hrest h
    · rw [if_neg (by simpa using ha), hsplit, List.modifyHead_cons, List.mem_cons] at h
      rcases h with rfl | h
      · intro b hb
        rcases List.mem_cons.1 hb with rfl | hb
        · exact ⟨List.mem_cons_self, ha⟩
        · have := ih (hsplit ▸ List.mem_cons_self) b hb
          exact ⟨List.mem_cons_of_mem _ this.1, this.2⟩
      · exact hrest (hsplit ▸ List.mem_cons_of_mem _ h)

theorem intercalate_append {before after : List Bytes} (hb : before ≠ []) (ha : after ≠ []) :
    [x].intercalate (before ++ after) =
      [x].intercalate before ++ x :: [x].intercalate after := by
  induction before with
  | nil => exact absurd rfl hb
  | cons part before ih =>
    cases before with
    | nil =>
      rw [List.singleton_append, List.intercalate_cons_of_ne_nil ha, List.intercalate_singleton,
        List.append_assoc, List.singleton_append]
    | cons next before =>
      have hnext : next :: before ≠ [] := by simp
      have hmore : next :: before ++ after ≠ [] := by simp
      rw [List.cons_append, List.intercalate_cons_of_ne_nil hmore, ih hnext,
        List.intercalate_cons_of_ne_nil hnext]
      simp only [List.append_assoc]

/-- Joined pieces end as the last one does. -/
theorem getLast?_intercalate {pieces : List Bytes} {piece : Bytes} (h : piece ≠ []) :
    ([x].intercalate (pieces ++ [piece])).getLast? = piece.getLast? := by
  by_cases hpieces : pieces = []
  · subst hpieces
    rw [List.nil_append, List.intercalate_singleton]
  · rw [intercalate_append hpieces (by simp), List.intercalate_singleton, List.append_cons,
      List.getLast?_append_of_ne_nil _ h]

/-- A byte of joined pieces that is not the separator comes from one of them. -/
theorem mem_intercalate (hb : b ≠ x) {pieces : List Bytes} :
    b ∈ [x].intercalate pieces ↔ ∃ piece ∈ pieces, b ∈ piece := by
  induction pieces with
  | nil => simp
  | cons piece rest ih =>
    by_cases hrest : rest = []
    · subst hrest
      simp [List.intercalate_singleton]
    · rw [List.intercalate_cons_of_ne_nil hrest, List.mem_append, List.mem_append, ih]
      simp [hb]

end EdgeCsv
