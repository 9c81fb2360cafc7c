import EdgeCsv.Proofs.Text.Split
import EdgeCsv.Row

/-!
# What a row keeps of its line

* `hasMarker_iff`: the marker test looks for the two bytes `_i` next to each other.
* `ofLine_ok_cases`: a line has a row in exactly two ways, without a marker or with an index.
* `kind_of_ofLine`: a row is indexed exactly if its line has a marker.
* `mem_bytes_of_ofLine`: a row holds bytes of its line, commas and underscores, and nothing else.
-/

namespace EdgeCsv

namespace Row

variable {line : Bytes} {row : Row} {b : UInt8}

/-- The two bytes of the marker. -/
def marker : Bytes := [underscore, letterI]

theorem marker_prefix_cons {rest : Bytes} :
    marker <+: b :: rest ↔ b = underscore ∧ rest.head? = some letterI :=
  List.cons_prefix_cons.trans (and_congr eq_comm List.singleton_prefix_iff_head?_eq_some)

theorem marker_infix_cons {rest : Bytes} :
    marker <:+: b :: rest ↔ b = underscore ∧ rest.head? = some letterI ∨ marker <:+: rest := by
  rw [List.infix_cons_iff, marker_prefix_cons]

/-- **The marker test is a search for two bytes.** -/
theorem hasMarker_iff (line : Bytes) : hasMarker line = true ↔ marker <:+: line := by
  induction line with
  | nil => simp [hasMarker, marker]
  | cons b rest ih =>
    rw [marker_infix_cons, ← ih]
    simp [hasMarker]

theorem isBlank_iff : isBlank b = true ↔ b = 9 ∨ b = 32 := by
  simp [isBlank]

theorem normalize_cons (b : UInt8) (rest : Bytes) :
    normalize (b :: rest) = (if isBlank b then comma else b) :: normalize rest :=
  rfl

/-- No blank is left. -/
theorem isBlank_of_mem_normalize (h : b ∈ normalize line) : isBlank b = false := by
  obtain ⟨a, -, rfl⟩ := List.mem_map.1 h
  by_cases ha : isBlank a = true
  · rw [if_pos ha]; decide
  · rw [if_neg ha]; exact Bool.not_eq_true _ ▸ ha

/-- Turning blanks into commas neither makes nor breaks a marker. -/
theorem hasMarker_normalize (line : Bytes) : hasMarker (normalize line) = hasMarker line := by
  have hkeep : ∀ b : UInt8, ∀ x ∈ marker, (if isBlank b then comma else b) = x ↔ b = x := by
    intro b x hx
    by_cases hb : isBlank b
    · have hx' : x = 95 ∨ x = 105 := by simpa [marker, underscore, letterI] using hx
      rw [if_pos hb]
      rcases isBlank_iff.1 hb with rfl | rfl <;> rcases hx' with rfl | rfl <;> decide
    · rw [if_neg hb]
  induction line with
  | nil => rfl
  | cons b rest ih =>
    have h1 := hkeep b underscore (by simp [marker])
    have h2 : (normalize rest).head? = some letterI ↔ rest.head? = some letterI := by
      cases rest with
      | nil => simp [normalize]
      | cons c _ => simpa [normalize] using hkeep c letterI (by simp [marker])
    rw [normalize_cons, hasMarker, hasMarker, ih, decide_eq_decide.2 h1, decide_eq_decide.2 h2]

theorem marker_infix_normalize (line : Bytes) :
    marker <:+: normalize line ↔ marker <:+: line := by
  rw [← hasMarker_iff, ← hasMarker_iff, hasMarker_normalize]

/-- **The two ways to a row.** -/
theorem ofLine_ok_cases (h : ofLine line = .ok row) :
    (hasMarker line = false ∧ row = ⟨.plain, normalize line⟩) ∨
      (hasMarker line = true ∧ ∃ source target label index more,
        fields (normalize line) = source :: target :: label :: index :: more ∧
          row = indexed source target label index) := by
  simp only [ofLine, hasMarker_normalize] at h
  cases hm : hasMarker line with
  | false =>
    rw [hm] at h
    exact .inl ⟨rfl, (Except.ok.inj h).symm⟩
  | true =>
    rw [hm, if_pos rfl] at h
    split at h
    · rename_i source target label index more hf
      exact .inr ⟨rfl, source, target, label, index, more, hf, (Except.ok.inj h).symm⟩
    · cases h

/-- **A row is indexed exactly if its line has a marker.** -/
theorem kind_of_ofLine (h : ofLine line = .ok row) :
    row.kind = .indexed ↔ hasMarker line = true := by
  rcases ofLine_ok_cases h with ⟨hm, rfl⟩ | ⟨hm, _, _, _, _, _, _, rfl⟩
  · simp [hm]
  · simp [hm, indexed]

theorem mem_normalize (h : b ∈ normalize line) : b = comma ∨ b ∈ line := by
  obtain ⟨a, ha, rfl⟩ := List.mem_map.1 h
  by_cases hb : isBlank a
  · exact .inl (if_pos hb)
  · rw [if_neg hb]; exact .inr ha

theorem mem_replaceMarker {replacement label : Bytes} (h : b ∈ replaceMarker replacement label) :
    b ∈ replacement ∨ b ∈ label := by
  fun_induction replaceMarker replacement label with
  | case1 => cases h
  | case2 => exact .inr h
  | case3 b₀ b₁ rest hm ih =>
    rcases List.mem_append.1 h with h | h
    · exact .inl h
    · exact (ih h).imp_right fun h => List.mem_cons_of_mem _ (List.mem_cons_of_mem _ h)
  | case4 b₀ b₁ rest hm ih =>
    rcases List.mem_cons.1 h with rfl | h
    · exact .inr List.mem_cons_self
    · exact (ih h).imp_right (List.mem_cons_of_mem _)

/-- An indexed row is made of its four fields, commas and underscores. -/
theorem mem_indexed {source target label index : Bytes}
    (h : b ∈ (indexed source target label index).bytes) :
    b = comma ∨ b = underscore ∨ ∃ field ∈ [source, target, label, index], b ∈ field := by
  simp only [indexed, List.mem_append, List.mem_cons] at h
  rcases h with (h | rfl | h) | rfl | h
  · exact .inr (.inr ⟨source, by simp, h⟩)
  · exact .inl rfl
  · exact .inr (.inr ⟨target, by simp, h⟩)
  · exact .inl rfl
  · rcases mem_replaceMarker h with h | h
    · rcases List.mem_cons.1 h with rfl | h
      · exact .inr (.inl rfl)
      · exact .inr (.inr ⟨index, by simp, h⟩)
    · exact .inr (.inr ⟨label, by simp, h⟩)

/-- **A row holds bytes of its line, commas and underscores, and nothing else.** -/
theorem mem_bytes_of_ofLine (h : ofLine line = .ok row) (hb : b ∈ row.bytes) :
    b = comma ∨ b = underscore ∨ b ∈ line := by
  rcases ofLine_ok_cases h with ⟨-, rfl⟩ | ⟨-, source, target, label, index, more, hf, rfl⟩
  · exact (mem_normalize hb).imp_right .inr
  · rcases mem_indexed hb with hb | hb | ⟨field, hmem, hb⟩
    · exact .inl hb
    · exact .inr (.inl hb)
    · have hin : field ∈ fields (normalize line) := by
        rw [hf]; exact List.mem_append_left more hmem
      exact (mem_normalize (mem_of_mem_splitOn hin b hb).1).imp_right .inr

end Row

end EdgeCsv
