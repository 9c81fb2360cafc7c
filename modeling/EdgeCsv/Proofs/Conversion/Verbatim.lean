import EdgeCsv.Proofs.Conversion.Rows
import EdgeCsv.Proofs.Row.Fields

/-!
# Dumps that are copied as they are

A dump with no tab, no space and no marker in it (`Row.IsClean`) is a CSV but for its header, and is
copied. No other dump comes out as it went in: a blank does not stay, and a line with a marker has
four fields or more, of which three are left.

* `ofLine_self_iff`: which lines are their own rows.
* `rowText_eq_iff`: rows spell a dump exactly if they are its lines.
* `writeRows_verbatim_iff`: which dumps are copied.
-/

namespace EdgeCsv

namespace Row

variable {line : Bytes}

/-- A text in which there is nothing to rewrite. -/
structure IsClean (text : Bytes) : Prop where
  /-- There is no tab in it. -/
  tabless : 9 ∉ text
  /-- There is no space in it. -/
  spaceless : 32 ∉ text
  /-- There is no marker in it. -/
  markerless : ¬ marker <:+: text

theorem blankless_iff : (∀ b ∈ line, isBlank b = false) ↔ 9 ∉ line ∧ 32 ∉ line := by
  constructor
  · intro h
    exact ⟨fun hb => absurd (h 9 hb) (by decide), fun hb => absurd (h 32 hb) (by decide)⟩
  · rintro ⟨htab, hspace⟩ b hb
    rw [← Bool.not_eq_true, isBlank_iff]
    rintro (rfl | rfl)
    · exact htab hb
    · exact hspace hb

/-- **A line is its own row** exactly if there is nothing in it to rewrite. -/
theorem ofLine_self_iff : (∃ row, ofLine line = .ok row ∧ row.bytes = line) ↔ IsClean line := by
  constructor
  · rintro ⟨row, hrow, hself⟩
    have hblank : ∀ b ∈ line, isBlank b = false := by
      intro b hb
      rw [← hself] at hb
      exact isBlank_of_mem_row hrow hb
    obtain ⟨htab, hspace⟩ := blankless_iff.1 hblank
    refine ⟨htab, hspace, ?_⟩
    rcases ofLine_ok_cases hrow with ⟨hm, -⟩ | ⟨-, source, target, label, index, more, hf, hindexed⟩
    · rw [← hasMarker_iff, hm]
      simp
    · -- the line has its index still, the row has given it up
      have hfour : fields line = source :: target :: label :: index :: more := by
        rw [← hf, normalize_of_blankless hblank]
      rw [fields_normalize] at hf
      have hthree := fields_indexed hf
      rw [← hindexed, hself, hfour] at hthree
      simp at hthree
  · rintro ⟨htab, hspace, hm⟩
    have hblank := blankless_iff.2 ⟨htab, hspace⟩
    exact ⟨_, ofLine_of_markerless hm, normalize_of_blankless hblank⟩

end Row

namespace Conversion

variable {ls : List Bytes} {rows : List Row} {dump : Bytes}

/-- A dump is clean exactly if its lines are. -/
theorem isClean_iff_lines (dump : Bytes) :
    Row.IsClean dump ↔ ∀ line ∈ lines dump, Row.IsClean line := by
  have hjoined : [lineFeed].intercalate (lines dump) = dump := List.intercalate_splitOn lineFeed
  have hbyte : ∀ b, b ≠ lineFeed → (b ∈ dump ↔ ∃ line ∈ lines dump, b ∈ line) := by
    intro b hb
    conv_lhs => rw [← hjoined]
    exact mem_intercalate hb
  have hmarker : Row.marker <:+: dump ↔ ∃ line ∈ lines dump, Row.marker <:+: line := by
    conv_lhs => rw [← hjoined]
    exact Row.marker_infix_intercalate (by decide)
  constructor
  · rintro ⟨htab, hspace, hm⟩ line hline
    exact ⟨fun hb => htab ((hbyte 9 (by decide)).2 ⟨line, hline, hb⟩),
      fun hb => hspace ((hbyte 32 (by decide)).2 ⟨line, hline, hb⟩),
      fun hin => hm (hmarker.2 ⟨line, hline, hin⟩)⟩
  · intro hall
    refine ⟨fun hb => ?_, fun hb => ?_, fun hin => ?_⟩
    · obtain ⟨line, hline, hb⟩ := (hbyte 9 (by decide)).1 hb
      exact (hall line hline).tabless hb
    · obtain ⟨line, hline, hb⟩ := (hbyte 32 (by decide)).1 hb
      exact (hall line hline).spaceless hb
    · obtain ⟨line, hline, hin⟩ := hmarker.1 hin
      exact (hall line hline).markerless hin

/-- Lines are their own rows exactly if they are clean. -/
theorem HaveRows.bytes_eq_iff (h : HaveRows ls rows) :
    rows.map Row.bytes = ls ↔ ∀ line ∈ ls, Row.IsClean line := by
  induction ls generalizing rows with
  | nil =>
    obtain rfl := HaveRows.nil_iff.1 h
    simp
  | cons line ls ih =>
    obtain ⟨row, rows, rfl, hl, hls⟩ := h.exists_cons
    have hself : row.bytes = line ↔ Row.IsClean line := by
      rw [← Row.ofLine_self_iff]
      constructor
      · intro hbytes
        exact ⟨row, hl, hbytes⟩
      · rintro ⟨row', hl', hbytes⟩
        rw [hl] at hl'
        rw [Except.ok.inj hl']
        exact hbytes
    rw [List.map_cons, List.cons.injEq, hself, ih hls, List.forall_mem_cons]

/-- **Rows spell a dump**, up to the last line feed, exactly if they are its lines. -/
theorem rowText_eq_iff (h : ∀ row ∈ rows, lineFeed ∉ row.bytes) :
    rowText rows = dump ++ [lineFeed] ↔ rows.map Row.bytes = lines dump := by
  have hlines : lines (dump ++ [lineFeed]) = lines dump ++ [[]] :=
    List.splitOn_append_cons_self dump []
  constructor
  · intro heq
    have hsplit := splitOn_rowText h
    rw [heq] at hsplit
    exact (List.append_cancel_right (hlines.symm.trans hsplit)).symm
  · intro hrows
    have hsplit := splitOn_rowText h
    rw [hrows, ← hlines] at hsplit
    calc rowText rows = [lineFeed].intercalate ((rowText rows).splitOn lineFeed) :=
          (List.intercalate_splitOn lineFeed).symm
      _ = [lineFeed].intercalate (lines (dump ++ [lineFeed])) := by rw [hsplit]
      _ = dump ++ [lineFeed] := List.intercalate_splitOn lineFeed

/-- **Which dumps are copied as they are.** Onto a writer that takes everything, a conversion ends
well and writes the header and then the dump itself, ended by a line feed, if and only if the dump
has no tab, no space and no marker. -/
theorem writeRows_verbatim_iff (dump : Bytes) (output : Path) :
    ((∃ summary, (writeRows .unlimited [] dump output).1 = .ok summary) ∧
      (writeRows .unlimited [] dump output).2.1 =
        header ++ [lineFeed] ++ dump ++ [lineFeed]) ↔
    9 ∉ dump ∧ 32 ∉ dump ∧ ¬ Row.marker <:+: dump := by
  have hclean : (9 ∉ dump ∧ 32 ∉ dump ∧ ¬ Row.marker <:+: dump) ↔ Row.IsClean dump :=
    ⟨fun ⟨htab, hspace, hm⟩ => ⟨htab, hspace, hm⟩,
      fun h => ⟨h.tabless, h.spaceless, h.markerless⟩⟩
  rw [hclean, isClean_iff_lines]
  rcases haveRows_or_first (lines dump) with
    ⟨rows, h⟩ | ⟨before, line, after, rows, missing, hls, h, hl⟩
  · obtain ⟨hresult, hwritten⟩ := writeRows_of_haveRows h output
    have hfree := lineFeed_notMem_of_haveRows dump h fun _ h => h
    rw [hresult, hwritten, and_iff_right ⟨_, rfl⟩, ← h.bytes_eq_iff, ← rowText_eq_iff hfree,
      List.append_assoc (header ++ [lineFeed]), List.append_cancel_left_eq]
  · -- a malformed line is none that could stay
    obtain ⟨hresult, -⟩ := writeRows_of_first hls h hl output
    rw [hresult]
    constructor
    · rintro ⟨⟨summary, hok⟩, -⟩
      cases hok
    · intro hall
      have hmem : line ∈ lines dump := by rw [hls]; simp
      obtain ⟨row, hrow, -⟩ := Row.ofLine_self_iff.2 (hall line hmem)
      rw [hl] at hrow
      cases hrow

end Conversion

end EdgeCsv
