import Mathlib.Data.List.Infix
import EdgeCsv.Conversion.Writer
import EdgeCsv.Proofs.Row

/-!
# The rows of a dump, line by line

* `ofLines_append`: lines that all have rows put their rows in front of what the lines behind them
  give, and add to the counts.
* `carryOut_unlimited`: a writer that takes everything ends up with all the bytes of the steps.
* `writeRows_unlimited`: what a conversion onto such a writer writes and ends in.
-/

namespace EdgeCsv.Conversion

variable {before after : List Bytes} {line : Bytes} {rows : List Row} {n : Nat}

/-- The lines have these rows, one for each. -/
def HaveRows (ls : List Bytes) (rows : List Row) : Prop :=
  ls.map Row.ofLine = rows.map .ok

/-- The text of some rows, each ended by a line feed. -/
def rowText (rows : List Row) : Bytes :=
  rows.flatMap fun row => row.bytes ++ [lineFeed]

namespace HaveRows

theorem length_eq (h : HaveRows before rows) : before.length = rows.length := by
  simpa using congrArg List.length h

theorem cons_iff {row : Row} :
    HaveRows (line :: before) (row :: rows) ↔ Row.ofLine line = .ok row ∧ HaveRows before rows := by
  simp [HaveRows]

theorem nil_iff : HaveRows [] rows ↔ rows = [] := by
  simp [HaveRows, eq_comm]

theorem exists_cons (h : HaveRows (line :: before) rows) :
    ∃ row rows', rows = row :: rows' ∧ Row.ofLine line = .ok row ∧ HaveRows before rows' := by
  cases rows with
  | nil => simp [HaveRows] at h
  | cons row rows => exact ⟨row, rows, rfl, cons_iff.1 h⟩

end HaveRows

/-- Either all lines have rows, or there is a first one that has none. -/
theorem haveRows_or_first (ls : List Bytes) :
    (∃ rows, HaveRows ls rows) ∨ ∃ before line after rows missing,
      ls = before ++ line :: after ∧ HaveRows before rows ∧ Row.ofLine line = .error missing := by
  induction ls with
  | nil => exact .inl ⟨[], rfl⟩
  | cons line ls ih =>
    cases hl : Row.ofLine line with
    | error missing => exact .inr ⟨[], line, ls, [], missing, rfl, rfl, hl⟩
    | ok row =>
      rcases ih with ⟨rows, h⟩ | ⟨before, line', after, rows, missing, rfl, h, h'⟩
      · exact .inl ⟨row :: rows, HaveRows.cons_iff.2 ⟨hl, h⟩⟩
      · exact .inr ⟨line :: before, line', after, row :: rows, missing, rfl,
          HaveRows.cons_iff.2 ⟨hl, h⟩, h'⟩

/-- The counts with some more rows. -/
def Summary.countAll (s : Summary) (rows : List Row) : Summary where
  inputLines := s.inputLines + rows.length
  indexedRows := s.indexedRows + rows.countP (·.kind = .indexed)

theorem Summary.countAll_cons (s : Summary) (row : Row) (rows : List Row) :
    s.countAll (row :: rows) = (s.countAll rows).count row := by
  unfold countAll count
  rw [List.length_cons, List.countP_cons, ← Nat.add_assoc, ← Nat.add_assoc]
  by_cases h : row.kind = .indexed <;> simp [h]

theorem written_rowSteps (row : Row) :
    (Rows.rowSteps n row).flatMap Step.written = row.bytes ++ [lineFeed] := by
  unfold Rows.rowSteps
  cases row.kind <;> simp [Step.written]

/-- **Lines with rows, then others.** The rows come first, the numbering goes on, and the counts
grow by the rows. -/
theorem ofLines_append (h : HaveRows before rows) (rest : List Bytes) :
    (Rows.ofLines n (before ++ rest)).written =
        rowText rows ++ (Rows.ofLines (n + before.length) rest).written ∧
      (Rows.ofLines n (before ++ rest)).result =
        (Rows.ofLines (n + before.length) rest).result.map (·.countAll rows) := by
  induction before generalizing rows n with
  | nil =>
    obtain rfl := HaveRows.nil_iff.1 h
    cases hr : (Rows.ofLines n rest).result <;> simp [rowText, Summary.countAll, Except.map, hr]
  | cons line before ih =>
    obtain ⟨row, rows, rfl, hl, hb⟩ := h.exists_cons
    obtain ⟨hw, hr⟩ := ih (n := n + 1) hb
    have hn : n + 1 + before.length = n + (line :: before).length := by
      rw [List.length_cons]; omega
    rw [hn] at hw hr
    rw [List.cons_append, Rows.ofLines, hl]
    refine ⟨?_, ?_⟩
    · change List.flatMap Step.written (Rows.rowSteps n row ++ _) = _
      rw [List.flatMap_append, written_rowSteps]
      change _ ++ (Rows.ofLines (n + 1) (before ++ rest)).written = _
      rw [hw]
      simp [rowText]
    · change Except.map _ (Rows.ofLines (n + 1) (before ++ rest)).result = _
      rw [hr]
      cases (Rows.ofLines (n + (line :: before).length) rest).result with
      | error m => rfl
      | ok s => simp only [Except.map]; rw [Summary.countAll_cons]

/-- The rows of lines that all have one. -/
theorem ofLines_of_haveRows (h : HaveRows before rows) :
    (Rows.ofLines n before).written = rowText rows ∧
      (Rows.ofLines n before).result = .ok (Summary.zero.countAll rows) := by
  have := ofLines_append (n := n) h []
  simpa [Rows.ofLines, Rows.written, Except.map] using this

/-- The rows of lines up to the first that has none. -/
theorem ofLines_of_first {missing : Row.MissingIndex} (h : HaveRows before rows)
    (hl : Row.ofLine line = .error missing) (after : List Bytes) :
    (Rows.ofLines n (before ++ line :: after)).written = rowText rows ∧
      (Rows.ofLines n (before ++ line :: after)).result =
        .error ⟨n + before.length, missing.fieldCount, Utf8.lossy line⟩ := by
  have := ofLines_append (n := n) h (line :: after)
  simpa [Rows.ofLines, hl, Rows.written, Step.written, Except.map] using this

/-- A dump starts with the header. -/
theorem written_ofDump (dump : Bytes) :
    (Rows.ofDump dump).written = header ++ [lineFeed] ++ (Rows.ofLines 1 (lines dump)).written := by
  simp [Rows.ofDump, Rows.written, Step.written]

/-- A dump whose lines all have rows. -/
theorem ofDump_of_haveRows {dump : Bytes} (h : HaveRows (lines dump) rows) :
    (Rows.ofDump dump).written = header ++ [lineFeed] ++ rowText rows ∧
      (Rows.ofDump dump).result = .ok (Summary.zero.countAll rows) := by
  obtain ⟨hw, hr⟩ := ofLines_of_haveRows (n := 1) h
  rw [written_ofDump, hw]
  exact ⟨rfl, hr⟩

/-- A dump up to its first line without a row. -/
theorem ofDump_of_first {dump : Bytes} {missing : Row.MissingIndex}
    (hls : lines dump = before ++ line :: after) (h : HaveRows before rows)
    (hl : Row.ofLine line = .error missing) :
    (Rows.ofDump dump).written = header ++ [lineFeed] ++ rowText rows ∧
      (Rows.ofDump dump).result =
        .error ⟨before.length + 1, missing.fieldCount, Utf8.lossy line⟩ := by
  obtain ⟨hw, hr⟩ := ofLines_of_first (n := 1) h hl after
  rw [written_ofDump, hls, hw]
  refine ⟨rfl, ?_⟩
  simp only [Rows.ofDump, hls, hr, Nat.add_comm]

/-- A writer that takes everything ends up with all the bytes. -/
theorem carryOut_unlimited (taken : Bytes) (steps : List Step) :
    (Writer.unlimited.carryOut taken steps).1 = none ∧
      (Writer.unlimited.carryOut taken steps).2.1 = taken ++ steps.flatMap Step.written := by
  induction steps generalizing taken with
  | nil => simp [Writer.carryOut]
  | cons step steps ih =>
    cases step with
    | say event => simpa [Writer.carryOut, Step.written] using ih taken
    | write bytes =>
      simpa [Writer.carryOut, Writer.unlimited, Step.written] using ih (taken ++ bytes)

/-- What a conversion ends in, and what its writer then holds, from how its steps went. -/
theorem writeRows_eq {σ : Type} (w : Writer σ) (s : σ) (dump : Bytes) (output : Path) :
    writeRows w s dump output =
      ((w.carryOut s (Rows.ofDump dump).steps).1.elim
          ((Rows.ofDump dump).result.mapError .malformedRecord) (.error <| .writeOutput output ·),
        (w.carryOut s (Rows.ofDump dump).steps).2) := by
  simp only [writeRows]
  rcases w.carryOut s (Rows.ofDump dump).steps with ⟨_ | e, s', log⟩ <;> rfl

/-- A conversion whose steps fail in one way only, and only if something does not fit. -/
theorem result_writeRows_of_ite {σ : Type} {w : Writer σ} {s : σ} {dump : Bytes} {fits : Prop}
    [Decidable fits] {reason : IoError}
    (h : (w.carryOut s (Rows.ofDump dump).steps).1 = if fits then none else some reason)
    (output : Path) :
    (writeRows w s dump output).1 =
      if fits then (Rows.ofDump dump).result.mapError .malformedRecord
      else .error (.writeOutput output reason) := by
  rw [writeRows_eq, h]
  by_cases hfits : fits
  · rw [if_pos hfits, if_pos hfits]; rfl
  · rw [if_neg hfits, if_neg hfits]; rfl

/-- **Onto a writer that takes everything**, a conversion writes all its bytes and ends as its rows
do. -/
theorem writeRows_unlimited (taken dump : Bytes) (output : Path) :
    (writeRows .unlimited taken dump output).1 =
        (Rows.ofDump dump).result.mapError .malformedRecord ∧
      (writeRows .unlimited taken dump output).2.1 = taken ++ (Rows.ofDump dump).written := by
  obtain ⟨h1, h2⟩ := carryOut_unlimited taken (Rows.ofDump dump).steps
  rw [writeRows_eq, h1]
  exact ⟨rfl, h2⟩

/-- A dump whose lines all have rows, onto a writer that takes everything. -/
theorem writeRows_of_haveRows {dump : Bytes} (h : HaveRows (lines dump) rows) (output : Path) :
    (writeRows .unlimited [] dump output).1 = .ok (Summary.zero.countAll rows) ∧
      (writeRows .unlimited [] dump output).2.1 = header ++ [lineFeed] ++ rowText rows := by
  obtain ⟨hresult, hwritten⟩ := writeRows_unlimited [] dump output
  obtain ⟨hw, hr⟩ := ofDump_of_haveRows h
  rw [hresult, hwritten, hw, hr]
  exact ⟨rfl, rfl⟩

/-- A dump up to its first line without a row, onto a writer that takes everything. -/
theorem writeRows_of_first {dump : Bytes} {missing : Row.MissingIndex}
    (hls : lines dump = before ++ line :: after) (h : HaveRows before rows)
    (hl : Row.ofLine line = .error missing) (output : Path) :
    (writeRows .unlimited [] dump output).1 =
        .error (.malformedRecord ⟨before.length + 1, missing.fieldCount, Utf8.lossy line⟩) ∧
      (writeRows .unlimited [] dump output).2.1 = header ++ [lineFeed] ++ rowText rows := by
  obtain ⟨hresult, hwritten⟩ := writeRows_unlimited [] dump output
  obtain ⟨hw, hr⟩ := ofDump_of_first hls h hl
  rw [hresult, hwritten, hw, hr]
  exact ⟨rfl, rfl⟩

/-- No row of a dump breaks a line. -/
theorem lineFeed_notMem_of_haveRows (dump : Bytes) (h : HaveRows before rows)
    (hb : ∀ line ∈ before, line ∈ lines dump) : ∀ row ∈ rows, lineFeed ∉ row.bytes := by
  intro row hrow hmem
  have hok : Except.ok row ∈ before.map Row.ofLine := by
    rw [h]; exact List.mem_map_of_mem hrow
  obtain ⟨line, hline, hl⟩ := List.mem_map.1 hok
  rcases Row.mem_bytes_of_ofLine hl hmem with h | h | h
  · exact absurd h (by decide)
  · exact absurd h (by decide)
  · exact (mem_of_mem_splitOn (hb line hline) _ h).2 rfl

/-- Splitting the text of rows at the line feeds gives the rows back, and an empty piece behind the
last line feed. -/
theorem splitOn_rowText (h : ∀ row ∈ rows, lineFeed ∉ row.bytes) :
    (rowText rows).splitOn lineFeed = rows.map Row.bytes ++ [[]] := by
  induction rows with
  | nil => rfl
  | cons row rows ih =>
    have hrow := h row List.mem_cons_self
    have ih := ih fun row hmem => h row (List.mem_cons_of_mem _ hmem)
    have hcons : rowText (row :: rows) = row.bytes ++ lineFeed :: rowText rows := by
      simp [rowText]
    rw [hcons, List.splitOn_append_cons_self_of_not_mem hrow, ih]
    rfl

/-- One line feed for each row. -/
theorem count_rowText (h : ∀ row ∈ rows, lineFeed ∉ row.bytes) :
    (rowText rows).count lineFeed = rows.length := by
  induction rows with
  | nil => rfl
  | cons row rows ih =>
    have hrow := List.count_eq_zero_of_not_mem (h row List.mem_cons_self)
    have ih := ih fun row hmem => h row (List.mem_cons_of_mem _ hmem)
    unfold rowText at ih ⊢
    rw [List.flatMap_cons, List.count_append, List.count_append, hrow, ih, List.length_cons]
    simp [Nat.add_comm]

/-- As many rows are indexed as lines have a marker. -/
theorem countP_indexed (h : HaveRows before rows) :
    rows.countP (·.kind = .indexed) = before.countP (Row.marker <:+: ·) := by
  induction before generalizing rows with
  | nil =>
    obtain rfl := HaveRows.nil_iff.1 h
    rfl
  | cons line before ih =>
    obtain ⟨row, rows, rfl, hl, hb⟩ := h.exists_cons
    have hkind : row.kind = .indexed ↔ Row.marker <:+: line := by
      rw [Row.kind_of_ofLine hl, Row.hasMarker_iff]
    rw [List.countP_cons, List.countP_cons, ih hb]
    simp only [hkind]

/-- There are at most as many lines as bytes, and one more. -/
theorem length_lines_le (dump : Bytes) : (lines dump).length ≤ dump.length + 1 := by
  unfold lines
  induction dump with
  | nil => simp
  | cons b dump ih =>
    rw [List.splitOn_cons_eq_if_modifyHead]
    split
    · rw [List.length_cons, List.length_cons]; omega
    · rw [List.length_modifyHead, List.length_cons]; omega

/-- **What a conversion writes and reports**, line by line, if its writer takes everything. If each
line has a row, the lines written are the header and the rows, the counts are those of the lines,
and the number of lines written does not wrap. Otherwise the first line without a row is reported,
and the rows before it are written. -/
theorem writeRows_line_by_line (dump : Bytes) (output : Path) :
    ((∀ line ∈ lines dump, ∃ row, Row.ofLine line = .ok row) →
      ∃ rows summary, HaveRows (lines dump) rows ∧
        (writeRows .unlimited [] dump output).1 = .ok summary ∧
        (writeRows .unlimited [] dump output).2.1.splitOn lineFeed =
          header :: rows.map Row.bytes ++ [[]] ∧
        summary.inputLines = (lines dump).length ∧
        summary.indexedRows = (lines dump).countP (Row.marker <:+: ·) ∧
        (dump.length < Nat.pow 2 63 →
          summary.outputLines = summary.inputLines + 1 ∧
            summary.outputLines =
              (writeRows .unlimited [] dump output).2.1.count lineFeed)) ∧
    ((∃ line ∈ lines dump, ∃ missing, Row.ofLine line = .error missing) →
      ∃ before line after rows missing, lines dump = before ++ line :: after ∧
        HaveRows before rows ∧ Row.ofLine line = .error missing ∧
        (writeRows .unlimited [] dump output).1 =
          .error (.malformedRecord ⟨before.length + 1, missing.fieldCount, Utf8.lossy line⟩) ∧
        (writeRows .unlimited [] dump output).2.1 = header ++ [lineFeed] ++ rowText rows) := by
  have hheader : lineFeed ∉ header := by decide
  constructor
  · intro hall
    rcases haveRows_or_first (lines dump) with ⟨rows, h⟩ | ⟨_, line, _, _, _, hls, -, hl⟩
    · obtain ⟨hr, hw⟩ := writeRows_of_haveRows h output
      have hrows := h.length_eq
      have hfree := lineFeed_notMem_of_haveRows dump h fun _ h => h
      refine ⟨rows, Summary.zero.countAll rows, h, hr, ?_, ?_, ?_, ?_⟩
      · rw [hw, List.append_assoc, List.singleton_append,
          List.splitOn_append_cons_self_of_not_mem hheader, splitOn_rowText hfree]
        rfl
      · simp [Summary.countAll, Summary.zero, hrows]
      · simp [Summary.countAll, Summary.zero, countP_indexed h]
      · intro hlen
        have hout : (Summary.zero.countAll rows).outputLines = rows.length + 1 := by
          have hle := length_lines_le dump
          have hpow : Nat.pow 2 63 = 9223372036854775808 := rfl
          simp only [Summary.outputLines, Summary.countAll, Summary.zero, UInt64.size]
          omega
        rw [hout, hw, List.count_append, List.count_append, count_rowText hfree,
          List.count_eq_zero_of_not_mem hheader]
        refine ⟨?_, ?_⟩
        · simp [Summary.countAll, Summary.zero]
        · simp [Nat.add_comm]
    · obtain ⟨row, hrow⟩ := hall line (by rw [hls]; simp)
      rw [hl] at hrow; cases hrow
  · rintro ⟨bad, hbad, missing', hmissing⟩
    rcases haveRows_or_first (lines dump) with
      ⟨rows, h⟩ | ⟨before, line, after, rows, missing, hls, h, hl⟩
    · have hmem : Except.error missing' ∈ (lines dump).map Row.ofLine := by
        rw [← hmissing]; exact List.mem_map_of_mem hbad
      rw [h] at hmem
      simp at hmem
    · exact ⟨before, line, after, rows, missing, hls, h, hl, writeRows_of_first hls h hl output⟩

/-- At a dump of one indexed line and an empty one, and at a dump whose second line lacks its
index. -/
theorem writeRows_line_by_line_short :
    (∃ summary, (writeRows .unlimited [] (Bytes.ofString "1 2 a_i 7\n") (.ofString "o")).1 =
        .ok summary ∧ summary.inputLines = 2 ∧ summary.indexedRows = 1) ∧
      ∃ m, (writeRows .unlimited [] (Bytes.ofString "1 2 a\n3 4 b_i") (.ofString "o")).1 =
        .error (.malformedRecord m) := by
  have hgood : lines (Bytes.ofString "1 2 a_i 7\n") = [Bytes.ofString "1 2 a_i 7", []] := by decide
  have hbad : lines (Bytes.ofString "1 2 a\n3 4 b_i") =
      [Bytes.ofString "1 2 a", Bytes.ofString "3 4 b_i"] := by decide
  constructor
  · have hall : ∀ line ∈ lines (Bytes.ofString "1 2 a_i 7\n"),
        ∃ row, Row.ofLine line = .ok row := by
      rw [hgood]
      simp only [List.forall_mem_cons]
      exact ⟨⟨⟨.indexed, Bytes.ofString "1,2,a_7"⟩, by decide⟩, ⟨⟨.plain, []⟩, by decide⟩, by simp⟩
    obtain ⟨_, summary, _, hok, _, hlines, hindexed, _⟩ :=
      (writeRows_line_by_line (Bytes.ofString "1 2 a_i 7\n") (.ofString "o")).1 hall
    refine ⟨summary, hok, ?_, ?_⟩
    · rw [hlines, hgood]; rfl
    · rw [hindexed, hgood]; decide
  · have hex : ∃ line ∈ lines (Bytes.ofString "1 2 a\n3 4 b_i"),
        ∃ missing, Row.ofLine line = .error missing := by
      rw [hbad]
      exact ⟨Bytes.ofString "3 4 b_i", by simp, ⟨3⟩, by decide⟩
    obtain ⟨_, _, _, _, _, _, _, _, herr, _⟩ :=
      (writeRows_line_by_line (Bytes.ofString "1 2 a\n3 4 b_i") (.ofString "o")).2 hex
    exact ⟨_, herr⟩

end EdgeCsv.Conversion
