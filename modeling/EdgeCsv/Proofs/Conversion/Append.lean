import EdgeCsv.Proofs.Conversion.Rows

/-!
# Dumps one after the other

A dump is converted line by line, and no line knows of the others. So two dumps with a line feed
between them are converted as each of them is alone, the second without its header.

* `ofLines_renumber`: the number of the first line shows nowhere but in the number of a malformed
  line.
* `writeRows_append`: what two dumps with a line feed between them are converted to.
-/

namespace EdgeCsv.Conversion

variable {before after : List Bytes} {line : Bytes} {rows : List Row} {n : Nat}

/-- The counts of two conversions together. -/
def Summary.add (s t : Summary) : Summary where
  inputLines := s.inputLines + t.inputLines
  indexedRows := s.indexedRows + t.indexedRows

/-- The same line with `k` more lines before it. -/
def Malformed.behind (k : Nat) (m : Malformed) : Malformed :=
  { m with lineNumber := m.lineNumber + k }

theorem lines_append (first second : Bytes) :
    lines (first ++ lineFeed :: second) = lines first ++ lines second :=
  List.splitOn_append_cons_self first second

theorem Summary.countAll_eq_add (s : Summary) (rows : List Row) :
    s.countAll rows = (Summary.zero.countAll rows).add s := by
  simp [countAll, add, zero, Nat.add_comm]

/-- **Numbering.** With other numbers the same rows are written, and the end is the same but for the
number of the malformed line. -/
theorem ofLines_renumber (k n : Nat) (ls : List Bytes) :
    (Rows.ofLines (n + k) ls).written = (Rows.ofLines n ls).written ∧
      (Rows.ofLines (n + k) ls).result = (Rows.ofLines n ls).result.mapError (·.behind k) := by
  rcases haveRows_or_first ls with ⟨rows, h⟩ | ⟨before, line, after, rows, missing, rfl, h, hl⟩
  · obtain ⟨hw, hr⟩ := ofLines_of_haveRows (n := n) h
    obtain ⟨hw', hr'⟩ := ofLines_of_haveRows (n := n + k) h
    rw [hw, hw', hr, hr']
    exact ⟨rfl, rfl⟩
  · obtain ⟨hw, hr⟩ := ofLines_of_first (n := n) h hl after
    obtain ⟨hw', hr'⟩ := ofLines_of_first (n := n + k) h hl after
    have hnumber : n + k + before.length = n + before.length + k := by omega
    rw [hw, hw', hr, hr', hnumber]
    exact ⟨rfl, rfl⟩

/-- The first dump stops the conversion of both. -/
theorem ofDump_append_of_first {first : Bytes} {missing : Row.MissingIndex}
    (hls : lines first = before ++ line :: after) (h : HaveRows before rows)
    (hl : Row.ofLine line = .error missing) (second : Bytes) :
    (Rows.ofDump (first ++ lineFeed :: second)).written = (Rows.ofDump first).written ∧
      (Rows.ofDump (first ++ lineFeed :: second)).result = (Rows.ofDump first).result := by
  have hboth : lines (first ++ lineFeed :: second) = before ++ line :: (after ++ lines second) := by
    rw [lines_append, hls, List.append_assoc, List.cons_append]
  obtain ⟨hw, hr⟩ := ofLines_of_first (n := 1) h hl after
  obtain ⟨hw', hr'⟩ := ofLines_of_first (n := 1) h hl (after ++ lines second)
  rw [written_ofDump, written_ofDump, hboth, hls, hw, hw']
  refine ⟨rfl, ?_⟩
  simp only [Rows.ofDump, hboth, hls, hr, hr']

/-- The first dump has a row for each line: the rows of the second follow, numbered on. -/
theorem ofDump_append_of_haveRows {first : Bytes} (h : HaveRows (lines first) rows)
    (second : Bytes) :
    (Rows.ofDump (first ++ lineFeed :: second)).written =
        (Rows.ofDump first).written ++ (Rows.ofLines 1 (lines second)).written ∧
      (Rows.ofDump (first ++ lineFeed :: second)).result =
        ((Rows.ofDump second).result.mapError (·.behind rows.length)).map
          (Summary.zero.countAll rows).add := by
  obtain ⟨hw, hr⟩ := ofLines_append (n := 1) h (lines second)
  obtain ⟨hw₁, -⟩ := ofLines_of_haveRows (n := 1) h
  obtain ⟨hw₂, hr₂⟩ := ofLines_renumber (lines first).length 1 (lines second)
  rw [hw₂] at hw
  rw [hr₂, h.length_eq] at hr
  rw [written_ofDump, written_ofDump, lines_append, hw, hw₁]
  refine ⟨by simp only [List.append_assoc], ?_⟩
  simp only [Rows.ofDump, lines_append, hr]
  cases (Rows.ofLines 1 (lines second)).result with
  | error m => rfl
  | ok s => exact congrArg Except.ok (Summary.countAll_eq_add s rows)

/-- **Two dumps with a line feed between them**, onto a writer that takes everything. If the first
has a malformed line, the second does not matter. Otherwise what is written for the second follows
without its header; the counts add up, and a malformed line of the second is reported by its number
among all the lines. -/
theorem writeRows_append (first second : Bytes) (output : Path) :
    (∀ e, (writeRows .unlimited [] first output).1 = .error e →
      (writeRows .unlimited [] (first ++ lineFeed :: second) output).1 = .error e ∧
        (writeRows .unlimited [] (first ++ lineFeed :: second) output).2.1 =
          (writeRows .unlimited [] first output).2.1) ∧
    ∀ s, (writeRows .unlimited [] first output).1 = .ok s →
      (∃ rest, (writeRows .unlimited [] second output).2.1 = header ++ [lineFeed] ++ rest ∧
        (writeRows .unlimited [] (first ++ lineFeed :: second) output).2.1 =
          (writeRows .unlimited [] first output).2.1 ++ rest) ∧
      (∀ t, (writeRows .unlimited [] second output).1 = .ok t →
        (writeRows .unlimited [] (first ++ lineFeed :: second) output).1 = .ok (s.add t)) ∧
      ∀ e, (writeRows .unlimited [] second output).1 = .error e →
        ∃ m, e = .malformedRecord m ∧
          (writeRows .unlimited [] (first ++ lineFeed :: second) output).1 =
            .error (.malformedRecord (m.behind s.inputLines)) := by
  obtain ⟨hr₁, hw₁⟩ := writeRows_unlimited [] first output
  obtain ⟨hr₂, hw₂⟩ := writeRows_unlimited [] second output
  obtain ⟨hr, hw⟩ := writeRows_unlimited [] (first ++ lineFeed :: second) output
  rw [hr₁, hr₂, hr, hw₁, hw₂, hw]
  simp only [List.nil_append]
  rcases haveRows_or_first (lines first) with
    ⟨rows, h⟩ | ⟨before, line, after, rows, missing, hls, h, hl⟩
  · -- the first dump has a row for each line
    obtain ⟨hwritten, hresult⟩ := ofDump_append_of_haveRows h second
    have hfirst : (Rows.ofDump first).result = .ok (Summary.zero.countAll rows) :=
      (ofLines_of_haveRows h).2
    have hcount : (Summary.zero.countAll rows).inputLines = rows.length := by
      simp [Summary.countAll, Summary.zero]
    rw [hfirst, hresult, hwritten]
    constructor
    · intro e he; cases he
    · intro s hs
      obtain rfl : Summary.zero.countAll rows = s := Except.ok.inj hs
      refine ⟨⟨_, written_ofDump second, rfl⟩, ?_, ?_⟩
      · intro t ht
        cases hsecond : (Rows.ofDump second).result with
        | error m => rw [hsecond] at ht; cases ht
        | ok u => rw [hsecond] at ht; cases ht; rfl
      · intro e he
        cases hsecond : (Rows.ofDump second).result with
        | error m => rw [hsecond] at he; cases he; exact ⟨m, rfl, by rw [hcount]; rfl⟩
        | ok u => rw [hsecond] at he; cases he
  · -- the first dump has a malformed line, behind which nothing is read
    obtain ⟨hwritten, hresult⟩ := ofDump_append_of_first hls h hl second
    have hfirst : (Rows.ofDump first).result =
        .error ⟨1 + before.length, missing.fieldCount, Utf8.lossy line⟩ := by
      simp only [Rows.ofDump, hls]
      exact (ofLines_of_first h hl after).2
    rw [hresult, hwritten, hfirst]
    constructor
    · intro e he; exact ⟨he, rfl⟩
    · intro s hs; cases hs

/-- A dump of two lines, the second of them empty, before one that is good and before one whose only
line lacks its index: that line is the third. A dump that starts with such a line ends there. -/
theorem writeRows_append_endings :
    let two := Bytes.ofString "1 2 a\n"
    let good := Bytes.ofString "3 4 b"
    let bad := Bytes.ofString "b_i"
    let converted (dump : Bytes) := writeRows .unlimited [] dump (.ofString "o")
    (converted (two ++ lineFeed :: good)).1 = .ok ⟨3, 0⟩ ∧
      (converted (two ++ lineFeed :: bad)).1 = .error (.malformedRecord ⟨3, 1, "b_i"⟩) ∧
      (converted (bad ++ lineFeed :: two)).1 = .error (.malformedRecord ⟨1, 1, "b_i"⟩) := by
  intro two good bad converted
  have htwo : (converted two).1 = .ok ⟨2, 0⟩ := by decide +kernel
  have hgood : (converted good).1 = .ok ⟨1, 0⟩ := by decide +kernel
  have hbad : (converted bad).1 = .error (.malformedRecord ⟨1, 1, "b_i"⟩) := by decide +kernel
  obtain ⟨-, hbefore⟩ := writeRows_append two good (.ofString "o")
  obtain ⟨-, hbefore'⟩ := writeRows_append two bad (.ofString "o")
  obtain ⟨hends, -⟩ := writeRows_append bad two (.ofString "o")
  refine ⟨(hbefore _ htwo).2.1 _ hgood, ?_, (hends _ hbad).1⟩
  obtain ⟨m, hm, hthird⟩ := (hbefore' _ htwo).2.2 _ hbad
  cases hm
  exact hthird

end EdgeCsv.Conversion
