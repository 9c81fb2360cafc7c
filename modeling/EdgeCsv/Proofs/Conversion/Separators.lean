import Mathlib.Data.List.Forall2
import EdgeCsv.Proofs.Action
import EdgeCsv.Proofs.Conversion.Limit
import EdgeCsv.Proofs.Row.Fields

/-!
# One separator for another

Tabs, spaces and commas are one and the same between the fields of a line. So two dumps that differ
in nothing but their separators (`Row.SameButSeparators`) are converted alike: whatever the writer
does, it is handed the same bytes in the same order, and the conversions end alike, except that a
malformed line is shown as it is spelled (`SameEnd`).

* `map_ofLine_lines`: such dumps have the same rows, line by line.
* `carryOut_congr`: what is said on the way makes no difference to a writer.
* `writeRows_sameButSeparators`: such dumps are converted alike on any writer.
* `writeRows_piecemeal_separators`: in particular on one that runs full.
-/

namespace EdgeCsv

namespace Row

variable {line : Bytes} {text text' : Bytes}

/-- The bytes that separate the fields of a line: the tab, the space and the comma. -/
def separators : Bytes := [9, 32, 44]

/-- Two texts with the same bytes in the same places, except that one separator may stand for
another. -/
def SameButSeparators : Bytes → Bytes → Prop :=
  List.Forall₂ fun b b' => b = b' ∨ b ∈ separators ∧ b' ∈ separators

/-- A byte after blanks have become commas. -/
theorem unblanked_cases (b : UInt8) :
    b ∈ separators ∧ (if isBlank b then comma else b) = comma ∨
      b ∉ separators ∧ (if isBlank b then comma else b) = b := by
  by_cases hb : isBlank b = true
  · rw [if_pos hb]
    refine .inl ⟨?_, rfl⟩
    rcases isBlank_iff.1 hb with rfl | rfl <;> decide
  · have hne : b ≠ 9 ∧ b ≠ 32 := by simpa [isBlank_iff] using hb
    rw [if_neg hb]
    by_cases hcomma : b = comma
    · exact .inl ⟨by rw [hcomma]; decide, hcomma⟩
    · refine .inr ⟨?_, rfl⟩
      have hcomma' : b ≠ 44 := hcomma
      simp [separators, hne.1, hne.2, hcomma']

theorem unblanked_eq_iff (b b' : UInt8) :
    (if isBlank b then comma else b) = (if isBlank b' then comma else b') ↔
      b = b' ∨ b ∈ separators ∧ b' ∈ separators := by
  have hcomma : comma ∈ separators := by decide
  rcases unblanked_cases b with ⟨hb, heq⟩ | ⟨hb, heq⟩ <;>
    rcases unblanked_cases b' with ⟨hb', heq'⟩ | ⟨hb', heq'⟩ <;> rw [heq, heq']
  · simp [hb, hb']
  · have hne : b ≠ b' := fun h => hb' (h ▸ hb)
    have hne' : comma ≠ b' := fun h => hb' (h ▸ hcomma)
    simp [hb', hne, hne']
  · have hne : b ≠ b' := fun h => hb (h ▸ hb')
    have hne' : b ≠ comma := fun h => hb (h ▸ hcomma)
    simp [hb, hne, hne']
  · simp [hb]

/-- **Separators and blanks.** Texts are the same but for their separators exactly if they become
equal when every tab and every space is replaced by a comma. -/
theorem sameButSeparators_iff :
    SameButSeparators text text' ↔ normalize text = normalize text' := by
  unfold SameButSeparators normalize
  rw [← List.forall₂_eq_eq_eq, List.forall₂_map_left_iff, List.forall₂_map_right_iff]
  simp only [unblanked_eq_iff]

theorem normalize_normalize (line : Bytes) : normalize (normalize line) = normalize line :=
  normalize_of_blankless fun _ hb => isBlank_of_mem_normalize hb

/-- The blanks of a line make no difference to its row. -/
theorem ofLine_normalize (line : Bytes) : ofLine (normalize line) = ofLine line := by
  unfold ofLine
  rw [normalize_normalize]

end Row

namespace Conversion

variable {σ : Type} {dump dump' : Bytes} {ls ls' : List Bytes} {steps steps' : List Step}

/-! ## The same rows -/

/-- Turning blanks into commas neither makes nor breaks a line. -/
theorem lines_normalize (dump : Bytes) :
    lines (Row.normalize dump) = (lines dump).map Row.normalize := by
  have hkeep : ∀ b : UInt8, ((if Row.isBlank b then Row.comma else b) == lineFeed) =
      (b == lineFeed) := by
    intro b
    by_cases hb : Row.isBlank b = true
    · rw [if_pos hb]
      rcases Row.isBlank_iff.1 hb with rfl | rfl <;> decide
    · rw [if_neg hb]
  unfold lines
  induction dump with
  | nil => rfl
  | cons b dump ih =>
    obtain ⟨first, others, hsplit⟩ := List.exists_cons_of_ne_nil (List.splitOn_ne_nil lineFeed dump)
    rw [Row.normalize_cons, List.splitOn_cons_eq_if_modifyHead, List.splitOn_cons_eq_if_modifyHead,
      ih, hkeep, hsplit]
    by_cases hb : (b == lineFeed) = true
    · rw [if_pos hb, if_pos hb]; rfl
    · rw [if_neg hb, if_neg hb]; rfl

/-- **Dumps that differ in their separators have the same rows**, and are malformed in the same
lines. -/
theorem map_ofLine_lines (h : Row.SameButSeparators dump dump') :
    (lines dump).map Row.ofLine = (lines dump').map Row.ofLine := by
  have hrows : ∀ d, (lines d).map Row.ofLine = (lines (Row.normalize d)).map Row.ofLine := by
    intro d
    rw [lines_normalize, List.map_map]
    apply List.map_congr_left
    intro line _
    exact (Row.ofLine_normalize line).symm
  rw [hrows dump, hrows dump', Row.sameButSeparators_iff.1 h]

/-! ## The same writes -/

/-- What a step hands to the writer, if anything. -/
def Step.write? : Step → Option Bytes
  | .write bytes => some bytes
  | .say _ => none

/-- Where a malformed line is and how many fields it has, without its text. -/
def Malformed.place (m : Malformed) : Nat × Nat :=
  (m.lineNumber, m.fieldCount)

/-- Lines with the same rows: the same is written step by step, and the end is the same but for the
text of the malformed line. -/
theorem ofLines_congr (h : ls.map Row.ofLine = ls'.map Row.ofLine) (n : Nat) :
    (Rows.ofLines n ls).steps.map Step.write? = (Rows.ofLines n ls').steps.map Step.write? ∧
      (Rows.ofLines n ls).result.mapError Malformed.place =
        (Rows.ofLines n ls').result.mapError Malformed.place := by
  induction ls generalizing n ls' with
  | nil =>
    obtain rfl : ls' = [] := by simpa using h.symm
    exact ⟨rfl, rfl⟩
  | cons line ls ih =>
    obtain ⟨line', ls', rfl, hl, hls⟩ := List.map_eq_cons_iff.1 h.symm
    obtain ⟨hsteps, hresult⟩ := ih hls.symm (n + 1)
    simp only [Rows.ofLines, hl]
    cases Row.ofLine line with
    | error missing => exact ⟨rfl, rfl⟩
    | ok row =>
      -- the steps of the row itself are the same, so only what follows them is left
      refine ⟨by simp only [List.map_append, hsteps], ?_⟩
      rcases Action.ok_or_error_of_mapError hresult with ⟨s, hs, hs'⟩ | ⟨m, m', hm, hm', hplace⟩
      · simp only [hs, hs']
      · simp only [hm, hm', Except.map, Except.mapError, hplace]

/-- **What is said makes no difference to a writer.** -/
theorem carryOut_congr (w : Writer σ) (s : σ) (h : steps.map Step.write? = steps'.map Step.write?) :
    (w.carryOut s steps).1 = (w.carryOut s steps').1 ∧
      (w.carryOut s steps).2.1 = (w.carryOut s steps').2.1 := by
  induction steps generalizing s steps' with
  | nil =>
    obtain rfl : steps' = [] := by simpa using h.symm
    exact ⟨rfl, rfl⟩
  | cons step steps ih =>
    obtain ⟨step', steps', rfl, hstep, hsteps⟩ := List.map_eq_cons_iff.1 h.symm
    cases step with
    | say event =>
      cases step' with
      | say event' =>
        simp only [Writer.carryOut]
        exact ih s hsteps.symm
      | write bytes' => cases hstep
    | write bytes =>
      cases step' with
      | say event' => cases hstep
      | write bytes' =>
        obtain rfl : bytes' = bytes := Option.some.inj hstep
        simp only [Writer.carryOut]
        rcases w.accept s bytes' with ⟨_ | e, s'⟩
        · exact ih s' hsteps.symm
        · exact ⟨rfl, rfl⟩

/-! ## The same end -/

/-- Conversions that end alike: well and with the same counts, or in the same failure to write, or
at malformed lines with the same number and as many fields. -/
inductive SameEnd : Except Error Summary → Except Error Summary → Prop
  | ok (summary : Summary) : SameEnd (.ok summary) (.ok summary)
  | writeOutput (output : Path) (reason : IoError) :
      SameEnd (.error (.writeOutput output reason)) (.error (.writeOutput output reason))
  | malformedRecord {m m' : Malformed} (lineNumber : m.lineNumber = m'.lineNumber)
      (fieldCount : m.fieldCount = m'.fieldCount) :
      SameEnd (.error (.malformedRecord m)) (.error (.malformedRecord m'))

/-- **On any writer**, dumps that are the same but for their separators are converted alike. -/
theorem writeRows_sameButSeparators (w : Writer σ) (s : σ) (h : Row.SameButSeparators dump dump')
    (output : Path) :
    (writeRows w s dump output).2.1 = (writeRows w s dump' output).2.1 ∧
      SameEnd (writeRows w s dump output).1 (writeRows w s dump' output).1 := by
  obtain ⟨hsteps, hresult⟩ := ofLines_congr (map_ofLine_lines h) 1
  have hwrites : (Rows.ofDump dump).steps.map Step.write? =
      (Rows.ofDump dump').steps.map Step.write? := by
    simp only [Rows.ofDump, List.map_cons, hsteps]
  obtain ⟨hfailure, hheld⟩ := carryOut_congr w s hwrites
  rw [writeRows_eq, writeRows_eq, ← hfailure]
  refine ⟨hheld, ?_⟩
  cases (w.carryOut s (Rows.ofDump dump).steps).1 with
  | some e => exact .writeOutput output e
  | none =>
    simp only [Option.elim, Rows.ofDump]
    rcases Action.ok_or_error_of_mapError hresult with ⟨t, ht, ht'⟩ | ⟨m, m', hm, hm', hplace⟩
    · rw [ht, ht']
      exact .ok t
    · rw [hm, hm']
      exact .malformedRecord (congrArg Prod.fst hplace) (congrArg Prod.snd hplace)

/-- **Separators are interchangeable.** Two dumps that are the same but for their separators, each
converted onto a writer of the same room, the same pace, interrupted as often, and with the same way
to refuse: both writers have taken the same bytes, and the conversions end alike. -/
theorem writeRows_piecemeal_separators (pace delay : Bytes → Bytes → Nat) (full : Refusal)
    (room : Nat) (h : Row.SameButSeparators dump dump') (output : Path) :
    (writeRows (.piecemeal pace delay full) ⟨[], room⟩ dump output).2.1.taken =
        (writeRows (.piecemeal pace delay full) ⟨[], room⟩ dump' output).2.1.taken ∧
      SameEnd (writeRows (.piecemeal pace delay full) ⟨[], room⟩ dump output).1
        (writeRows (.piecemeal pace delay full) ⟨[], room⟩ dump' output).1 := by
  obtain ⟨hheld, hend⟩ :=
    writeRows_sameButSeparators (.piecemeal pace delay full) ⟨[], room⟩ h output
  exact ⟨congrArg Writer.Limited.taken hheld, hend⟩

/-- A dump with a good line and one that lacks its index, and the same dump with other separators:
with room for the good line both end at the second line, of which they show different texts. -/
theorem writeRows_piecemeal_separators_mixed :
    let dump := Bytes.ofString "1 2\ta_i,7\n3 4 b_i"
    let dump' := Bytes.ofString "1,2 a_i\t7\n3\t4,b_i"
    let converted (dump : Bytes) :=
      writeRows (.piecemeal (fun _ _ => 0) (fun _ _ => 1) .takesNone) ⟨[], 20⟩ dump (.ofString "o")
    (converted dump).1 = .error (.malformedRecord ⟨2, 3, "3 4 b_i"⟩) ∧
      (converted dump').2.1.taken = (converted dump).2.1.taken ∧
      SameEnd (converted dump').1 (converted dump).1 := by
  intro dump dump' converted
  have hsame : Row.SameButSeparators dump' dump := Row.sameButSeparators_iff.2 (by decide)
  refine ⟨?_, writeRows_piecemeal_separators (fun _ _ => 0) (fun _ _ => 1) .takesNone 20 hsame
    (.ofString "o")⟩
  show (writeRows (.piecemeal _ _ _) _ dump _).1 = _
  rw [Writer.piecemeal_eq_limited]
  decide +kernel

end Conversion

end EdgeCsv
