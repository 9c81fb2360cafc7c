import Mathlib.Tactic.SplitIfs
import EdgeCsv.Proofs.Yaml.FlowScalar
import EdgeCsv.Yaml.Token.Stream

/-!
# Outlines

The documents that are written here have two levels: sections, and texts behind keys in them. An
outline says which, and in which style each text is written; the styles fit their texts.

* `Style.fits_choose`: the style that is chosen for a text fits it.
* `ofText_write`: the text of an outline can be read to its end.
-/

namespace EdgeCsv.Yaml

/-! ## Styles that fit -/

/-- Whether a style can hold a text. -/
def Style.Fits (cs : List Char) : Style → Prop
  | .plain => cs ≠ [] ∧ fitsPlain cs = true
  | .singleQuoted => '\n' ∉ cs ∧ fitsSingleQuoted cs = true
  | .doubleQuoted => True
  | .literal => cs ≠ [] ∧ fitsLiteral cs = true

instance (cs : List Char) : (style : Style) → Decidable (style.Fits cs)
  | .plain => inferInstanceAs (Decidable (_ ∧ _))
  | .singleQuoted => inferInstanceAs (Decidable (_ ∧ _))
  | .doubleQuoted => .isTrue trivial
  | .literal => inferInstanceAs (Decidable (_ ∧ _))

/-- **The style that is chosen for a text fits it.** -/
theorem Style.fits_choose (cs : List Char) : (choose cs).Fits cs := by
  unfold choose
  by_cases hn : '\n' ∈ cs
  · rw [if_pos hn]
    refine iteInduction (fun h => ?_) (fun _ => trivial)
    exact ⟨List.ne_nil_of_mem hn, h⟩
  · rw [if_neg hn]
    refine iteInduction (fun h => ?_) (fun _ => iteInduction (fun h => ?_) (fun _ => trivial))
    · rw [Bool.and_eq_true, Bool.not_eq_true'] at h
      refine ⟨?_, h.2⟩
      rintro rfl
      exact absurd h.1 (by decide)
    · exact ⟨hn, h⟩

/-- A text that is written plain is no null. -/
theorem Style.isNull_of_choose {cs : List Char} (h : choose cs = .plain) :
    Scalar.isNull (String.ofList cs) = false := by
  have hread : isMisread cs = false := by
    unfold choose at h
    split at h
    · split at h <;> cases h
    · split at h
      · simp_all
      · split at h <;> cases h
  by_contra hnull
  rw [Bool.not_eq_false] at hnull
  rw [isMisread, Scalar.ofPlain, if_pos (.inr hnull)] at hread
  cases hread

/-! ## Outlines and their texts -/

/-- A key, as keys are written: letters and underscores, and not too many. -/
structure Label where
  chars : List Char
  nonempty : chars ≠ []
  letters : chars.all isKeyChar = true
  short : chars.length ≤ Token.maxKeyLength

/-- A text behind its key, in a style that fits. -/
structure Entry where
  label : Label
  text : List Char
  style : Style
  fits : style.Fits text

/-- The texts behind their keys in one part of a document, which has a key of its own. -/
structure Section where
  label : Label
  entries : List Entry
  nonempty : entries ≠ []

/-- An entry without its indentation. -/
def Entry.body (e : Entry) : List Char :=
  e.label.chars ++ ':' :: ' ' :: e.style.write e.text

def Entry.write (e : Entry) : List Char :=
  ' ' :: ' ' :: e.body

def Section.write (x : Section) : List Char :=
  x.label.chars ++ ':' :: '\n' :: x.entries.flatMap Entry.write

/-! ## All that is written can be read -/

/-- A text that can be read to its end. -/
def Readable (cs : List Char) : Prop :=
  cs.all isReadable = true

instance (cs : List Char) : Decidable (Readable cs) :=
  inferInstanceAs (Decidable (_ = true))

theorem readable_nil : Readable [] :=
  rfl

theorem readable_cons_iff {c : Char} {cs : List Char} :
    Readable (c :: cs) ↔ isReadable c = true ∧ Readable cs := by
  rw [Readable, List.all_cons, Bool.and_eq_true, Readable]

theorem readable_cons {c : Char} {cs : List Char} (hc : isReadable c = true) (hcs : Readable cs) :
    Readable (c :: cs) :=
  readable_cons_iff.2 ⟨hc, hcs⟩

theorem readable_append {cs ds : List Char} (hcs : Readable cs) (hds : Readable ds) :
    Readable (cs ++ ds) := by
  rw [Readable, List.all_append, hcs, hds]
  rfl

theorem readable_flatMap {α : Type} {xs : List α} {f : α → List Char}
    (h : ∀ x ∈ xs, Readable (f x)) : Readable (xs.flatMap f) := by
  rw [Readable, List.all_flatMap, List.all_eq_true]
  exact h

theorem readable_of_printable {cs : List Char} (h : cs.all isPrintable = true) : Readable cs :=
  List.all_eq_true.2 fun c hc => isReadable_of_printable (List.all_eq_true.1 h c hc)

theorem isReadable_of_hexValue? {c : Char} {d : Nat} (h : hexValue? c = some d) :
    isReadable c = true := by
  have hrange : 48 ≤ c.toNat ∧ c.toNat ≤ 102 := by
    unfold hexValue? at h
    simp only [Char.isDigit_iff_toNat, Char.le_def, UInt32.le_iff_toNat_le] at h
    split_ifs at h with h₁ h₂ h₃
    · exact ⟨h₁.1, Nat.le_trans h₁.2 (by decide)⟩
    · exact ⟨Nat.le_trans (by decide) h₂.1, h₂.2⟩
    · exact ⟨Nat.le_trans (by decide) h₃.1, Nat.le_trans h₃.2 (by decide)⟩
  simp only [isReadable, Bool.or_eq_true, Bool.and_eq_true, decide_eq_true_eq]
  omega

theorem readable_of_codeValue? {cs : List Char} {v n : Nat}
    (h : FlowScalar.codeValue? v cs = some n) : Readable cs := by
  induction cs generalizing v with
  | nil => exact readable_nil
  | cons d ds ih =>
    rw [FlowScalar.codeValue?] at h
    obtain ⟨x, hx, h⟩ := Option.bind_eq_some_iff.1 h
    exact readable_cons (isReadable_of_hexValue? hx) (ih h)

theorem readable_escape (c : Char) : Readable (Style.escape c) := by
  have hletter : ∀ e : Char, isReadable e = true → Readable ['\\', e] :=
    fun e he => readable_cons rfl (readable_cons he readable_nil)
  have hcode : ∀ (e : Char) (width : Nat), isReadable e = true →
      Readable ('\\' :: e :: Style.hexadecimal width c.toNat) := fun e width he =>
    readable_cons rfl (readable_cons he
      (readable_of_codeValue? (FlowScalar.codeValue?_hexadecimal width c.toNat)))
  unfold Style.escape
  iterate 14 refine iteInduction (fun _ => hletter _ rfl) (fun _ => ?_)
  exact iteInduction (fun _ => hcode _ _ rfl)
    (fun _ => iteInduction (fun _ => hcode _ _ rfl) (fun _ => hcode _ _ rfl))

theorem readable_writeDoubleQuotedChar (c : Char) : Readable (Style.writeDoubleQuotedChar c) := by
  unfold Style.writeDoubleQuotedChar
  refine iteInduction (fun h => ?_) (fun _ => readable_escape c)
  simp only [Bool.and_eq_true] at h
  exact readable_cons (isReadable_of_printable h.1.1.1) readable_nil

theorem readable_margin (afterBreak : Bool) :
    Readable (if afterBreak then Style.margin else []) := by
  cases afterBreak <;> decide

theorem readable_writeSingleQuoted (afterBreak : Bool) {cs : List Char} (h : Readable cs) :
    Readable (Style.writeSingleQuoted afterBreak cs) := by
  induction cs generalizing afterBreak with
  | nil => exact readable_margin afterBreak
  | cons c cs ih =>
    obtain ⟨hc, hcs⟩ := readable_cons_iff.1 h
    rw [Style.writeSingleQuoted]
    refine iteInduction (fun _ => readable_cons hc (ih true hcs)) (fun _ => ?_)
    have hchar : Readable (if c = '\'' then ['\'', '\''] else [c]) :=
      iteInduction (fun _ => by decide) (fun _ => readable_cons hc readable_nil)
    exact readable_append (readable_append (readable_margin afterBreak) hchar) (ih false hcs)

theorem readable_writeLines (afterBreak : Bool) {cs : List Char} (h : Readable cs) :
    Readable (Style.writeLines afterBreak cs) := by
  induction cs generalizing afterBreak with
  | nil => exact readable_nil
  | cons c cs ih =>
    obtain ⟨hc, hcs⟩ := readable_cons_iff.1 h
    rw [Style.writeLines]
    refine iteInduction (fun _ => readable_cons hc (ih true hcs)) (fun _ => ?_)
    exact readable_append (readable_margin afterBreak) (readable_cons hc (ih false hcs))

theorem readable_chompIndicator (cs : List Char) : Readable (Style.chompIndicator cs) := by
  unfold Style.chompIndicator
  split
  · decide
  · exact iteInduction (fun _ => by decide)
      (fun _ => iteInduction (fun _ => by decide) (fun _ => by decide))

theorem Style.readable_write {cs : List Char} {style : Style} (h : style.Fits cs) :
    Readable (style.write cs) := by
  cases style with
  | plain =>
    have hp : cs.all isPrintable = true := by simp_all [Fits, fitsPlain]
    exact readable_append (readable_of_printable hp) (by decide)
  | singleQuoted =>
    have hp : cs.all isPrintable = true := by simp_all [Fits, fitsSingleQuoted]
    have hcs := readable_writeSingleQuoted false (readable_of_printable hp)
    exact readable_append (readable_cons (by decide) hcs) (by decide)
  | doubleQuoted =>
    have hcs : Readable (cs.flatMap writeDoubleQuotedChar) :=
      readable_flatMap fun c _ => readable_writeDoubleQuotedChar c
    exact readable_append (readable_cons (by decide) hcs) (by decide)
  | literal =>
    have hp : cs.all isPrintable = true := by simp_all [Fits, fitsLiteral]
    have hlines := readable_writeLines true (readable_of_printable hp)
    have hindent : Readable (indentIndicator cs) :=
      iteInduction (fun _ => by decide) (fun _ => by decide)
    have hlast : Readable (if cs.getLast?.any isBreak then [] else ['\n']) :=
      iteInduction (fun _ => by decide) (fun _ => by decide)
    refine readable_append (readable_append (readable_append ?_ (readable_chompIndicator cs))
      (readable_cons (by decide) hlines)) hlast
    exact readable_cons (by decide) hindent

theorem Label.readable (x : Label) : Readable x.chars := by
  refine List.all_eq_true.2 fun c hc => ?_
  have hkey : isKeyChar c = true := List.all_eq_true.1 x.letters c hc
  have hrange : 0x20 ≤ c.toNat ∧ c.toNat ≤ 0x7E := by
    rcases Bool.or_eq_true_iff.1 hkey with hletter | hline
    · rcases Bool.or_eq_true_iff.1 hletter with hupper | hlower
      · obtain ⟨hl, hu⟩ := of_decide_eq_true hupper
        exact ⟨Nat.le_trans (by decide) hl, Nat.le_trans hu (by decide)⟩
      · obtain ⟨hl, hu⟩ := Bool.and_eq_true_iff.1 hlower
        exact ⟨Nat.le_trans (by decide) (of_decide_eq_true hl),
          Nat.le_trans (of_decide_eq_true hu) (by decide)⟩
    · obtain rfl := of_decide_eq_true hline
      decide
  simp only [isReadable, Bool.or_eq_true, Bool.and_eq_true, decide_eq_true_eq]
  omega

theorem Section.readable_write (x : Section) : Readable x.write := by
  refine readable_append x.label.readable (readable_cons (by decide) (readable_cons (by decide) ?_))
  refine readable_flatMap fun e _ => readable_cons (by decide) (readable_cons (by decide) ?_)
  refine readable_append e.label.readable (readable_cons (by decide) (readable_cons (by decide) ?_))
  exact Style.readable_write e.fits

/-- **The text of an outline can be read to its end.** -/
theorem ofText_write (sections : List Section) :
    Source.ofText (sections.flatMap Section.write) = ⟨sections.flatMap Section.write, none⟩ := by
  have hreadable : Readable (sections.flatMap Section.write) :=
    readable_flatMap fun x _ => x.readable_write
  exact if_pos hreadable

end EdgeCsv.Yaml
