import Mathlib.Data.List.Basic
import EdgeCsv.Yaml.Style
import EdgeCsv.Yaml.Token.FlowScalar

/-!
# Quoted and plain scalars are read as they were written

* `quoted_double`: a text in double quotes, with its escapes, is read back, any text.
* `quoted_single`: a text in single quotes is read back if single quotes can hold it.
* `plain_text`: a text without quotes is read back if it can stand so, up to the next line that is
  not indented far enough.
-/

namespace EdgeCsv.Yaml

/-! ## Characters that are written as they are -/

section Printable

variable {c : Char} (hp : isPrintable c = true)
include hp

theorem isHalfBreak_of_printable (rest : List Char) : isHalfBreak c rest = false := by
  have hc : c ≠ '\r' := by rintro rfl; exact absurd hp (by decide)
  simp [isHalfBreak, hc]

theorem isBlank_of_printable : isBlank c = Style.isSpace c := by
  have hc : c ≠ '\t' := by rintro rfl; exact absurd hp (by decide)
  simp [isBlank, Style.isSpace, hc]

/-- A line end that is written as it is appears in a scalar as it is. -/
theorem lineEnd_of_printable (hb : isBreak c = true) : lineEnd c = c := by
  simp only [isBreak, Bool.or_eq_true, decide_eq_true_eq] at hb
  rcases hb with (((rfl | rfl) | rfl) | rfl) | rfl
  · exact absurd hp (by decide)
  · rfl
  · exact absurd hp (by decide)
  · rfl
  · rfl

theorem isReadable_of_printable : isReadable c = true := by
  simp only [isPrintable, isReadable, Bool.or_eq_true, Bool.and_eq_true, decide_eq_true_eq] at hp ⊢
  omega

end Printable

theorem not_blank_of_break {c : Char} (hb : isBreak c = true) : isBlank c = false := by
  simp only [isBreak, Bool.or_eq_true, decide_eq_true_eq] at hb
  rcases hb with (((rfl | rfl) | rfl) | rfl) | rfl <;> rfl

/-- A character of a key, as keys are written: a letter or an underscore. -/
def isKeyChar (c : Char) : Bool :=
  c.isAlpha || c = '_'

section KeyChar

variable {c : Char} (hc : isKeyChar c = true)
include hc

theorem ne_of_keyChar (d : Char) (hd : isKeyChar d = false) : c ≠ d := by
  rintro rfl
  exact absurd hc (by simp [hd])

theorem isBlank_of_keyChar : isBlank c = false := by
  simp [isBlank, ne_of_keyChar hc ' ' rfl, ne_of_keyChar hc '\t' rfl]

theorem isBreak_of_keyChar : isBreak c = false := by
  simp [isBreak, ne_of_keyChar hc '\r' rfl, ne_of_keyChar hc '\n' rfl, ne_of_keyChar hc '\x85' rfl,
    ne_of_keyChar hc '\u2028' rfl, ne_of_keyChar hc '\u2029' rfl]

theorem isHalfBreak_of_keyChar (rest : List Char) : isHalfBreak c rest = false := by
  simp [isHalfBreak, ne_of_keyChar hc '\r' rfl]

end KeyChar

namespace FlowScalar

variable {start m : Mark} {gap : Gap} {read rest : List Char} {c : Char}

/-! ## Escapes -/

/-- The number that hexadecimal digits spell, behind others that spell `value`. -/
def codeValue? (value : Nat) : List Char → Option Nat
  | [] => some value
  | c :: cs => (hexValue? c).bind fun d => codeValue? (value * 16 + d) cs

theorem codeValue?_append (value : Nat) (cs ds : List Char) :
    codeValue? value (cs ++ ds) = (codeValue? value cs).bind (codeValue? · ds) := by
  induction cs generalizing value with
  | nil => rfl
  | cons c cs ih =>
    rw [List.cons_append, codeValue?, codeValue?]
    cases hexValue? c with
    | none => rfl
    | some d => exact ih _

theorem hexValue?_digitChar {d : Nat} (hd : d < 16) : hexValue? d.digitChar.toUpper = some d := by
  revert d; decide

/-- The digits that are written for a number spell it. -/
theorem codeValue?_toDigits (n : Nat) :
    codeValue? 0 ((Nat.toDigits 16 n).map Char.toUpper) = some n := by
  induction n using Nat.strongRecOn with
  | _ n ih =>
    rw [Nat.toDigits_eq_if (by decide)]
    split
    · rename_i hn
      simp [codeValue?, hexValue?_digitChar hn]
    · have hmod : n % 16 < 16 := Nat.mod_lt _ (by decide)
      rw [List.map_append, codeValue?_append, ih (n / 16) (by omega)]
      have hvalue : n / 16 * 16 + n % 16 = n := by omega
      simp only [List.map_cons, List.map_nil, codeValue?, hexValue?_digitChar hmod,
        Option.bind_some, hvalue]

theorem codeValue?_replicate (k : Nat) : codeValue? 0 (List.replicate k '0') = some 0 := by
  induction k with
  | zero => rfl
  | succ k ih => exact ih

/-- Zeros before the digits do not change the number that they spell. -/
theorem codeValue?_hexadecimal (width n : Nat) :
    codeValue? 0 (Style.hexadecimal width n) = some n := by
  unfold Style.hexadecimal
  rw [codeValue?_append, codeValue?_replicate, Option.bind_some, codeValue?_toDigits]

theorem length_hexadecimal {width n : Nat} (hw : 0 < width) (hn : n < Nat.pow 16 width) :
    (Style.hexadecimal width n).length = width := by
  have hle : (Nat.toDigits 16 n).length ≤ width :=
    (Nat.length_toDigits_le_iff (by decide) hw).2 hn
  unfold Style.hexadecimal
  simp only [List.length_append, List.length_replicate, List.length_map]
  omega

theorem next_advance (m : Mark) (n : Nat) : m.next.advance n = m.advance (n + 1) := by
  simp [Mark.next, Mark.advance, Nat.add_assoc, Nat.add_comm 1 n]

/-- Behind the last digit of a code, the character of that code has been read. -/
theorem quoted_code {begin : Mark} {left value v : Nat} {e : Char} (ds : List Char)
    (hlen : ds.length = left + 1) (hv : codeValue? value ds = some v)
    (he : charOfCode? v = some e) :
    quoted false start (.code left value begin) read (ds ++ rest) m =
      quoted false start (.text .none) (e :: read) rest (m.advance ds.length) := by
  induction ds generalizing left value m with
  | nil => simp at hlen
  | cons d ds ih =>
    rw [codeValue?] at hv
    obtain ⟨x, hx, hv⟩ := Option.bind_eq_some_iff.1 hv
    rw [List.cons_append, quoted, hx]
    cases left with
    | zero =>
      obtain rfl : ds = [] := by simpa using hlen
      rw [codeValue?] at hv
      simp only [Option.some.injEq] at hv
      simp only [hv, he]
      rfl
    | succ left =>
      rw [List.length_cons, ← next_advance]
      exact ih (by simpa using hlen) hv

/-- Behind some characters in double quotes, `c` has been read; they do not start a line. -/
def Spells (c : Char) (cs : List Char) : Prop :=
  ∀ start gap read rest m, 0 < m.column → ∃ m', 0 < m'.column ∧
    quoted false start (.text gap) read (cs ++ rest) m =
      quoted false start (.text .none) (c :: (gap.folded ++ read)) rest m'

/-- A character that neither is a blank nor ends a line ends the gap before it. -/
theorem quoted_word {single : Bool} (hm : 0 < m.column) (hh : isHalfBreak c rest = false)
    (hw : isBlank c = false) (hb : isBreak c = false) :
    quoted single start (.text gap) read (c :: rest) m =
      if c = (if single then '\'' else '"') then
        if single && rest.head? = some '\'' then
          quoted single start .secondQuote (gap.folded ++ read) rest m.next
        else .ok ((gap.folded ++ read).reverse, ⟨rest, m.next⟩)
      else if !single && c = '\\' then
        quoted single start (.escape m) (gap.folded ++ read) rest m.next
      else quoted single start (.text .none) (c :: (gap.folded ++ read)) rest m.next := by
  have hdoc : ¬atDocumentIndicator (c :: rest) m = true := by
    simp [atDocumentIndicator, Nat.ne_of_gt hm]
  exact (if_neg (ne_true_of_eq_false hh)).trans <| (if_neg (ne_true_of_eq_false hw)).trans <|
    (if_neg (ne_true_of_eq_false hb)).trans <| if_neg hdoc

/-- A backslash opens an escape. -/
theorem quoted_backslash (hm : 0 < m.column) :
    quoted false start (.text gap) read ('\\' :: rest) m =
      quoted false start (.escape m) (gap.folded ++ read) rest m.next := by
  rw [quoted_word hm rfl rfl rfl]
  rfl

/-- The character behind a backslash tells what the escape stands for. -/
theorem quoted_escape {backslash : Mark} (hb : isBreak c = false) :
    quoted false start (.escape backslash) read (c :: rest) m =
      match escape? c with
      | none => .error (.within .quotedEscape start .unknownEscape backslash)
      | some (.char e) => quoted false start (.text .none) (e :: read) rest m.next
      | some (.code digits) =>
        quoted false start (.code (digits - 1) 0 m.next) read rest m.next := by
  have hr : c ≠ '\r' := by rintro rfl; exact absurd hb (by decide)
  have hh : ¬isHalfBreak c rest = true := by simp [isHalfBreak, hr]
  exact (if_neg hh).trans (if_neg (ne_true_of_eq_false hb))

theorem spells_letter {e d : Char} (he : escape? e = some (.char d)) (hb : isBreak e = false)
    (hd : c.toNat = d.toNat) : Spells c ['\\', e] := by
  intro start gap read rest m hm
  obtain rfl : c = d := by rw [← Char.ofNat_toNat c, hd, Char.ofNat_toNat]
  refine ⟨m.next.next, Nat.succ_pos _, ?_⟩
  rw [List.cons_append, List.singleton_append, quoted_backslash hm, quoted_escape hb, he]

theorem spells_code {e : Char} {width : Nat} (he : escape? e = some (.code width))
    (hb : isBreak e = false) (hw : 0 < width) (hn : c.toNat < Nat.pow 16 width) :
    Spells c ('\\' :: e :: Style.hexadecimal width c.toNat) := by
  intro start gap read rest m hm
  have hlen := length_hexadecimal hw hn
  have hchar : charOfCode? c.toNat = some c := by
    have hv : c.toNat.isValidChar := c.valid
    rw [charOfCode?, if_pos hv, Char.ofNat_toNat]
  refine ⟨m.next.next.advance width, Nat.lt_of_lt_of_le (Nat.succ_pos _) (Nat.le_add_right _ _), ?_⟩
  rw [List.cons_append, List.cons_append, quoted_backslash hm, quoted_escape hb, he]
  dsimp only
  rw [quoted_code _ (by omega) (codeValue?_hexadecimal width c.toNat) hchar, hlen]

/-- **An escape spells the character that it is written for.** -/
theorem spells_escape (c : Char) : Spells c (Style.escape c) := by
  have hmax : c.toNat < 0x110000 := by
    have : c.toNat < 0xD800 ∨ 0xDFFF < c.toNat ∧ c.toNat < 0x110000 := c.valid
    omega
  unfold Style.escape
  -- fourteen letters, then codes of growing width
  iterate 14 refine iteInduction (fun h => spells_letter rfl rfl h) (fun _ => ?_)
  refine iteInduction (fun h => spells_code rfl rfl (by decide) ?_) (fun _ => ?_)
  · exact Nat.lt_of_le_of_lt h (by decide)
  refine iteInduction (fun h => spells_code rfl rfl (by decide) ?_) (fun _ => ?_)
  · exact Nat.lt_of_le_of_lt h (by decide)
  · exact spells_code rfl rfl (by decide) (Nat.lt_trans hmax (by decide))

/-! ## Double quotes -/

/-- A character that stands for itself, behind which it has been read. -/
theorem quoted_char {single : Bool} (hm : 0 < m.column) (hh : isHalfBreak c rest = false)
    (hw : isBlank c = false) (hb : isBreak c = false) (hq : c ≠ if single then '\'' else '"')
    (he : single = true ∨ c ≠ '\\') :
    quoted single start (.text gap) read (c :: rest) m =
      quoted single start (.text .none) (c :: (gap.folded ++ read)) rest m.next := by
  rw [quoted_word hm hh hw hb, if_neg hq]
  rcases he with rfl | he
  · rfl
  · simp [he]

theorem quoted_blank {single : Bool} (hh : isHalfBreak c rest = false) (hw : isBlank c = true) :
    quoted single start (.text gap) read (c :: rest) m =
      quoted single start (.text (gap.blank c)) read rest m.next :=
  (if_neg (ne_true_of_eq_false hh)).trans (if_pos hw)

/-- The closing quote ends the scalar. -/
theorem quoted_close (single : Bool) (hm : 0 < m.column)
    (hs : single = true → rest.head? ≠ some '\'') :
    quoted single start (.text gap) read ((if single then '\'' else '"') :: rest) m =
      .ok ((gap.folded ++ read).reverse, ⟨rest, m.next⟩) := by
  cases single with
  | false =>
    show quoted false start (.text gap) read ('"' :: rest) m = _
    rw [quoted_word hm rfl rfl rfl]
    rfl
  | true =>
    show quoted true start (.text gap) read ('\'' :: rest) m = _
    rw [quoted_word hm rfl rfl rfl]
    simp [hs rfl]

theorem spells_writeDoubleQuotedChar (hc : c ≠ ' ') :
    Spells c (Style.writeDoubleQuotedChar c) := by
  unfold Style.writeDoubleQuotedChar
  refine iteInduction (fun h => ?_) (fun _ => spells_escape c)
  simp only [Bool.and_eq_true, Bool.not_eq_true', decide_eq_true_eq] at h
  obtain ⟨⟨⟨hp, hb⟩, hq⟩, he⟩ := h
  have hw : isBlank c = false := by simp [isBlank_of_printable hp, Style.isSpace, hc]
  intro start gap read rest m hm
  exact ⟨m.next, Nat.succ_pos _,
    quoted_char hm (isHalfBreak_of_printable hp _) hw hb hq (.inr he)⟩

theorem folded_blank (h : gap.hasLines = false) :
    (gap.blank c).hasLines = false ∧ (gap.blank c).folded = c :: gap.folded := by
  cases gap with
  | none => exact ⟨rfl, rfl⟩
  | blanks => exact ⟨rfl, rfl⟩
  | lines => exact absurd h (by simp [Gap.hasLines])

/-- **Double quotes.** Any text is read back, with what had been read before it. -/
theorem quoted_double (cs after : List Char) (hgap : gap.hasLines = false) (hm : 0 < m.column) :
    ∃ m', quoted false start (.text gap) read
        (cs.flatMap Style.writeDoubleQuotedChar ++ '"' :: after) m =
      .ok ((gap.folded ++ read).reverse ++ cs, ⟨after, m'⟩) := by
  induction cs generalizing gap read m with
  | nil =>
    refine ⟨m.next, ?_⟩
    rw [List.flatMap_nil, List.nil_append, List.append_nil]
    exact quoted_close false hm (by simp)
  | cons c cs ih =>
    rw [List.flatMap_cons, List.append_assoc]
    by_cases hc : c = ' '
    · subst hc
      obtain ⟨hgap', hfold⟩ := folded_blank (c := ' ') hgap
      obtain ⟨m', hm'⟩ := ih (m := m.next) hgap' (Nat.succ_pos _)
      refine ⟨m', (quoted_blank rfl rfl).trans (hm'.trans ?_)⟩
      simp [hfold]
    · obtain ⟨m₁, hm₁, heq⟩ := spells_writeDoubleQuotedChar hc start gap read
        (cs.flatMap Style.writeDoubleQuotedChar ++ '"' :: after) m hm
      obtain ⟨m', hm'⟩ := ih (show Gap.none.hasLines = false from rfl) hm₁
      refine ⟨m', heq.trans (hm'.trans ?_)⟩
      simp [Gap.folded]

/-! ## Single quotes -/

/-- A gap that single quotes keep, before what is still to be read: no line feed is among its line
ends, and blanks and line ends do not meet. -/
def Keeps (gap : Gap) (cs : List Char) : Prop :=
  match gap with
  | .none => True
  | .blanks _ => cs.head?.any isBreak = false
  | .lines first _ => first ≠ some '\n' ∧ cs.head?.any Style.isSpace = false

theorem hasPair_cons (first second : Char → Bool) (c : Char) (cs : List Char) :
    Style.hasPair first second (c :: cs) =
      (first c && cs.head?.any second || Style.hasPair first second cs) := by
  cases cs <;> simp [Style.hasPair]

/-- The indentation of a new line leaves no trace. -/
theorem quoted_margin (single : Bool) (start : Mark) (read rest : List Char)
    (hm : gap.hasLines = true ∨ 0 < m.column) :
    ∃ m', 0 < m'.column ∧
      quoted single start (.text gap) read ((if gap.hasLines then Style.margin else []) ++ rest) m =
        quoted single start (.text gap) read rest m' := by
  cases gap with
  | none => exact ⟨m, hm.resolve_left (by simp [Gap.hasLines]), rfl⟩
  | blanks => exact ⟨m, hm.resolve_left (by simp [Gap.hasLines]), rfl⟩
  | lines first more =>
    refine ⟨m.next.next.next.next, Nat.succ_pos _, ?_⟩
    simp only [Gap.hasLines, if_true, Style.margin, List.cons_append, List.nil_append]
    iterate 4 rw [quoted_blank rfl rfl]
    rfl

/-- A break between the words of a text in single quotes adds to the gap. -/
theorem quoted_break {single : Bool} (hp : isPrintable c = true) (hb : isBreak c = true) :
    quoted single start (.text gap) read (c :: rest) m =
      quoted single start (.text (gap.newline c)) read rest (m.nextLine 1) :=
  (if_neg (ne_true_of_eq_false (isHalfBreak_of_printable hp _))).trans <|
    (if_neg (ne_true_of_eq_false (not_blank_of_break hb))).trans (if_pos hb)

/-- A quote in single quotes is written twice. -/
theorem quoted_apostrophe (hm : 0 < m.column) :
    quoted true start (.text gap) read ('\'' :: '\'' :: rest) m =
      quoted true start (.text .none) ('\'' :: (gap.folded ++ read)) rest m.next.next := by
  rw [quoted_word hm rfl rfl rfl]
  rfl

theorem folded_newline {cs : List Char} (hp : isPrintable c = true) (hb : isBreak c = true)
    (hn : c ≠ '\n') (h : Keeps gap (c :: cs)) (hs : cs.head?.any Style.isSpace = false) :
    (gap.newline c).folded = c :: gap.folded ∧ Keeps (gap.newline c) cs := by
  have hle : lineEnd c = c := lineEnd_of_printable hp hb
  cases gap with
  | none => simp_all [Gap.newline, Gap.folded, Keeps]
  | blanks => simp [Keeps, hb] at h
  | lines first more => simp_all [Gap.newline, Gap.folded, Keeps]

theorem fitsSingleQuoted_cons {cs : List Char} (h : Style.fitsSingleQuoted (c :: cs) = true) :
    isPrintable c = true ∧ (isBreak c = true → cs.head?.any Style.isSpace = false) ∧
      (Style.isSpace c = true → cs.head?.any isBreak = false) ∧
      Style.fitsSingleQuoted cs = true := by
  simp only [Style.fitsSingleQuoted, hasPair_cons, List.all_cons, Bool.and_eq_true,
    Bool.not_eq_true', Bool.or_eq_false_iff, Bool.and_eq_false_imp] at h ⊢
  obtain ⟨⟨⟨hp, hall⟩, hbs, hbs'⟩, hsb, hsb'⟩ := h
  exact ⟨hp, hbs, hsb, ⟨hall, hbs'⟩, hsb'⟩

/-- One character in single quotes that does not end the line: a space goes into the gap, and any
other character behind it. -/
theorem quoted_single_char {cs : List Char} (start : Mark) (read : List Char) (hm : 0 < m.column)
    (hp : isPrintable c = true) (hb : isBreak c = false) (hgap : Keeps gap (c :: cs))
    (hsb : Style.isSpace c = true → cs.head?.any isBreak = false) :
    ∃ gap' read' m', 0 < m'.column ∧ Keeps gap' cs ∧ gap'.hasLines = false ∧
      gap'.folded ++ read' = c :: (gap.folded ++ read) ∧
      ∀ rest, quoted true start (.text gap) read
          ((if c = '\'' then ['\'', '\''] else [c]) ++ rest) m =
        quoted true start (.text gap') read' rest m' := by
  by_cases hq : c = '\''
  · subst hq
    exact ⟨.none, _, m.next.next, Nat.succ_pos _, trivial, rfl, rfl, fun _ => quoted_apostrophe hm⟩
  · rw [if_neg hq]
    have hhalf := isHalfBreak_of_printable hp
    have hblank := isBlank_of_printable hp
    by_cases hs : Style.isSpace c = true
    · have hlines : gap.hasLines = false := by
        cases gap with
        | lines => simp [Keeps, hs] at hgap
        | _ => rfl
      obtain ⟨hlines', hfold⟩ := folded_blank (c := c) hlines
      have hkeeps : Keeps (gap.blank c) cs := by
        cases gap with
        | lines => simp [Gap.hasLines] at hlines
        | _ => exact hsb hs
      refine ⟨gap.blank c, read, m.next, Nat.succ_pos _, hkeeps, hlines', ?_, fun rest => ?_⟩
      · rw [hfold, List.cons_append]
      · exact quoted_blank (hhalf rest) (hblank.trans hs)
    · refine ⟨.none, _, m.next, Nat.succ_pos _, trivial, rfl, rfl, fun rest => ?_⟩
      exact quoted_char hm (hhalf rest) (by simp [hblank, hs]) hb hq (.inl rfl)

/-- **Single quotes.** A text that fits is read back, with what had been read before it. -/
theorem quoted_single (cs : List Char) {after : List Char} (hgap : Keeps gap cs)
    (hm : gap.hasLines = true ∨ 0 < m.column) (hfit : Style.fitsSingleQuoted cs = true)
    (hn : '\n' ∉ cs) (hafter : after.head? ≠ some '\'') :
    ∃ m', quoted true start (.text gap) read
        (Style.writeSingleQuoted gap.hasLines cs ++ '\'' :: after) m =
      .ok ((gap.folded ++ read).reverse ++ cs, ⟨after, m'⟩) := by
  induction cs generalizing gap read m with
  | nil =>
    obtain ⟨m', hm', heq⟩ := quoted_margin true start read ('\'' :: after) hm
    refine ⟨m'.next, heq.trans ?_⟩
    rw [List.append_nil]
    exact quoted_close true hm' fun _ => hafter
  | cons c cs ih =>
    obtain ⟨hp, hbs, hsb, hfit⟩ := fitsSingleQuoted_cons hfit
    obtain ⟨hcn, hn⟩ : '\n' ≠ c ∧ '\n' ∉ cs := by simpa using hn
    rw [Style.writeSingleQuoted]
    cases hb : isBreak c with
    | true =>
      -- a line end goes into the gap
      obtain ⟨hfold, hgap⟩ := folded_newline hp hb hcn.symm hgap (hbs hb)
      have hlines : (gap.newline c).hasLines = true := by cases gap <;> rfl
      obtain ⟨m', hm'⟩ := ih (m := m.nextLine 1) hgap (.inl hlines) hfit hn
      rw [if_pos rfl, List.cons_append, quoted_break hp hb]
      rw [hlines] at hm'
      refine ⟨m', hm'.trans ?_⟩
      rw [hfold, List.cons_append, List.reverse_cons, List.append_assoc, List.singleton_append]
    | false =>
      rw [if_neg (by decide), List.append_assoc, List.append_assoc]
      obtain ⟨m₁, hm₁, hmargin⟩ := quoted_margin true start read
        ((if c = '\'' then ['\'', '\''] else [c]) ++
          (Style.writeSingleQuoted false cs ++ '\'' :: after)) hm
      obtain ⟨gap', read', m₂, hm₂, hgap', hlines, hread, hchar⟩ :=
        quoted_single_char start read hm₁ hp hb hgap hsb
      obtain ⟨m', hm'⟩ := ih hgap' (.inr hm₂) hfit hn
      rw [hlines] at hm'
      refine ⟨m', hmargin.trans ((hchar _).trans (hm'.trans ?_))⟩
      rw [hread, List.reverse_cons, List.append_assoc, List.singleton_append]

/-! ## Without quotes -/

/-- A text without line ends that goes on behind `previous` without an indicator, and does not end
with a space. -/
structure Continues (previous : Char) (cs : List Char) : Prop where
  printable : cs.all isPrintable = true
  oneLine : cs.any isBreak = false
  noIndicator : Style.hasLaterIndicator previous cs = false
  noLastSpace : cs.getLast?.any Style.isSpace = false

theorem continues_cons {previous : Char} {cs : List Char} (h : Continues previous (c :: cs)) :
    isPrintable c = true ∧ isBreak c = false ∧ (c = ':' → endsWord cs.head? = false) ∧
      (c = '#' → endsWord (some previous) = false) ∧ Continues c cs := by
  obtain ⟨hp, hb, hi, hs⟩ := h
  rw [List.all_cons, Bool.and_eq_true] at hp
  rw [List.any_cons, Bool.or_eq_false_iff] at hb
  simp only [Style.hasLaterIndicator, Bool.or_eq_false_iff, Bool.and_eq_false_imp,
    decide_eq_true_eq] at hi
  refine ⟨hp.1, hb.1, hi.1.1, hi.1.2, hp.2, hb.2, hi.2, ?_⟩
  cases cs with
  | nil => rfl
  | cons => rwa [List.getLast?_cons_cons] at hs

theorem plain_blank {margin : Nat} (hh : isHalfBreak c rest = false) (hw : isBlank c = true)
    (hlines : gap.hasLines = false) :
    plain false margin start gap read (c :: rest) m =
      plain false margin start (gap.blank c) read rest m.next := by
  rw [plain]
  simp [hh, hw, hlines]

theorem plain_char {margin : Nat} (hh : isHalfBreak c rest = false) (hw : isBlank c = false)
    (hb : isBreak c = false) (hgap : gap ≠ .none → endsBehindGap false margin c rest m = false)
    (hend : endsPlain false c rest = false) :
    plain false margin start gap read (c :: rest) m =
      plain false margin start .none (c :: (gap.folded ++ read)) rest m.next := by
  have hgap' : (gap ≠ .none && endsBehindGap false margin c rest m) = false := by
    by_cases hne : gap = .none
    · simp [hne]
    · simp [hgap hne]
  rw [plain]
  simp only [hh, hw, hb, hgap', hend, Bool.false_and, Bool.false_eq_true, if_false]

/-- A plain scalar goes on to the end of a text that continues it. -/
theorem plain_continues {margin : Nat} {previous : Char} (cs after : List Char)
    (h : Continues previous cs) (hmargin : 0 < margin ∧ margin ≤ m.column)
    (hlines : gap.hasLines = false)
    (hgap : gap ≠ .none → cs ≠ [] ∧ endsWord (some previous) = true) :
    plain false margin start gap read (cs ++ after) m =
      plain false margin start .none (cs.reverse ++ (gap.folded ++ read)) after
        (m.advance cs.length) := by
  induction cs generalizing previous gap read m with
  | nil =>
    obtain rfl : gap = .none := by
      by_contra hne
      exact (hgap hne).1 rfl
    rfl
  | cons c cs ih =>
    obtain ⟨hp, hb, hcolon, hhash, htail⟩ := continues_cons h
    have hhalf := isHalfBreak_of_printable hp (cs ++ after)
    have hblank := isBlank_of_printable hp
    have hm : margin ≤ m.next.column := Nat.le_succ_of_le hmargin.2
    rw [List.cons_append, List.length_cons, List.reverse_cons, List.append_assoc,
      List.singleton_append, ← next_advance]
    cases hs : Style.isSpace c with
    | true =>
      -- a space is not the last character, so it goes into a gap that a word ends
      have hne : cs ≠ [] := by
        rintro rfl
        simpa [hs] using h.noLastSpace
      obtain ⟨hlines', hfold⟩ := folded_blank (c := c) hlines
      rw [plain_blank hhalf (hblank.trans hs) hlines,
        ih htail ⟨hmargin.1, hm⟩ hlines' fun _ => ⟨hne, by simp [endsWord, hblank, hs]⟩, hfold]
      rfl
    | false =>
      have hbehind : gap ≠ .none → endsBehindGap false margin c (cs ++ after) m = false := by
        intro hne
        have hc : c ≠ '#' := fun hc => absurd (hhash hc) (by simp [(hgap hne).2])
        have hcol : ¬m.column < margin := Nat.not_lt.2 hmargin.2
        have hzero : m.column ≠ 0 := by omega
        simp [endsBehindGap, atDocumentIndicator, hc, hcol, hzero]
      have hend : endsPlain false c (cs ++ after) = false := by
        simp only [endsPlain, Bool.false_and, Bool.or_false, Bool.and_eq_false_imp,
          decide_eq_true_eq]
        intro hc
        -- a colon is not the last character
        cases cs with
        | nil => exact absurd (hcolon hc) (by decide)
        | cons d ds => exact hcolon hc
      rw [plain_char hhalf (hblank.trans hs) hb hbehind hend,
        ih htail ⟨hmargin.1, hm⟩ rfl fun hne => absurd rfl hne]
      rfl

theorem plain_spaces {margin k : Nat} {first : Option Char} {more : List Char} :
    plain false margin start (.lines first more) read (List.replicate k ' ' ++ rest) m =
      plain false margin start (.lines first more) read rest (m.advance k) := by
  induction k generalizing m with
  | zero => rfl
  | succ k ih =>
    rw [List.replicate_succ, List.cons_append, plain, ← next_advance, ← ih]
    simp [isHalfBreak, isBlank, Gap.blank]

/-- A line end ends a plain scalar if the next line is not indented enough. -/
theorem plain_newline {margin k : Nat} {body : List Char} (hk : k < margin)
    (hbody : body.head?.all isKeyChar = true) :
    ∃ m', m'.column = k ∧
      plain false margin start .none read ('\n' :: (List.replicate k ' ' ++ body)) m =
        .ok (read.reverse, true, ⟨body, m'⟩) := by
  refine ⟨(m.nextLine 1).advance k, Nat.zero_add k, ?_⟩
  have hbreak : plain false margin start .none read ('\n' :: (List.replicate k ' ' ++ body)) m =
      plain false margin start (.lines (some '\n') []) read (List.replicate k ' ' ++ body)
        (m.nextLine 1) := by
    rw [plain]
    simp [isHalfBreak, isBlank, isBreak, Gap.newline, lineEnd]
  rw [hbreak, plain_spaces]
  cases body with
  | nil => rfl
  | cons c body =>
    have hc : isKeyChar c = true := hbody
    have hcol : ((m.nextLine 1).advance k).column < margin := by
      simpa [Mark.advance, Mark.nextLine] using hk
    rw [plain]
    simp [isHalfBreak_of_keyChar hc, isBlank_of_keyChar hc, isBreak_of_keyChar hc, endsBehindGap,
      hcol, Gap.hasLines]

theorem continues_of_fitsPlain {cs : List Char} (h : Style.fitsPlain cs = true) :
    Continues 'x' cs := by
  simp only [Style.fitsPlain, Bool.and_eq_true, Bool.not_eq_true'] at h
  obtain ⟨⟨⟨⟨hi, hp⟩, hb⟩, -⟩, hs⟩ := h
  refine ⟨hp, hb, ?_, hs⟩
  cases cs with
  | nil => rfl
  | cons c cs =>
    -- a first colon or number sign would be an indicator already
    simp only [Style.hasIndicator, Bool.or_eq_false_iff] at hi
    obtain ⟨⟨-, hfirst⟩, hlater⟩ := hi
    have hx : endsWord (some 'x') = false := by decide
    rw [Style.hasLaterIndicator, hlater, hx, Bool.and_false, Bool.or_false, Bool.or_false]
    by_cases hc : c = ':'
    · subst hc
      rw [Style.isFirstIndicator, Bool.or_eq_false_iff] at hfirst
      exact hfirst.2
    · simp [hc]

/-- **Without quotes.** A text that fits is read back, up to a line that is not indented enough. -/
theorem plain_text (start : Mark) {margin k : Nat} {cs body : List Char}
    (hfit : Style.fitsPlain cs = true)
    (hm : 0 < margin ∧ margin ≤ m.column) (hk : k < margin)
    (hbody : body.head?.all isKeyChar = true) :
    ∃ m', m'.column = k ∧
      plain false margin start .none [] (cs ++ '\n' :: (List.replicate k ' ' ++ body)) m =
        .ok (cs, true, ⟨body, m'⟩) := by
  rw [plain_continues cs _ (continues_of_fitsPlain hfit) hm rfl fun hne => absurd rfl hne]
  obtain ⟨m', hk', heq⟩ := plain_newline hk hbody
  exact ⟨m', hk', by rw [heq, List.reverse_append, List.reverse_reverse]; rfl⟩

/-- A key is read up to its colon. -/
theorem plain_key {margin : Nat} {key : List Char} (hkey : key.all isKeyChar = true)
    (hrest : endsWord rest.head? = true) :
    plain false margin start .none read (key ++ ':' :: rest) m =
      .ok (read.reverse ++ key, false, ⟨':' :: rest, m.advance key.length⟩) := by
  induction key generalizing read m with
  | nil =>
    rw [List.nil_append, plain]
    simp [isHalfBreak, isBlank, isBreak, endsPlain, hrest, Gap.hasLines, Mark.advance]
  | cons c key ih =>
    rw [List.all_cons, Bool.and_eq_true] at hkey
    obtain ⟨hc, hkey⟩ := hkey
    rw [List.cons_append, plain_char (isHalfBreak_of_keyChar hc _) (isBlank_of_keyChar hc)
      (isBreak_of_keyChar hc) (fun hne => absurd rfl hne) ?_, ih hkey, next_advance]
    · simp [Gap.folded]
    · simp [endsPlain, ne_of_keyChar hc ':' rfl]

end FlowScalar

end EdgeCsv.Yaml
