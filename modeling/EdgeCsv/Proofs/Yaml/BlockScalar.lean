import EdgeCsv.Proofs.Yaml.FlowScalar
import EdgeCsv.Yaml.Token.BlockScalar

/-!
# Literal blocks are read as they were written

The lines of a text are indented by four behind a key that is indented by two. What the reader keeps
apart, the line ends that it does not know the place of yet and the text before them, spells what
has been written so far (`Reads`).

* `lines_writeLines`: the reader takes in what the writer puts down, character by character.
* `scan_literal`: a text in a literal block is read back if such a block can hold it.
-/

namespace EdgeCsv.Yaml.BlockScalar

variable {start m : Mark} {s : Lines} {c : Char} {d rest : List Char}

/-- How far the reading of a literal block has come: it stands behind the characters `d`, last one
first, at a place. -/
structure Reads (s : Lines) (d : List Char) (m : Mark) : Prop where
  spelled : s.more ++ (s.first.toList ++ s.read) = d
  inLine : s.inLine = !d.head?.all isBreak
  clean : s.inLine = true → s.more = [] ∧ s.first = none
  emptyLines : s.more ≠ [] → d.tail.head?.all isBreak = true
  column : s.inLine = false → m.column = 0

/-- A block whose text is indented by four can go on with `c`: its indentation is known, or `c` is
the first character and shows it. -/
def Indented (s : Lines) (c : Char) : Prop :=
  s.indent = some 4 ∨
    s.indent = none ∧ s.inLine = false ∧ s.widest = 0 ∧ Style.isSpace c = false ∧ isBreak c = false

/-! ## One character -/

theorem lines_char (hp : isPrintable c = true) (hl : s.inLine = true) :
    lines true 3 start s (c :: rest) m =
      if isBreak c then lines true 3 start (s.endLine c) rest (m.nextLine 1)
      else lines true 3 start (s.char c) rest m.next := by
  rw [lines]
  simp [isHalfBreak_of_printable hp, hl]

theorem lines_space (hl : s.inLine = false) (hi : s.isIndentation m = true) :
    lines true 3 start s (' ' :: rest) m = lines true 3 start (s.space m) rest m.next := by
  rw [lines]
  simp [isHalfBreak, hl, hi]

theorem lines_emptyLine (hp : isPrintable c = true) (hb : isBreak c = true)
    (hl : s.inLine = false) :
    lines true 3 start s (c :: rest) m =
      lines true 3 start (s.emptyLine c) rest (m.nextLine 1) := by
  have hs : c ≠ ' ' := by rintro rfl; exact absurd hb (by decide)
  have ht : c ≠ '\t' := by rintro rfl; exact absurd hb (by decide)
  rw [lines]
  simp [isHalfBreak_of_printable hp, hl, hb, hs, ht]

/-- The indentation of a line is passed over. -/
theorem lines_indent (k : Nat) (hk : m.column + k ≤ 4) (hl : s.inLine = false)
    (hi : ∀ n, s.indent = some n → n = 4) (hw : m.column ≤ s.widest) :
    lines true 3 start s (List.replicate k ' ' ++ rest) m =
      lines true 3 start { s with widest := max s.widest (m.column + k) } rest (m.advance k) := by
  induction k generalizing s m with
  | zero =>
    have hmax : max s.widest (m.column + 0) = s.widest := Nat.max_eq_left hw
    rw [hmax]
    rfl
  | succ k ih =>
    have hin : s.isIndentation m = true := by
      cases hs : s.indent with
      | none => simp [Lines.isIndentation, hs]
      | some n =>
        obtain rfl := hi n hs
        simp only [Lines.isIndentation, hs, Option.all_some, decide_eq_true_eq]
        omega
    have hcol : m.next.column + k = m.column + (k + 1) := by simp only [Mark.next]; omega
    have hwide : max (max s.widest (m.column + 1)) (m.column + (k + 1)) =
        max s.widest (m.column + (k + 1)) := by omega
    rw [List.replicate_succ, List.cons_append, lines_space hl hin,
      ih (s := s.space m) (by omega) hl hi (Nat.le_max_right _ _), hcol, FlowScalar.next_advance]
    simp only [Lines.space, hwide]

theorem lines_startLine (hp : isPrintable c = true) (hb : isBreak c = false)
    (hl : s.inLine = false) (hm : m.column = s.indentation 3)
    (hs : s.isIndentation m = true → c ≠ ' ') :
    lines true 3 start s (c :: rest) m =
      lines true 3 start (s.startLine true (s.indentation 3) c) rest m.next := by
  have ht : c ≠ '\t' := by rintro rfl; exact absurd hp (by decide)
  have hs' : (s.isIndentation m && decide (c = ' ')) = false := by
    rw [Bool.and_eq_false_imp]
    intro h
    exact decide_eq_false (hs h)
  rw [lines]
  simp only [isHalfBreak_of_printable hp, hl, hs', ht, hb, hm, decide_false, Bool.and_false,
    Bool.false_eq_true, if_false, if_true]

/-- A line starts behind its indentation. -/
theorem lines_margin (start : Mark) (rest : List Char) (hp : isPrintable c = true)
    (hb : isBreak c = false) (hl : s.inLine = false) (hm : m.column = 0) (hi : Indented s c) :
    ∃ w m', lines true 3 start s (Style.margin ++ c :: rest) m =
      lines true 3 start ({ s with widest := w }.startLine true 4 c) rest m' := by
  have hindent : ∀ n, s.indent = some n → n = 4 := by
    intro n hn
    rcases hi with hi | ⟨hi, -⟩ <;> simp_all
  have hmargin : lines true 3 start s (Style.margin ++ c :: rest) m =
      lines true 3 start { s with widest := max s.widest (m.column + 4) } (c :: rest)
        (m.advance 4) :=
    lines_indent 4 (by omega) hl hindent (by omega)
  generalize hw : max s.widest (m.column + 4) = w at hmargin
  have hcol : (m.advance 4).column = 4 := by simp [Mark.advance, hm]
  have hfour : { s with widest := w }.indentation 3 = 4 := by
    rcases hi with hi | ⟨hi, -, hwide, -⟩
    · simp [Lines.indentation, hi]
    · simp only [Lines.indentation, hi, Option.getD_none]; omega
  have hs : { s with widest := w }.isIndentation (m.advance 4) = true → c ≠ ' ' := by
    rintro h rfl
    rcases hi with hi | ⟨-, -, -, hspace, -⟩
    · simp [Lines.isIndentation, hi, hcol] at h
    · exact absurd hspace (by decide)
  refine ⟨w, (m.advance 4).next, hmargin.trans ?_⟩
  rw [lines_startLine (s := { s with widest := w }) hp hb hl (hcol.trans hfour.symm) hs, hfour]

theorem Reads.read_eq (h : Reads s d m) (hl : s.inLine = true) : s.read = d := by
  obtain ⟨hmore, hfirst⟩ := h.clean hl
  simpa [hmore, hfirst] using h.spelled

/-- Between two lines, a line end or the indentation of a line is next. -/
theorem Reads.all_isBreak (h : Reads s d m) (hl : s.inLine = false) :
    d.head?.all isBreak = true := by
  simpa [hl] using h.inLine

/-- The reader behind one more character that the writer puts down. -/
theorem reads_next (start : Mark) (rest : List Char) (h : Reads s d m) (hp : isPrintable c = true)
    (hi : Indented s c) :
    ∃ s' m', Reads s' (c :: d) m' ∧ s'.indent = some 4 ∧
      lines true 3 start s
          ((if !isBreak c && !s.inLine then Style.margin else []) ++ c :: rest) m =
        lines true 3 start s' rest m' := by
  cases hl : s.inLine with
  | true =>
    -- in a line, which the character ends or goes into
    obtain ⟨hmore, hfirst⟩ := h.clean hl
    have hread := h.read_eq hl
    have hindent : s.indent = some 4 := hi.resolve_right (by simp [hl])
    rw [Bool.not_true, Bool.and_false, if_neg (by decide), List.nil_append, lines_char hp hl]
    cases hb : isBreak c with
    | true =>
      have hend := lineEnd_of_printable hp hb
      refine ⟨s.endLine c, m.nextLine 1, ⟨?_, ?_, ?_, ?_, ?_⟩, hindent, rfl⟩
      all_goals simp [Lines.endLine, hmore, hread, hb, hend, Mark.nextLine]
    | false =>
      refine ⟨s.char c, m.next, ⟨?_, ?_, ?_, ?_, ?_⟩, hindent, rfl⟩
      all_goals simp [Lines.char, hmore, hfirst, hread, hb, hl]
  | false =>
    -- between lines: an empty line, or the indentation of a new one
    have hbreaks := h.all_isBreak hl
    cases hb : isBreak c with
    | true =>
      have hend := lineEnd_of_printable hp hb
      have hindent : s.indent = some 4 := hi.resolve_right (by simp [hb])
      refine ⟨s.emptyLine c, m.nextLine 1, ⟨?_, ?_, ?_, ?_, ?_⟩, hindent, lines_emptyLine hp hb hl⟩
      all_goals simp [Lines.emptyLine, h.spelled, hbreaks, hb, hl, hend, Mark.nextLine]
    | false =>
      obtain ⟨w, m', heq⟩ := lines_margin start rest hp hb hl (h.column hl) hi
      refine ⟨_, m', ⟨?_, ?_, ?_, ?_, ?_⟩, rfl, heq⟩
      all_goals simp [Lines.startLine, Lines.between, h.spelled, hb]

theorem writeLines_cons (afterBreak : Bool) (c : Char) (cs : List Char) :
    Style.writeLines afterBreak (c :: cs) =
      (if !isBreak c && afterBreak then Style.margin else []) ++
        c :: Style.writeLines (isBreak c) cs := by
  rw [Style.writeLines]
  cases isBreak c <;> simp

/-- **The reader takes in what the writer puts down.** -/
theorem lines_writeLines (start : Mark) (cs rest : List Char) (h : Reads s d m)
    (hp : cs.all isPrintable = true) (hi : ∀ c, cs.head? = some c → Indented s c) :
    ∃ s' m', Reads s' (cs.reverse ++ d) m' ∧ (s.indent = some 4 ∨ cs ≠ [] → s'.indent = some 4) ∧
      lines true 3 start s (Style.writeLines (!s.inLine) cs ++ rest) m =
        lines true 3 start s' rest m' := by
  induction cs generalizing s d m with
  | nil => exact ⟨s, m, h, fun hi => hi.resolve_right fun hne => hne rfl, rfl⟩
  | cons c cs ih =>
    rw [List.all_cons, Bool.and_eq_true] at hp
    rw [writeLines_cons, List.append_assoc, List.cons_append]
    obtain ⟨s₁, m₁, h₁, hi₁, heq₁⟩ :=
      reads_next start (Style.writeLines (isBreak c) cs ++ rest) h hp.1 (hi c rfl)
    have hl₁ : isBreak c = !s₁.inLine := by rw [h₁.inLine]; simp
    obtain ⟨s₂, m₂, h₂, hi₂, heq₂⟩ := ih h₁ hp.2 fun _ _ => .inl hi₁
    refine ⟨s₂, m₂, ?_, fun _ => hi₂ (.inl hi₁), ?_⟩
    · rwa [List.reverse_cons, List.append_assoc, List.singleton_append]
    · rw [heq₁, hl₁, heq₂]

/-- The lines end before the next key, which is not indented enough. -/
theorem lines_stop (start : Mark) {k : Nat} {body : List Char} (hk : k < 4)
    (hbody : body.head?.all isKeyChar = true) (hl : s.inLine = false) (hm : m.column = 0)
    (hi : s.indent = some 4) :
    ∃ s' m', m'.column = k ∧ s'.text = s.text ∧
      lines true 3 start s (List.replicate k ' ' ++ body) m = .ok (s', ⟨body, m'⟩) := by
  have hindent : ∀ n, s.indent = some n → n = 4 := by
    intro n hn
    rw [hi] at hn
    exact (Option.some.inj hn).symm
  have hcol : (m.advance k).column = k := by simp [Mark.advance, hm]
  refine ⟨{ s with widest := max s.widest (m.column + k) }, m.advance k, hcol, rfl, ?_⟩
  rw [lines_indent k (by omega) hl hindent (by omega)]
  cases body with
  | nil => rfl
  | cons c body =>
    have hc : isKeyChar c = true := hbody
    rw [lines]
    simp [isHalfBreak_of_keyChar hc, hl, ne_of_keyChar hc ' ' rfl, ne_of_keyChar hc '\t' rfl,
      isBreak_of_keyChar hc, Lines.indentation, hi, hcol, Nat.ne_of_lt hk]

/-! ## The header and the line ends at the end -/

/-- The sign for a chomping; the usual one has none. -/
def Chomping.sign : Chomping → List Char
  | .strip => ['-']
  | .clip => []
  | .keep => ['+']

/-- A header is read back, with an indentation indicator or without one. -/
theorem header_sign (hinted : Bool) (chomping : Chomping) (rest : List Char) (m : Mark) :
    ∃ m', m'.column = 0 ∧
      header true ⟨'|' :: ((if hinted then ['2'] else []) ++ chomping.sign ++ '\n' :: rest), m⟩ =
        .ok (⟨true, chomping, if hinted then some 2 else none⟩, ⟨rest, m'⟩) := by
  cases hinted <;> cases chomping <;> exact ⟨_, rfl, rfl⟩

/-- What becomes of the line ends at the end of a text, last character first, when it is read back:
there is none, or all belong to the text. -/
def chompingOf (d : List Char) : Chomping :=
  if !d.head?.all isBreak then .strip
  else if d.tail.head?.all isBreak then .keep
  else .clip

theorem chompIndicator_eq {cs : List Char} (hne : cs ≠ []) :
    Style.chompIndicator cs = (chompingOf cs.reverse).sign := by
  rw [chompingOf, Style.chompIndicator]
  cases h : cs.reverse with
  | nil => exact absurd (List.reverse_eq_nil_iff.1 h) hne
  | cons c before =>
    cases hb : isBreak c <;> cases hbefore : before.head?.all isBreak <;>
      simp [hb, hbefore, Chomping.sign]

/-- Behind a line end, the text is what has been read. -/
theorem text_of_break (h : Reads s d m) (hl : s.inLine = false) :
    s.text (chompingOf d) = d.reverse := by
  rw [chompingOf, h.all_isBreak hl]
  cases hbefore : d.tail.head?.all isBreak with
  | true =>
    rw [← h.spelled, ← List.append_assoc]
    rfl
  | false =>
    -- a single line end is the one of the last line
    have hmore : s.more = [] := by
      by_contra hne
      exact Bool.false_ne_true (hbefore.symm.trans (h.emptyLines hne))
    rw [← h.spelled, hmore, List.nil_append]
    rfl

/-- Inside a line, the text is what has been read, and the line end that is still to come is not
part of it. -/
theorem text_of_inLine (h : Reads s d m) (hl : s.inLine = true) :
    (s.endLine '\n').text (chompingOf d) = d.reverse := by
  have hlast : !d.head?.all isBreak := h.inLine.symm.trans hl
  rw [chompingOf, if_pos hlast, ← h.read_eq hl]
  rfl

/-- The lines of a block end with the text. -/
theorem lines_last (start : Mark) {cs body : List Char} {k : Nat} (h : Reads s cs.reverse m)
    (hi : s.indent = some 4) (hk : k < 4) (hbody : body.head?.all isKeyChar = true) :
    ∃ s' m', m'.column = k ∧ s'.text (chompingOf cs.reverse) = cs ∧
      lines true 3 start s
          ((if cs.getLast?.all isBreak then [] else ['\n']) ++ (List.replicate k ' ' ++ body)) m =
        .ok (s', ⟨body, m'⟩) := by
  have hlast : s.inLine = !cs.getLast?.all isBreak := by rw [h.inLine, List.head?_reverse]
  cases hl : s.inLine with
  | false =>
    obtain ⟨s', m', hm', htext, heq⟩ := lines_stop start hk hbody hl (h.column hl) hi
    refine ⟨s', m', hm', ?_, ?_⟩
    · rw [htext, text_of_break h hl, List.reverse_reverse]
    · rwa [if_pos (by simpa [hl] using hlast)]
  | true =>
    obtain ⟨s', m', hm', htext, heq⟩ :=
      lines_stop (s := s.endLine '\n') (m := m.nextLine 1) start hk hbody rfl rfl hi
    refine ⟨s', m', hm', ?_, ?_⟩
    · rw [htext, text_of_inLine h hl, List.reverse_reverse]
    · rw [if_neg (by simpa [hl] using hlast), List.singleton_append, lines_char (by decide) hl]
      exact heq

theorem scan_eq {margin : Nat} {cur body rest : Cursor} {header : Header}
    (hheader : BlockScalar.header true cur = .ok (header, body))
    (hlines : lines true margin cur.mark { indent := header.increment.map (margin - 1 + ·) }
      body.rest body.mark = .ok (s, rest)) :
    scan true margin cur = .ok (s.text header.chomping, rest) := by
  unfold scan
  rw [hheader]
  simp only [bind, Except.bind]
  rw [hlines]

/-- **Literal blocks.** A text of several lines that fits is read back, up to a line that is not
indented enough. -/
theorem scan_literal {cs body : List Char} {k : Nat} (hfit : Style.fitsLiteral cs = true)
    (hne : cs ≠ []) (hk : k < 4) (hbody : body.head?.all isKeyChar = true) :
    ∃ m', m'.column = k ∧
      scan true 3 ⟨Style.write cs .literal ++ (List.replicate k ' ' ++ body), m⟩ =
        .ok (cs, ⟨body, m'⟩) := by
  have hp : cs.all isPrintable = true := by simp_all [Style.fitsLiteral]
  have hlast : cs.getLast?.any isBreak = cs.getLast?.all isBreak := by
    cases h : cs.getLast? with
    | none => exact absurd (List.getLast?_eq_none_iff.1 h) hne
    | some c => rfl
  obtain ⟨hinted, hhint⟩ : ∃ b, cs.head?.any (fun c => Style.isSpace c || isBreak c) = b := ⟨_, rfl⟩
  obtain ⟨behind, hbehind⟩ : ∃ behind, (if cs.getLast?.all isBreak then [] else ['\n']) ++
      (List.replicate k ' ' ++ body) = behind := ⟨_, rfl⟩
  have hwrite : Style.write cs .literal ++ (List.replicate k ' ' ++ body) =
      '|' :: ((if hinted then ['2'] else []) ++ (chompingOf cs.reverse).sign ++
        '\n' :: (Style.writeLines true cs ++ behind)) := by
    simp [Style.write, Style.indentIndicator, hhint, chompIndicator_eq hne, hlast, ← hbehind]
  obtain ⟨m₀, hm₀, hheader⟩ :=
    header_sign hinted (chompingOf cs.reverse) (Style.writeLines true cs ++ behind) m
  -- the reader of the lines knows the indentation, or learns it from the first character
  let s₀ : Lines := { indent := (if hinted then some 2 else none).map (3 - 1 + ·) }
  have hreads : Reads s₀ [] m₀ := ⟨rfl, rfl, nofun, fun h => absurd rfl h, fun _ => hm₀⟩
  have hindented : ∀ c, cs.head? = some c → Indented s₀ c := by
    intro c hc
    cases hinted with
    | true => exact .inl rfl
    | false => exact .inr ⟨rfl, rfl, rfl, by simpa [hc] using hhint⟩
  obtain ⟨s₁, m₁, h₁, hi₁, heq₁⟩ := lines_writeLines m cs behind hreads hp hindented
  rw [List.append_nil] at h₁
  obtain ⟨s₂, m₂, hm₂, htext, heq₂⟩ := lines_last m h₁ (hi₁ (.inr hne)) hk hbody
  rw [hbehind] at heq₂
  refine ⟨m₂, hm₂, ?_⟩
  rw [hwrite, scan_eq hheader (heq₁.trans heq₂), htext]

end EdgeCsv.Yaml.BlockScalar
