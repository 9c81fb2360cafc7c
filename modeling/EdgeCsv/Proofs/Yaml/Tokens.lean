import EdgeCsv.Proofs.Yaml.BlockScalar
import EdgeCsv.Proofs.Yaml.Reader

/-!
# The tokens of an outline

A text is read as it was written, whatever its style, and with its key it makes an entry. The run of
the token reader over an outline is followed entry by entry and section by section.

* `Stands.text_token`: behind a text, it has been read, up to the next key.
* `Before.entry_leads`, `Before.section_leads`: behind an entry or a section, it has been read.
* `stream_write`: the tokens of an outline are those of its sections, in order.
-/

namespace EdgeCsv.Yaml.Token

variable {s t s' : State} {kinds : List Kind} {margins : List Nat} {allowed : Bool} {m : Mark}
  {source : Source} {size : Nat}

/-! ## Texts -/

/-- A text in quotes has been read, and the line ends behind it. -/
theorem Stands.quoted_token (single : Bool) {k : Nat} {text body chars : List Char}
    (h : Stands t kinds margins false ⟨(if single then '\'' else '"') :: chars, m⟩)
    (hbody : body.head?.all isKeyChar = true)
    (hquoted : ∃ m', FlowScalar.quoted single m (.text .none) [] chars m.next =
      .ok (text, ⟨'\n' :: (List.replicate k ' ' ++ body), m'⟩)) :
    ∃ s', t.token = .ok s' ∧ Before s' (kinds ++ [.scalar text false]) margins k body := by
  obtain ⟨m', hquoted⟩ := hquoted
  have htoken : t.token = t.quotedScalar single := by
    unfold State.token
    rw [h.cursor]
    cases single <;> simp [isDocumentIndicator_of_ne]
  have hscalar : t.quotedScalar single = .ok ((t.allowKey false).takeTo (.scalar text false)
      ⟨'\n' :: (List.replicate k ' ' ++ body), m'⟩) := by
    have hread : FlowScalar.quoted single (t.allowKey false).mark (.text .none) []
        ((t.allowKey false).cursor.rest.drop 1) (t.allowKey false).mark.next =
        .ok (text, ⟨'\n' :: (List.replicate k ' ' ++ body), m'⟩) := by
      simpa [State.allowKey, State.mark, h.cursor] using hquoted
    unfold State.quotedScalar
    rw [h.noteKey]
    simp only [bind, Except.bind, hread]
  exact ⟨_, htoken.trans hscalar, ((h.allowKey false).takeTo _ _).before_line hbody⟩

/-- A text that can stand without quotes does not start like something else. -/
theorem first_of_fitsPlain {c : Char} {cs : List Char} (h : Style.fitsPlain (c :: cs) = true)
    (rest : List Char) :
    Style.isFirstIndicator c (cs ++ '\n' :: rest).head? = false ∧ isPrintable c = true ∧
      isBlank c = false ∧ isBreak c = false := by
  have hnext : endsWord (cs ++ '\n' :: rest).head? = endsWord cs.head? := by cases cs <;> rfl
  simp only [Style.fitsPlain, Style.hasIndicator, List.all_cons, List.any_cons, List.head?_cons,
    Option.any_some, Bool.and_eq_true, Bool.not_eq_true', Bool.or_eq_false_iff] at h
  obtain ⟨⟨⟨⟨⟨⟨-, hfirst⟩, -⟩, hp, -⟩, hbreak, -⟩, hspace⟩, -⟩ := h
  refine ⟨?_, hp, (isBlank_of_printable hp).trans hspace, hbreak⟩
  rwa [Style.isFirstIndicator, hnext]

/-- A text without quotes has been read, up to the next line. -/
theorem Stands.plain_token {k margin : Nat} {outer : List Nat} {text body : List Char}
    (h : Stands t kinds (margin :: outer) false
      ⟨text ++ '\n' :: (List.replicate k ' ' ++ body), m⟩)
    (hfit : Style.plain.Fits text) (hm : 0 < margin ∧ margin ≤ m.column) (hk : k < margin)
    (hbody : body.head?.all isKeyChar = true) :
    ∃ s', t.token = .ok s' ∧ Before s' (kinds ++ [.scalar text true]) (margin :: outer) k body := by
  obtain ⟨hne, hfit⟩ := hfit
  obtain ⟨m', rfl, hread⟩ := FlowScalar.plain_text m hfit hm hk hbody
  have hmark : t.mark = m := by rw [State.mark, h.cursor]
  have hmargin : t.margin = margin := (List.cons.inj h.margins).1
  rw [← hmark, ← hmargin, ← h.inFlow] at hread
  have hscalar : t.plainScalar = _ := plainScalar_eq h.noteKey (by rw [h.cursor]; exact hread)
  have htoken : t.token = t.plainScalar := by
    obtain ⟨c, cs, rfl⟩ := List.exists_cons_of_ne_nil hne
    obtain ⟨hfirst, -, hblank, hbreak⟩ :=
      first_of_fitsPlain hfit (List.replicate m'.column ' ' ++ body)
    refine token_plain h.inFlow (by rw [h.cursor]; rfl) hfirst hblank hbreak ?_
    simp only [atDocumentIndicator, hmark, Bool.and_eq_false_imp, decide_eq_true_eq]
    omega
  refine ⟨_, htoken.trans hscalar, ?_⟩
  exact (((h.allowKey false).takeTo _ _).allowKey true).before_body hbody

/-- A text in a literal block has been read, up to the next line. -/
theorem Stands.literal_token {k : Nat} {outer : List Nat} {text body : List Char}
    (h : Stands t kinds (3 :: outer) false
      ⟨Style.literal.write text ++ (List.replicate k ' ' ++ body), m⟩)
    (hfit : Style.literal.Fits text) (hk : k < 4) (hbody : body.head?.all isKeyChar = true) :
    ∃ s', t.token = .ok s' ∧ Before s' (kinds ++ [.scalar text false]) (3 :: outer) k body := by
  obtain ⟨hne, hfit⟩ := hfit
  obtain ⟨m', rfl, hread⟩ := BlockScalar.scan_literal (m := m) hfit hne hk hbody
  have htoken : t.token = t.blockScalar true := by
    unfold State.token
    rw [h.cursor]
    simp [Style.write, isDocumentIndicator_of_ne, h.inFlow]
  have hscalar : t.blockScalar true =
      .ok ((t.allowKey true).takeTo (.scalar text false) ⟨body, m'⟩) := by
    have hdrop : t.dropKey = .ok t := by simp [State.dropKey, h.key]
    have hscan : BlockScalar.scan true (t.allowKey true).margin (t.allowKey true).cursor =
        .ok (text, ⟨body, m'⟩) := by
      have hmargin : (t.allowKey true).margin = 3 := (List.cons.inj h.margins).1
      have hcursor := (h.allowKey true).cursor
      rw [hmargin, hcursor, hread]
    unfold State.blockScalar
    rw [hdrop]
    simp only [bind, Except.bind, hscan]
  exact ⟨_, htoken.trans hscalar, ((h.allowKey true).takeTo _ _).before_body hbody⟩

/-- **A text.** Behind it, it has been read, whatever its style. -/
theorem Stands.text_token {style : Style} {k : Nat} {outer : List Nat} {text body : List Char}
    (h : Stands t kinds (3 :: outer) false ⟨style.write text ++ (List.replicate k ' ' ++ body), m⟩)
    (hfit : style.Fits text) (hm : 3 ≤ m.column) (hk : k < 3)
    (hbody : body.head?.all isKeyChar = true) :
    ∃ s', t.token = .ok s' ∧
      Before s' (kinds ++ [.scalar text (style = .plain)]) (3 :: outer) k body := by
  cases style with
  | plain =>
    rw [Style.write, List.append_assoc, List.singleton_append] at h
    exact h.plain_token hfit ⟨by decide, hm⟩ hk hbody
  | singleQuoted =>
    rw [Style.write, List.cons_append, List.cons_append, List.append_assoc] at h
    refine h.quoted_token true hbody ?_
    exact FlowScalar.quoted_single text trivial (.inr (Nat.succ_pos _)) hfit.2 hfit.1 (by simp)
  | doubleQuoted =>
    rw [Style.write, List.cons_append, List.cons_append, List.append_assoc] at h
    refine h.quoted_token false hbody ?_
    exact FlowScalar.quoted_double text _ rfl (Nat.succ_pos _)
  | literal => exact h.literal_token hfit (by omega) hbody

/-- What is written for a text does not start with a blank. -/
theorem skipBlanks_write {style : Style} {text : List Char} (hfit : style.Fits text)
    (rest : List Char) (m : Mark) :
    State.skipBlanks false false false (' ' :: (style.write text ++ rest)) m =
        (false, ⟨style.write text ++ rest, m.next⟩) ∧
      2 ≤ (style.write text).length := by
  cases style with
  | plain =>
    obtain ⟨hne, hfit⟩ := hfit
    obtain ⟨c, cs, rfl⟩ := List.exists_cons_of_ne_nil hne
    obtain ⟨hfirst, hp, hblank, hbreak⟩ := first_of_fitsPlain hfit rest
    have hhash : c ≠ '#' := by rintro rfl; exact absurd hfirst (by simp [Style.isFirstIndicator])
    have hmark : c ≠ '\ufeff' := by rintro rfl; exact absurd hp (by decide)
    have hstop : State.skipBlanks false false false (c :: (cs ++ '\n' :: rest)) m.next =
        (false, ⟨c :: (cs ++ '\n' :: rest), m.next⟩) := by
      simp only [isBlank, Bool.or_eq_false_iff, decide_eq_false_iff_not] at hblank
      rw [State.skipBlanks]
      simp [isHalfBreak_of_printable hp, hbreak, hblank, hhash, hmark]
    refine ⟨?_, by simp [Style.write]⟩
    rw [Style.write, List.append_assoc, List.singleton_append]
    exact hstop
  | singleQuoted => exact ⟨rfl, by simp [Style.write]⟩
  | doubleQuoted => exact ⟨rfl, by simp [Style.write]⟩
  | literal => exact ⟨rfl, by simp [Style.write]; omega⟩

/-! ## Entries, sections and documents -/

theorem closing_of_le {limit margin : Nat} (h : margin ≤ limit) (outer : List Nat) :
    closing limit (margin :: outer) = (0, margin :: outer) := by
  cases outer <;> simp [closing, h]

/-- **An entry.** Behind it, its key and its text have been read. -/
theorem Before.entry_leads (hsource : source.fault = none) {e : Entry} {k margin : Nat}
    {outer outer' : List Nat} {body : List Char}
    (h : Before s kinds (margin :: outer) 2 (e.body ++ (List.replicate k ' ' ++ body)))
    (hmargin : margin ≤ 3) (hopen : keyMargins 2 (margin :: outer) = 3 :: outer') (hk : k < 3)
    (hbody : body.head?.all isKeyChar = true) :
    ∃ s', Leads source size s s' ∧
      Before s' (kinds ++ keyKinds 2 margin e.label ++ [.scalar e.text (e.style = .plain)])
        (3 :: outer') k body := by
  rw [Entry.body, List.append_assoc, List.cons_append, List.cons_append] at h
  obtain ⟨s₁, m₁, hleads₁, hm₁, h₁⟩ :=
    h.key_leads hsource (closing_of_le hmargin outer) hmargin rfl
  rw [hopen, List.replicate_zero, List.append_nil] at h₁
  obtain ⟨hskip, hlen⟩ := skipBlanks_write e.fits (List.replicate k ' ' ++ body) m₁
  have hclose : closing (m₁.next.column + 1) (3 :: outer') = (0, 3 :: outer') :=
    closing_of_le (by simp only [Mark.next]; omega) outer'
  obtain ⟨s₂, hstep₂, h₂⟩ : ∃ s', Step s₁ s' ∧ Before s'
      (kinds ++ keyKinds 2 margin e.label ++ [.scalar e.text (e.style = .plain)])
      (3 :: outer') k body := by
    refine h₁.step hskip ?_
    intro t ht
    rw [hclose, List.replicate_zero, List.append_nil] at ht
    exact ht.text_token e.fits (Nat.succ_le_succ (Nat.le_of_lt hm₁)) hk hbody
  have hleads₂ : Leads source size s₁ s₂ := by
    refine h₁.leads_of_step hsource hskip hstep₂ ?_
    have hle := h₂.length_le
    simp only [List.length_append, List.length_replicate]
    omega
  exact ⟨s₂, hleads₁.trans hleads₂, h₂⟩

/-- The tokens of an entry. -/
def entryKinds (e : Entry) : List Kind :=
  [.key, .scalar e.label.chars true, .value, .scalar e.text (e.style = .plain)]

/-- The tokens of a section. -/
def sectionKinds (x : Section) : List Kind :=
  [.key, .scalar x.label.chars true, .value, .blockMappingStart] ++
    x.entries.flatMap entryKinds ++ [.blockEnd]

/-- The indentation of the first line of some entries, and what is on it and behind it. -/
def firstLine (k : Nat) (body : List Char) : List Entry → Nat × List Char
  | [] => (k, body)
  | e :: es => (2, e.body ++ (es.flatMap Entry.write ++ (List.replicate k ' ' ++ body)))

theorem head_label (x : Label) (rest : List Char) :
    (x.chars ++ rest).head?.all isKeyChar = true := by
  obtain ⟨c, cs, hx⟩ := List.exists_cons_of_ne_nil x.nonempty
  have hc : isKeyChar c = true := List.all_eq_true.1 x.letters c (by simp [hx])
  simp [hx, hc]

theorem firstLine_spec {k : Nat} {body : List Char} (hk : k < 3)
    (hbody : body.head?.all isKeyChar = true) (es : List Entry) :
    (firstLine k body es).1 < 3 ∧ (firstLine k body es).2.head?.all isKeyChar = true ∧
      es.flatMap Entry.write ++ (List.replicate k ' ' ++ body) =
        List.replicate (firstLine k body es).1 ' ' ++ (firstLine k body es).2 := by
  cases es with
  | nil => exact ⟨hk, hbody, rfl⟩
  | cons e es =>
    refine ⟨show 2 < 3 by decide, ?_, ?_⟩
    · rw [firstLine, Entry.body, List.append_assoc]
      exact head_label e.label _
    · rw [List.flatMap_cons, List.append_assoc]
      rfl

/-- Behind entries of a section that has been opened, they have been read. -/
theorem Before.entries_lead (hsource : source.fault = none) {k : Nat} {outer : List Nat}
    {body : List Char} (hk : k < 3) (hbody : body.head?.all isKeyChar = true) (es : List Entry)
    (h : Before s kinds (3 :: outer) (firstLine k body es).1 (firstLine k body es).2) :
    ∃ s', Leads source size s s' ∧
      Before s' (kinds ++ es.flatMap entryKinds) (3 :: outer) k body := by
  induction es generalizing s kinds with
  | nil =>
    refine ⟨s, fun fuel hfuel => ⟨fuel, hfuel, rfl⟩, ?_⟩
    rwa [List.flatMap_nil, List.append_nil]
  | cons e es ih =>
    -- what follows an entry is the first line of the entries behind it
    obtain ⟨hk', hbody', hline⟩ := firstLine_spec hk hbody es
    rw [firstLine, hline] at h
    obtain ⟨s₁, hleads₁, h₁⟩ := h.entry_leads hsource (Nat.le_refl 3) rfl hk' hbody'
    obtain ⟨s₂, hleads₂, h₂⟩ := ih h₁
    refine ⟨s₂, hleads₁.trans hleads₂, ?_⟩
    rw [List.append_assoc, List.append_assoc] at h₂
    exact h₂

/-- **A section.** Behind it, its key and its entries have been read. -/
theorem Before.section_leads (hsource : source.fault = none) {x : Section} {n margin : Nat}
    {outer : List Nat} {body : List Char} (h : Before s kinds margins 0 (x.write ++ body))
    (hclose : closing 1 margins = (n, margin :: outer)) (hmargin : margin ≤ 1)
    (hopen : keyMargins 0 (margin :: outer) = [1, 0])
    (hbody : body.head?.all isKeyChar = true) :
    ∃ s', Leads source size s s' ∧
      Before s' (kinds ++ List.replicate n .blockEnd ++ keyKinds 0 margin x.label ++
        .blockMappingStart :: x.entries.flatMap entryKinds) [3, 1, 0] 0 body := by
  obtain ⟨e, es, hentries⟩ := List.exists_cons_of_ne_nil x.nonempty
  obtain ⟨hk', hbody', hline⟩ := firstLine_spec (k := 0) (by decide) hbody es
  have hwrite : x.entries.flatMap Entry.write ++ body = List.replicate 2 ' ' ++ (e.body ++
      (List.replicate (firstLine 0 body es).1 ' ' ++ (firstLine 0 body es).2)) := by
    rw [← hline, hentries, List.flatMap_cons, List.append_assoc]
    rfl
  rw [Section.write, List.append_assoc, List.cons_append, List.cons_append, hwrite] at h
  obtain ⟨s₁, m₁, hleads₁, -, h₁⟩ := h.key_leads hsource hclose hmargin rfl
  rw [hopen] at h₁
  -- the first entry opens the mapping of the section
  have h₁' := h₁.before_line (by rw [Entry.body, List.append_assoc]; exact head_label e.label _)
  obtain ⟨s₂, hleads₂, h₂⟩ :=
    h₁'.entry_leads hsource (by decide) (show keyMargins 2 [1, 0] = [3, 1, 0] from rfl) hk' hbody'
  obtain ⟨s₃, hleads₃, h₃⟩ := h₂.entries_lead hsource (by decide) hbody es
  refine ⟨s₃, hleads₁.trans (hleads₂.trans hleads₃), ?_⟩
  rw [hentries, List.flatMap_cons]
  simpa [keyKinds, entryKinds] using h₃

/-- What is known when the last token has been read. -/
structure Ended (s : State) (kinds : List Kind) : Prop where
  key : s.key = none
  outerKeys : s.outerKeys = []
  ended : s.ended = true
  kinds : (s.released.reverse ++ s.queue).map Token.kind = kinds

theorem Ended.run (h : Ended s kinds) (fuel : Nat) :
    ∃ tokens, run source size (fuel + 1) s = (tokens, none) ∧ tokens.map Token.kind = kinds := by
  refine ⟨(s.queue.reverse ++ s.released).reverse, ?_, ?_⟩
  · rw [Token.run, settle_eq h.key h.outerKeys]
    simp only [h.ended, if_true]
  · rw [List.reverse_append, List.reverse_reverse, h.kinds]

theorem Stands.finish_token (h : Stands t kinds [1, 0] allowed ⟨[], m⟩) (hm : m.column = 0) :
    ∃ s', t.token = .ok s' ∧ Ended s' (kinds ++ [.blockEnd, .streamEnd]) := by
  have hclosed : Stands (t.unroll 0) (kinds ++ [.blockEnd]) [0] allowed ⟨[], m⟩ := h.unroll 0
  have htoken : t.token = t.finish := by
    unfold State.token
    rw [h.cursor]
  have hsame : { t with cursor := ⟨[], m⟩ } = t := by
    rw [← h.cursor]
  have hfinish : t.finish =
      .ok { ((t.unroll 0).allowKey false).enqueue .streamEnd m with ended := true } := by
    have hmark : t.mark = m := by rw [State.mark, h.cursor]
    have hdrop : (t.unroll 0).dropKey = .ok (t.unroll 0) := by simp [State.dropKey, hclosed.key]
    unfold State.finish
    simp only [hmark, hm, if_true, hsame, hdrop, bind, Except.bind]
  refine ⟨_, htoken.trans hfinish, hclosed.key, hclosed.outerKeys, rfl, ?_⟩
  rw [← List.singleton_append, ← List.append_assoc, ← hclosed.kinds]
  simp [State.enqueue, State.allowKey]

/-- At the end of the text, what is open is closed. -/
theorem Before.finish (hsource : source.fault = none) (h : Before s kinds [3, 1, 0] 0 [])
    {fuel : Nat} (hfuel : 2 ≤ fuel) :
    ∃ tokens, run source size fuel s = (tokens, none) ∧
      tokens.map Token.kind = kinds ++ [.blockEnd, .blockEnd, .streamEnd] := by
  obtain ⟨fuel, rfl⟩ : ∃ n, fuel = n + 2 := ⟨fuel - 2, by omega⟩
  obtain ⟨allowed, cur, m, hs, hm, -, hskip⟩ := h
  obtain ⟨s₁, hstep, h₁⟩ : ∃ s', Step s s' ∧
      Ended s' (kinds ++ [.blockEnd, .blockEnd, .streamEnd]) := by
    refine hs.step hskip ?_
    intro t ht
    rw [hm] at ht
    obtain ⟨s', hs', hended⟩ := ht.finish_token hm
    rw [List.append_assoc] at hended
    exact ⟨s', hs', hended⟩
  obtain ⟨tokens, hrun, htokens⟩ := h₁.run fuel
  exact ⟨tokens, (run_of_step hsource hstep (fuel + 1)).trans hrun, htokens⟩

theorem head_sections (xs : List Section) :
    (xs.flatMap Section.write).head?.all isKeyChar = true := by
  cases xs with
  | nil => rfl
  | cons x xs =>
    rw [List.flatMap_cons, Section.write, List.append_assoc]
    exact head_label x.label _

/-- Behind the first section, the sections that follow are read to the end. -/
theorem Before.sections_run (hsource : source.fault = none) (xs : List Section)
    (h : Before s kinds [3, 1, 0] 0 (xs.flatMap Section.write)) {fuel : Nat}
    (hfuel : s.cursor.rest.length + 2 ≤ fuel) :
    ∃ tokens, run source size fuel s = (tokens, none) ∧
      tokens.map Token.kind =
        kinds ++ .blockEnd :: xs.flatMap sectionKinds ++ [.blockEnd, .streamEnd] := by
  induction xs generalizing s kinds fuel with
  | nil =>
    rw [List.flatMap_nil, List.append_assoc]
    exact h.finish hsource (Nat.le_trans (Nat.le_add_left 2 _) hfuel)
  | cons x xs ih =>
    rw [List.flatMap_cons] at h
    obtain ⟨s₁, hleads, h₁⟩ := h.section_leads hsource
      (show closing 1 [3, 1, 0] = (1, [1, 0]) from rfl) (Nat.le_refl 1) rfl (head_sections xs)
    obtain ⟨fuel', hfuel', hrun⟩ := hleads fuel hfuel
    obtain ⟨tokens, htokens, hkinds⟩ := ih h₁ hfuel'
    refine ⟨tokens, hrun.trans htokens, hkinds.trans ?_⟩
    simp [sectionKinds, keyKinds]

/-- The tokens of a document. -/
def documentKinds (xs : List Section) : List Kind :=
  [.streamStart, .blockMappingStart] ++ xs.flatMap sectionKinds ++ [.blockEnd, .streamEnd]

/-- **The tokens of an outline** are those of its sections, in order, up to the end of the text. -/
theorem stream_write {xs : List Section} (hne : xs ≠ []) :
    ∃ tokens, stream (Source.ofText (xs.flatMap Section.write)) = (tokens, none) ∧
      tokens.map Token.kind = documentKinds xs := by
  obtain ⟨x, more, rfl⟩ := List.exists_cons_of_ne_nil hne
  obtain ⟨text, htext⟩ : ∃ text, (x :: more).flatMap Section.write = text := ⟨_, rfl⟩
  have hof : Source.ofText ((x :: more).flatMap Section.write) = ⟨text, none⟩ := by
    rw [ofText_write, htext]
  have hsource : (Source.mk text none).fault = none := rfl
  -- the first step reads no character
  obtain ⟨s₀, hs₀⟩ : ∃ s₀ : State, s₀ = { cursor := ⟨text, {}⟩ } := ⟨_, rfl⟩
  have hstep : Step s₀ s₀.start := ⟨s₀, by rw [hs₀]; rfl, by rw [hs₀], by rw [hs₀]; rfl⟩
  have hstands : Stands s₀.start [.streamStart] [0] true ⟨text, {}⟩ := by
    rw [hs₀]
    exact ⟨rfl, rfl, rfl, rfl, rfl, rfl, rfl, rfl⟩
  have hbefore := hstands.before_body (htext ▸ head_sections (x :: more))
  rw [← htext, List.flatMap_cons] at hbefore
  obtain ⟨s₁, hleads, h₁⟩ := hbefore.section_leads hsource
    (show closing 1 [0] = (0, [0]) from rfl) (by decide) rfl (head_sections more)
  obtain ⟨fuel, hfuel, hrun⟩ := hleads (text.length + 2) (Nat.le_of_eq (by rw [hstands.cursor]))
  obtain ⟨tokens, htokens, hkinds⟩ := h₁.sections_run hsource more hfuel
  refine ⟨tokens, ?_, hkinds.trans ?_⟩
  · rw [hof, stream, ← hs₀, run_of_step hsource hstep, hrun, htokens]
  · simp [documentKinds, sectionKinds, keyKinds]

end EdgeCsv.Yaml.Token
