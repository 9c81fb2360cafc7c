import EdgeCsv.Proofs.Yaml.Outline

/-!
# Reading tokens up to the next key

Where the token reader stands is described by what the tokens so far say, the margins that are open,
and what is left of the text (`Stands`, and `Awaits` where a word waits for its colon). That it
comes from one state to another is said for all the work that may be left (`Leads`).

* `Stands.step`: the reader passes over blanks, closes what ended, and reads one token.
* `Before.key_leads`: behind the colon of a key, the key has been read.
-/

namespace EdgeCsv.Yaml.Token

variable {s t s' s'' : State} {kinds : List Kind} {margins : List Nat} {allowed : Bool}
  {cur : Cursor} {source : Source} {size : Nat}

/-! ## Runs -/

/-- The reading of tokens comes from one state to another, however much work is left, and enough is
left then. -/
def Leads (source : Source) (size : Nat) (s s' : State) : Prop :=
  ∀ fuel, s.cursor.rest.length + 2 ≤ fuel → ∃ fuel', s'.cursor.rest.length + 2 ≤ fuel' ∧
    run source size fuel s = run source size fuel' s'

theorem Leads.trans (h : Leads source size s s') (h' : Leads source size s' s'') :
    Leads source size s s'' := by
  intro fuel hfuel
  obtain ⟨fuel', hfuel', heq⟩ := h fuel hfuel
  obtain ⟨fuel'', hfuel'', heq'⟩ := h' fuel' hfuel'
  exact ⟨fuel'', hfuel'', heq.trans heq'⟩

/-- One token is read from `s` to `s'`. -/
def Step (s s' : State) : Prop :=
  ∃ r, s.settle = .ok r ∧ r.ended = false ∧ r.fetch = .ok s'

theorem run_of_step (hsource : source.fault = none) (h : Step s s') (fuel : Nat) :
    run source size (fuel + 1) s = run source size fuel s' := by
  obtain ⟨r, hsettle, hended, hfetch⟩ := h
  rw [run, hsettle]
  simp only [hended, Bool.false_eq_true, if_false, fetchFrom, hsource, hfetch]

theorem leads_of_step (hsource : source.fault = none) (h : Step s s')
    (hlen : s'.cursor.rest.length < s.cursor.rest.length) : Leads source size s s' := by
  intro fuel hfuel
  obtain ⟨fuel, rfl⟩ : ∃ n, fuel = n + 1 := ⟨fuel - 1, by omega⟩
  exact ⟨fuel, by omega, run_of_step hsource h fuel⟩

/-! ## Where the reader stands -/

/-- The reader stands between two tokens outside of brackets, and no word waits for its colon. -/
structure Stands (s : State) (kinds : List Kind) (margins : List Nat) (allowed : Bool)
    (cur : Cursor) : Prop where
  key : s.key = none
  outerKeys : s.outerKeys = []
  started : s.started = true
  ended : s.ended = false
  kinds : (s.released.reverse ++ s.queue).map Token.kind = kinds
  margins : s.margin :: s.outerMargins = margins
  allowed : s.keyAllowed = allowed
  cursor : s.cursor = cur

theorem Stands.inFlow (h : Stands s kinds margins allowed cur) : s.inFlow = false := by
  simp [State.inFlow, h.outerKeys]

theorem dropStale_eq (hkey : s.key = none) (houter : s.outerKeys = []) : s.dropStale = .ok s := by
  cases s
  simp_all [State.dropStale, State.dropIfStale, bind, Except.bind, pure, Except.pure]

/-- If no word waits for its colon, all tokens are set free. -/
theorem settle_eq (hkey : s.key = none) (houter : s.outerKeys = []) :
    s.settle = .ok { s with
      released := s.queue.reverse ++ s.released
      queue := []
      count := s.count + s.queue.length } := by
  have hfirst : s.firstKey? = none := by simp [State.firstKey?, hkey, houter]
  by_cases hq : s.queue = []
  · cases s
    simp_all [State.settle]
  · rw [State.settle, if_neg hq, dropStale_eq hkey houter]
    simp [bind, Except.bind, State.release, hfirst]

theorem Stands.settle (h : Stands s kinds margins allowed cur) :
    ∃ r, s.settle = .ok r ∧ Stands r kinds margins allowed cur := by
  refine ⟨_, settle_eq h.key h.outerKeys, ?_⟩
  refine ⟨h.key, h.outerKeys, h.started, h.ended, ?_, h.margins, h.allowed, h.cursor⟩
  rw [← h.kinds]
  simp

theorem Stands.noteKey (h : Stands s kinds margins false cur) : s.noteKey = .ok s := by
  simp [State.noteKey, h.allowed]

/-- Adding a token that was read from here keeps the rest of what the reader knows. -/
theorem Stands.takeTo (h : Stands s kinds margins allowed cur) (kind : Kind) (behind : Cursor) :
    Stands (s.takeTo kind behind) (kinds ++ [kind]) margins allowed behind := by
  refine ⟨h.key, h.outerKeys, h.started, h.ended, ?_, h.margins, h.allowed, rfl⟩
  rw [← h.kinds]
  simp [State.takeTo, State.enqueue]

theorem Stands.allowKey (h : Stands s kinds margins allowed cur) (allowed' : Bool) :
    Stands (s.allowKey allowed') kinds margins allowed' cur :=
  ⟨h.key, h.outerKeys, h.started, h.ended, h.kinds, h.margins, rfl, h.cursor⟩

/-- The margins that stay open at a place, and how many are closed. -/
def closing (limit : Nat) : List Nat → Nat × List Nat
  | m :: outer :: margins =>
    if m ≤ limit then (0, m :: outer :: margins)
    else ((closing limit (outer :: margins)).1 + 1, (closing limit (outer :: margins)).2)
  | margins => (0, margins)

theorem Stands.closeBlocks (limit : Nat) (outer : List Nat) {m : Nat}
    (h : Stands s kinds (m :: outer) allowed cur) :
    Stands (s.closeBlocks limit outer)
      (kinds ++ List.replicate (closing limit (m :: outer)).1 .blockEnd)
      (closing limit (m :: outer)).2 allowed cur := by
  induction outer generalizing s kinds m with
  | nil => simpa [State.closeBlocks, closing] using h
  | cons o outer ih =>
    have hm : s.margin = m := (List.cons.inj h.margins).1
    rw [State.closeBlocks, closing, hm]
    by_cases hle : m ≤ limit
    · simpa [hle] using h
    · rw [if_neg hle, if_neg hle, Nat.add_comm, List.replicate_add, ← List.append_assoc]
      refine ih ⟨h.key, h.outerKeys, h.started, h.ended, ?_, rfl, h.allowed, h.cursor⟩
      rw [← h.kinds]
      simp [State.enqueue]

theorem Stands.unroll (h : Stands s kinds margins allowed cur) (limit : Nat) :
    Stands (s.unroll limit) (kinds ++ List.replicate (closing limit margins).1 .blockEnd)
      (closing limit margins).2 allowed cur := by
  obtain rfl := h.margins
  rw [State.unroll, h.inFlow, if_neg (by decide)]
  exact h.closeBlocks limit s.outerMargins

/-- The reader goes to the next token, and closes what ends before it. -/
theorem Stands.fetch {allowed' : Bool} {cur' : Cursor} (h : Stands s kinds margins allowed cur)
    (hskip : State.skipBlanks false false allowed cur.rest cur.mark = (allowed', cur')) :
    ∃ t, s.fetch = t.token ∧
      Stands t
        (kinds ++ List.replicate (closing (cur'.mark.column + 1) margins).1 .blockEnd)
        (closing (cur'.mark.column + 1) margins).2 allowed' cur' := by
  have hnext : s.toNextToken = { s with keyAllowed := allowed', cursor := cur' } := by
    simp only [State.toNextToken, h.inFlow, h.allowed, State.mark, h.cursor, hskip]
  have hstands : Stands s.toNextToken kinds margins allowed' cur' := by
    rw [hnext]
    exact ⟨h.key, h.outerKeys, h.started, h.ended, h.kinds, h.margins, rfl, rfl⟩
  refine ⟨s.toNextToken.unroll (cur'.mark.column + 1), ?_, hstands.unroll _⟩
  have hmark : s.toNextToken.mark = cur'.mark := by rw [State.mark, hstands.cursor]
  have hdrop := dropStale_eq hstands.key hstands.outerKeys
  simp only [State.fetch, h.started, Bool.not_true, Bool.false_eq_true, if_false, hdrop, bind,
    Except.bind, hmark]

/-- What holds behind each token that may come next holds behind one step. -/
theorem Stands.step {P : State → Prop} {allowed' : Bool} {cur' : Cursor}
    (h : Stands s kinds margins allowed cur)
    (hskip : State.skipBlanks false false allowed cur.rest cur.mark = (allowed', cur'))
    (htoken : ∀ t, Stands t
        (kinds ++ List.replicate (closing (cur'.mark.column + 1) margins).1 .blockEnd)
        (closing (cur'.mark.column + 1) margins).2 allowed' cur' →
      ∃ s', t.token = .ok s' ∧ P s') :
    ∃ s', Step s s' ∧ P s' := by
  obtain ⟨r, hsettle, hr⟩ := h.settle
  obtain ⟨t, hfetch, ht⟩ := hr.fetch hskip
  obtain ⟨s', hs', hP⟩ := htoken t ht
  exact ⟨s', ⟨r, hsettle, hr.ended, hfetch.trans hs'⟩, hP⟩

/-! ## Keys -/

/-- A word without quotes is read where no indicator stands. -/
theorem token_plain {c : Char} {rest : List Char} (hflow : s.inFlow = false)
    (hrest : s.cursor.rest = c :: rest) (hfirst : Style.isFirstIndicator c rest.head? = false)
    (hblank : isBlank c = false) (hbreak : isBreak c = false)
    (hdoc : atDocumentIndicator (c :: rest) s.mark = false) : s.token = s.plainScalar := by
  simp only [Style.isFirstIndicator, Bool.or_eq_false_iff, decide_eq_false_iff_not, List.mem_cons,
    List.not_mem_nil, or_false, not_or, Bool.and_eq_false_imp, decide_eq_true_eq] at hfirst
  obtain ⟨hnot, hword⟩ := hfirst
  have hends : ∀ d, d = '?' ∨ d = ':' ∨ d = '-' → ¬(c = d ∧ endsWord rest.head? = true) := by
    rintro d hd ⟨rfl, he⟩
    exact absurd (hword hd) (by simp [he])
  have hstarts : State.startsPlain false c rest.head? = true := by
    by_cases hc : c = '?' ∨ c = ':' ∨ c = '-'
    · have he := hword hc
      have hany : rest.head?.any isBlank = false := by
        cases h : rest.head? <;> simp_all [endsWord]
      rcases hc with rfl | rfl | rfl <;> simp [State.startsPlain, he, hany]
    · simp only [not_or] at hc
      simp [State.startsPlain, State.isIndicator, hblank, hbreak, hnot, hc]
  have hline : ∀ b, b = '-' ∨ b = '.' →
      ¬(s.mark.column = 0 ∧ isDocumentIndicator b (c :: rest) = true) := by
    rintro b hb ⟨hcol, hdash⟩
    rcases hb with rfl | rfl <;> simp [atDocumentIndicator, hcol, hdash] at hdoc
  -- each branch before the last asks for an indicator
  unfold State.token
  rw [hrest]
  simp only [hflow, hnot, hline, hends, hstarts, Bool.false_eq_true, false_or, and_false, if_false,
    if_true, false_and, true_or, or_true]

/-- The reader has read a word that waits for its colon, behind tokens that do not wait, and stands
before the colon. -/
structure Awaits (s : State) (kinds : List Kind) (before : List Token) (x : Label)
    (margins : List Nat) (rest : List Char) (m : Mark) : Prop where
  key : ∃ required, s.key = some ⟨required, s.count + before.length, m⟩
  outerKeys : s.outerKeys = []
  started : s.started = true
  ended : s.ended = false
  queue : s.queue = before ++ [⟨.scalar x.chars true, m⟩]
  kinds : (s.released.reverse ++ before).map Token.kind = kinds
  margins : s.margin :: s.outerMargins = margins
  allowed : s.keyAllowed = false
  cursor : s.cursor = ⟨':' :: rest, m.advance x.chars.length⟩

variable {x : Label} {rest : List Char} {m : Mark} {before : List Token}

theorem isFirstIndicator_of_keyChar {c : Char} (hc : isKeyChar c = true) (next? : Option Char) :
    Style.isFirstIndicator c next? = false := by
  have hnot : ∀ ds : List Char, ds.all (!isKeyChar ·) = true → c ∉ ds := by
    intro ds hds hmem
    have hc' := List.all_eq_true.1 hds c hmem
    simp [hc] at hc'
  rw [Style.isFirstIndicator, decide_eq_false (hnot _ (by decide)),
    decide_eq_false (hnot _ (by decide))]
  rfl

theorem plainScalar_eq {n : State} {text : List Char} {newLine : Bool} {behind : Cursor}
    (hnote : s.noteKey = .ok n)
    (hplain : FlowScalar.plain n.inFlow n.margin n.mark .none [] n.cursor.rest n.mark =
      .ok (text, newLine, behind)) :
    s.plainScalar =
      .ok (((n.allowKey false).takeTo (.scalar text true) behind).allowKey newLine) := by
  unfold State.plainScalar
  rw [hnote]
  have hplain' : FlowScalar.plain (n.allowKey false).inFlow (n.allowKey false).margin
      (n.allowKey false).mark .none [] (n.allowKey false).cursor.rest (n.allowKey false).mark =
      .ok (text, newLine, behind) := hplain
  simp only [bind, Except.bind, hplain']

theorem isDocumentIndicator_of_ne {c dot : Char} (hc : c ≠ dot) (rest : List Char) :
    isDocumentIndicator dot (c :: rest) = false := by
  unfold isDocumentIndicator
  split <;> simp_all

/-- A key waits for its colon. -/
theorem Stands.key_token (h : Stands t kinds margins true ⟨x.chars ++ ':' :: rest, m⟩)
    (hrest : endsWord rest.head? = true) :
    ∃ s', t.token = .ok s' ∧ Awaits s' kinds t.queue x margins rest m := by
  obtain ⟨c, cs, hx⟩ := List.exists_cons_of_ne_nil x.nonempty
  have hc : isKeyChar c = true := List.all_eq_true.1 x.letters c (by simp [hx])
  have hchars : t.cursor.rest = c :: (cs ++ ':' :: rest) := by rw [h.cursor, hx]; rfl
  have hdoc : atDocumentIndicator (c :: (cs ++ ':' :: rest)) t.mark = false := by
    simp [atDocumentIndicator, isDocumentIndicator_of_ne (ne_of_keyChar hc '-' rfl),
      isDocumentIndicator_of_ne (ne_of_keyChar hc '.' rfl)]
  have hmark : t.mark = m := by rw [State.mark, h.cursor]
  obtain ⟨required, hnote⟩ : ∃ required, t.noteKey =
      .ok { t with key := some ⟨required, t.count + t.queue.length, m⟩ } := by
    refine ⟨!t.inFlow && t.margin = t.mark.column + 1, ?_⟩
    simp [State.noteKey, State.dropKey, h.allowed, h.key, hmark, bind, Except.bind]
  have hword : FlowScalar.plain t.inFlow t.margin t.mark .none [] t.cursor.rest t.mark =
      .ok (x.chars, false, ⟨':' :: rest, m.advance x.chars.length⟩) := by
    rw [h.inFlow, hmark, h.cursor]
    exact FlowScalar.plain_key x.letters hrest
  rw [token_plain h.inFlow hchars (isFirstIndicator_of_keyChar hc _) (isBlank_of_keyChar hc)
    (isBreak_of_keyChar hc) hdoc, plainScalar_eq hnote hword]
  have hqueue : t.queue ++ [⟨.scalar x.chars true, t.mark⟩] =
      t.queue ++ [⟨.scalar x.chars true, m⟩] := by rw [hmark]
  exact ⟨_, rfl, ⟨required, rfl⟩, h.outerKeys, h.started, h.ended, hqueue, h.kinds, h.margins, rfl,
    rfl⟩

theorem Awaits.dropStale (h : Awaits s kinds before x margins rest m) : s.dropStale = .ok s := by
  obtain ⟨required, hkey⟩ := h.key
  have hstale : Key.isStale ⟨required, s.count + before.length, m⟩ s.mark = false := by
    have hshort := x.short
    simp only [Key.isStale, State.mark, h.cursor, Mark.advance, Bool.or_eq_false_iff,
      decide_eq_false_iff_not]
    omega
  have houter := h.outerKeys
  cases s
  simp_all [State.dropStale, State.dropIfStale, bind, Except.bind, pure, Except.pure]

/-- The tokens that do not wait are set free. -/
theorem Awaits.settle (h : Awaits s kinds before x margins rest m) :
    ∃ r, s.settle = .ok r ∧ Awaits r kinds [] x margins rest m := by
  obtain ⟨required, hkey⟩ := h.key
  have hfirst : s.firstKey? = some (s.count + before.length) := by
    simp [State.firstKey?, hkey, h.outerKeys]
  -- the word is the last token of the queue, so all before it go
  have hcount : min (before.length + 1) (s.count + before.length - s.count) = before.length := by
    omega
  have hne : s.queue ≠ [] := by simp [h.queue]
  have hrelease : s.release = { s with
      released := before.reverse ++ s.released
      queue := [⟨.scalar x.chars true, m⟩]
      count := s.count + before.length } := by
    simp only [State.release, hfirst, h.queue, List.length_append, List.length_singleton, hcount]
    simp
  refine ⟨s.release, by simp [State.settle, hne, h.dropStale, bind, Except.bind], ?_⟩
  rw [hrelease]
  have hkinds : ((before.reverse ++ s.released).reverse ++ []).map Token.kind = kinds := by
    rw [← h.kinds]
    simp
  exact ⟨⟨required, hkey⟩, h.outerKeys, h.started, h.ended, rfl, hkinds, h.margins, h.allowed,
    h.cursor⟩

/-- The tokens for a key at a column, which starts a mapping if none is open there. -/
def keyKinds (column margin : Nat) (x : Label) : List Kind :=
  (if margin ≤ column then [.blockMappingStart] else []) ++ [.key, .scalar x.chars true, .value]

/-- The margins behind a key at a column. -/
def keyMargins (column : Nat) : List Nat → List Nat
  | [] => []
  | margin :: outer => if margin ≤ column then (column + 1) :: margin :: outer else margin :: outer

theorem Awaits.fetch {margin : Nat} {outer : List Nat}
    (h : Awaits s kinds before x (margin :: outer) rest m) (hmargin : margin ≤ m.column + 1)
    (hrest : endsWord rest.head? = true) : s.fetch = s.value := by
  have hflow : s.inFlow = false := by simp [State.inFlow, h.outerKeys]
  have hchars : s.cursor.rest = ':' :: rest := by rw [h.cursor]
  have hnext : s.toNextToken = s := by
    have hskip : State.skipBlanks false false false (':' :: rest) (m.advance x.chars.length) =
        (false, ⟨':' :: rest, m.advance x.chars.length⟩) := rfl
    have hallowed := h.allowed
    have hcursor := h.cursor
    cases s
    simp_all [State.toNextToken, State.mark]
  have hunroll : s.unroll (s.mark.column + 1) = s := by
    have hle : s.margin ≤ s.mark.column + 1 := by
      rw [(List.cons.inj h.margins).1, State.mark, h.cursor]
      exact Nat.le_trans hmargin (Nat.succ_le_succ (Nat.le_add_right _ _))
    rw [State.unroll, hflow, if_neg (by decide)]
    cases s.outerMargins with
    | nil => rfl
    | cons => rw [State.closeBlocks, if_pos hle]
  have htoken : s.token = s.value := by
    unfold State.token
    rw [hchars]
    simp [hflow, hrest, isDocumentIndicator_of_ne]
  simp only [State.fetch, h.started, Bool.not_true, Bool.false_eq_true, if_false, hnext,
    h.dropStale, bind, Except.bind, hunroll, htoken]

/-- The colon makes a key of the word before it. -/
theorem Awaits.value {margin : Nat} {outer : List Nat}
    (h : Awaits s kinds [] x (margin :: outer) rest m) :
    ∃ s', s.value = .ok s' ∧ Stands s' (kinds ++ keyKinds m.column margin x)
      (keyMargins m.column (margin :: outer)) false ⟨rest, m.advance (x.chars.length + 1)⟩ := by
  obtain ⟨required, hkey⟩ := h.key
  have hm : s.margin = margin ∧ s.outerMargins = outer := List.cons.inj h.margins
  have hqueue : s.queue = [⟨.scalar x.chars true, m⟩] := h.queue
  have hkinds := h.kinds
  rw [List.append_nil] at hkinds
  have hcursor : s.cursor.skip 1 = ⟨rest, m.advance (x.chars.length + 1)⟩ := by
    rw [h.cursor]
    simp [Cursor.skip, Mark.advance, Nat.add_assoc]
  unfold State.value
  rw [hkey]
  refine ⟨_, rfl, ?_⟩
  rw [keyKinds, keyMargins]
  by_cases hcol : margin ≤ m.column
  all_goals
    refine ⟨?_, ?_, ?_, ?_, ?_, ?_, ?_, ?_⟩
    all_goals
      simp [State.insert, State.openBlock, State.allowKey, State.take, State.enqueue, State.inFlow,
        hqueue, h.outerKeys, h.started, h.ended, hm, hcol, hcursor, ← hkinds]

/-! ## Blanks -/

theorem length_skipBlanks_le (comment allowed : Bool) (cs : List Char) (m : Mark) :
    (State.skipBlanks false comment allowed cs m).2.rest.length ≤ cs.length := by
  induction cs generalizing comment allowed m with
  | nil => exact Nat.le_refl _
  | cons c cs ih =>
    have hpass : ∀ comment allowed m,
        (State.skipBlanks false comment allowed cs m).2.rest.length ≤ (c :: cs).length := by
      intro comment allowed m
      exact Nat.le_succ_of_le (ih comment allowed m)
    rw [State.skipBlanks]
    split_ifs
    exacts [hpass _ _ _, hpass _ _ _, hpass _ _ _, hpass _ _ _, Nat.le_refl _]

/-- The next key, or the end of the text, is no blank. -/
theorem skipBlanks_body {body : List Char} (hbody : body.head?.all isKeyChar = true)
    (allowed : Bool) (m : Mark) :
    State.skipBlanks false false allowed body m = (allowed, ⟨body, m⟩) := by
  cases body with
  | nil => rfl
  | cons c body =>
    have hc : isKeyChar c = true := hbody
    rw [State.skipBlanks]
    simp [isHalfBreak_of_keyChar hc, isBreak_of_keyChar hc, ne_of_keyChar hc ' ' rfl,
      ne_of_keyChar hc '\t' rfl, ne_of_keyChar hc '\ufeff' rfl, ne_of_keyChar hc '#' rfl]

theorem skipBlanks_spaces (allowed : Bool) (k : Nat) (rest : List Char) (m : Mark) :
    State.skipBlanks false false allowed (List.replicate k ' ' ++ rest) m =
      State.skipBlanks false false allowed rest (m.advance k) := by
  induction k generalizing m with
  | zero => rfl
  | succ k ih =>
    rw [List.replicate_succ, List.cons_append, ← FlowScalar.next_advance, ← ih]
    rfl

/-- A line end allows a key. -/
theorem skipBlanks_line {body : List Char} (hbody : body.head?.all isKeyChar = true)
    (allowed : Bool) (k : Nat) (m : Mark) :
    State.skipBlanks false false allowed ('\n' :: (List.replicate k ' ' ++ body)) m =
      (true, ⟨body, (m.nextLine 1).advance k⟩) := by
  have hline : State.skipBlanks false false allowed ('\n' :: (List.replicate k ' ' ++ body)) m =
      State.skipBlanks false false true (List.replicate k ' ' ++ body) (m.nextLine 1) := by
    cases allowed <;> rfl
  rw [hline, skipBlanks_spaces, skipBlanks_body hbody]

/-- The reader stands before a key that is indented by `k`, or before the end of the text. -/
def Before (s : State) (kinds : List Kind) (margins : List Nat) (k : Nat) (body : List Char) :
    Prop :=
  ∃ allowed cur m, Stands s kinds margins allowed cur ∧ m.column = k ∧
    cur.rest.length ≤ k + body.length + 1 ∧
    State.skipBlanks false false allowed cur.rest cur.mark = (true, ⟨body, m⟩)

theorem Before.length_le {k : Nat} {body : List Char} (h : Before s kinds margins k body) :
    s.cursor.rest.length ≤ k + body.length + 1 := by
  obtain ⟨allowed, cur, m, hs, -, hlen, -⟩ := h
  rwa [hs.cursor]

/-- The reader stands at the end of the line before. -/
theorem Stands.before_line {k : Nat} {body : List Char} (hbody : body.head?.all isKeyChar = true)
    (h : Stands s kinds margins allowed ⟨'\n' :: (List.replicate k ' ' ++ body), m⟩) :
    Before s kinds margins k body := by
  refine ⟨allowed, _, (m.nextLine 1).advance k, h, Nat.zero_add k, ?_,
    skipBlanks_line hbody allowed k m⟩
  simp

/-- The reader stands behind the indentation already. -/
theorem Stands.before_body {body : List Char} (hbody : body.head?.all isKeyChar = true)
    (h : Stands s kinds margins true ⟨body, m⟩) : Before s kinds margins m.column body := by
  refine ⟨true, _, m, h, rfl, ?_, skipBlanks_body hbody true m⟩
  simp only
  omega

/-- What is left of the text gets shorter with every token. -/
theorem Stands.leads_of_step {allowed' : Bool} {cs : List Char} (hsource : source.fault = none)
    (h : Stands s kinds margins allowed cur)
    (hskip : State.skipBlanks false false allowed cur.rest cur.mark = (allowed', ⟨cs, m⟩))
    (hstep : Step s s') (hlen : s'.cursor.rest.length < cs.length) : Leads source size s s' := by
  have hle := length_skipBlanks_le false allowed cur.rest cur.mark
  rw [hskip] at hle
  refine Token.leads_of_step hsource hstep ?_
  rw [h.cursor]
  exact Nat.lt_of_lt_of_le hlen hle

/-- **A key.** Behind its colon, it has been read, and what ended before it has been closed. -/
theorem Before.key_leads (hsource : source.fault = none) {k n margin : Nat} {outer : List Nat}
    (h : Before s kinds margins k (x.chars ++ ':' :: rest))
    (hclose : closing (k + 1) margins = (n, margin :: outer)) (hmargin : margin ≤ k + 1)
    (hrest : endsWord rest.head? = true) :
    ∃ s' m', Leads source size s s' ∧ k < m'.column ∧
      Stands s' (kinds ++ List.replicate n .blockEnd ++ keyKinds k margin x)
        (keyMargins k (margin :: outer)) false ⟨rest, m'⟩ := by
  obtain ⟨allowed, cur, m, hs, rfl, -, hskip⟩ := h
  -- the word, then its colon
  obtain ⟨s₁, hstep₁, before, h₁⟩ : ∃ s', Step s s' ∧ ∃ before,
      Awaits s' (kinds ++ List.replicate n .blockEnd) before x (margin :: outer) rest m := by
    refine hs.step hskip ?_
    intro t ht
    rw [hclose] at ht
    obtain ⟨s', hs', hawaits⟩ := ht.key_token hrest
    exact ⟨s', hs', t.queue, hawaits⟩
  obtain ⟨r, hsettle, hr⟩ := h₁.settle
  obtain ⟨s₂, hvalue, h₂⟩ := hr.value
  have hstep₂ : Step s₁ s₂ := ⟨r, hsettle, hr.ended, (hr.fetch hmargin hrest).trans hvalue⟩
  have hpos := List.length_pos_iff.2 x.nonempty
  have hleads₁ : Leads source size s s₁ := by
    refine hs.leads_of_step hsource hskip hstep₁ ?_
    simp only [h₁.cursor, List.length_append]
    omega
  have hleads₂ : Leads source size s₁ s₂ := by
    refine Token.leads_of_step hsource hstep₂ ?_
    rw [h₁.cursor, h₂.cursor]
    exact Nat.lt_succ_self _
  refine ⟨s₂, _, hleads₁.trans hleads₂, ?_, h₂⟩
  simp only [Mark.advance]
  omega

end EdgeCsv.Yaml.Token
