import EdgeCsv.Proofs.Yaml.Outline
import EdgeCsv.Proofs.Yaml.Tokens
import EdgeCsv.Yaml.Event.Stream

/-!
# The events of an outline

The machine that turns tokens into events is followed expectation by expectation. What it tells from
one state to another is said for all the work that may be left (`Tells`), and a state is described
by what the tokens that are left say and by what is expected (`Expects`).

* `entry_tells`, `section_tells`: an entry is told as two scalars, a section as a key and a mapping.
* `stream_outline`: the events of an outline are one document with the mapping of its sections.
-/

namespace EdgeCsv.Yaml.Event

variable {s s' s'' : State} {events events' : List Event} {kinds : List Token.Kind}
  {stack : List Expectation} {start : Mark}

/-! ## What is told between two states -/

/-- The machine tells these events from one state to another, however much work is left. -/
def Tells (s : State) (events : List Event) (s' : State) : Prop :=
  ∀ fuel, run (events.length + fuel) s = (events ++ (run fuel s').1, (run fuel s').2)

theorem Tells.trans (h : Tells s events s') (h' : Tells s' events' s'') :
    Tells s (events ++ events') s'' := by
  intro fuel
  rw [List.length_append, Nat.add_assoc, h, h', List.append_assoc]

theorem tells_of_step {event : Event} (h : s.step? = some (.ok (event, s'))) :
    Tells s [event] s' := by
  intro fuel
  rw [List.length_singleton, Nat.add_comm, run, h]
  rfl

/-- The machine tells events of these kinds from `s` to a state of which `P` holds. -/
def TellsTo (s : State) (told : List Kind) (P : State → Prop) : Prop :=
  ∃ events s', Tells s events s' ∧ events.map Event.kind = told ∧ P s'

theorem TellsTo.trans {told told' : List Kind} {P Q : State → Prop} (h : TellsTo s told P)
    (h' : ∀ s', P s' → TellsTo s' told' Q) : TellsTo s (told ++ told') Q := by
  obtain ⟨events, s₁, htells, rfl, hP⟩ := h
  obtain ⟨events', s₂, htells', rfl, hQ⟩ := h' s₁ hP
  exact ⟨events ++ events', s₂, htells.trans htells', List.map_append, hQ⟩

/-! ## Nodes -/

/-- The tokens that are left say this, and this is expected. -/
structure Expects (s : State) (kinds : List Token.Kind) (stack : List Expectation) : Prop where
  kinds : s.tokens.map Token.kind = kinds
  stack : s.stack = stack

variable {t : Token} {ts : List Token}

theorem peek_eq (hs : s.tokens = t :: ts) : s.peek = .ok t := by
  rw [State.peek, hs]

theorem skip_tokens (hs : s.tokens = t :: ts) : s.skip.tokens = ts := by
  rw [State.skip, hs]
  rfl

/-- A node without properties starts with its content. -/
theorem node_eq (hs : s.tokens = t :: ts)
    (ht : t.kind = .blockMappingStart ∨ ∃ text plain, t.kind = .scalar text plain)
    (block indentless : Bool) :
    s.node block indentless = s.nodeContent block indentless t.mark {} := by
  have hpeek := peek_eq hs
  have hanchor : s.anchor = .ok (none, s) := by
    unfold State.anchor
    rw [hpeek]
    rcases ht with ht | ⟨text, plain, ht⟩ <;> simp only [bind, Except.bind, ht]
  have htag : s.tag = .ok (none, s) := by
    unfold State.tag
    rw [hpeek]
    rcases ht with ht | ⟨text, plain, ht⟩ <;> simp only [bind, Except.bind, ht]
  have hproperties : s.properties = .ok ({}, s) := by
    unfold State.properties
    simp only [hpeek, hanchor, htag, bind, Except.bind]
    rfl
  unfold State.node
  rw [hpeek, hproperties]
  rcases ht with ht | ⟨text, plain, ht⟩ <;> simp only [bind, Except.bind, ht]

theorem node_scalar {text : List Char} {plain : Bool} (hs : s.tokens = t :: ts)
    (ht : t.kind = .scalar text plain) (block indentless : Bool) :
    s.node block indentless = .ok (⟨.scalar {} text plain, t.mark⟩, s.skip) := by
  rw [node_eq hs (.inr ⟨text, plain, ht⟩)]
  unfold State.nodeContent
  rw [peek_eq hs]
  simp only [bind, Except.bind, ht]
  rfl

theorem node_mapping (hs : s.tokens = t :: ts) (ht : t.kind = .blockMappingStart)
    (indentless : Bool) :
    s.node true indentless =
      .ok (⟨.mappingStart {}, t.mark⟩, s.push (.opening (.blockKey t.mark))) := by
  rw [node_eq hs (.inl ht)]
  unfold State.nodeContent
  rw [peek_eq hs]
  simp [bind, Except.bind, ht]

/-! ## Keys and values -/

theorem nodeUnless_eq {stops : List Token.Kind} {m : Token → Mark}
    {read : State → Except Fault (Event × State)} (hs : s.tokens = t :: ts) (ht : t.kind ∉ stops) :
    s.nodeUnless stops m read = read s := by
  unfold State.nodeUnless
  rw [peek_eq hs]
  simp only [bind, Except.bind, if_neg ht]

/-- One expectation is met by one event. -/
theorem tellsTo_of_meet {e : Expectation} {told : Kind} {P : State → Prop}
    (h : Expects s kinds (e :: stack))
    (hmeet : ∀ u, Expects u kinds stack →
      ∃ event s', u.meet e = .ok (event, s') ∧ event.kind = told ∧ P s') : TellsTo s [told] P := by
  obtain ⟨event, s', heq, rfl, hP⟩ := hmeet { s with stack } ⟨h.kinds, rfl⟩
  exact ⟨[event], s', tells_of_step (by rw [State.step?, h.stack, ← heq]), rfl, hP⟩

/-- A key is told. -/
theorem key_tells {label : List Char}
    (h : Expects s (.key :: .scalar label true :: kinds) (.blockKey start :: stack)) :
    TellsTo s [.scalar {} label true] (Expects · kinds (.blockValue start :: stack)) := by
  refine tellsTo_of_meet h fun u hu => ?_
  obtain ⟨t₁, ts₁, hs₁, ht₁, hkinds⟩ := List.map_eq_cons_iff.1 hu.kinds
  obtain ⟨t₂, ts₂, rfl, ht₂, rfl⟩ := List.map_eq_cons_iff.1 hkinds
  have hskip : (u.skip.push (.blockValue start)).tokens = t₂ :: ts₂ := by
    simp [State.skip, State.push, hs₁]
  refine ⟨⟨.scalar {} label true, t₂.mark⟩, (u.skip.push (.blockValue start)).skip, ?_, rfl, ?_, ?_⟩
  · rw [State.meet, State.blockKey, peek_eq hs₁]
    simp only [bind, Except.bind, ht₁]
    rw [nodeUnless_eq hskip (by simp [ht₂]), node_scalar hskip ht₂]
  · rw [skip_tokens hskip]
  · simp [State.skip, State.push, hu.stack]

/-- What stands behind a key is told, and the mapping goes on. -/
theorem value_tells {kind : Token.Kind} {told : Kind} {P : State → Prop}
    (h : Expects s (.value :: kind :: kinds) (.blockValue start :: stack))
    (hkind : kind ∉ [.key, .value, .blockEnd])
    (hnode : ∀ u, Expects u (kind :: kinds) (.blockKey start :: stack) →
      ∃ event s', u.node true true = .ok (event, s') ∧ event.kind = told ∧ P s') :
    TellsTo s [told] P := by
  refine tellsTo_of_meet h fun u hu => ?_
  obtain ⟨t₁, ts₁, hs₁, ht₁, hkinds⟩ := List.map_eq_cons_iff.1 hu.kinds
  obtain ⟨t₂, ts₂, rfl, rfl, hrest⟩ := List.map_eq_cons_iff.1 hkinds
  have hskip : (u.push (.blockKey start)).skip.tokens = t₂ :: ts₂ := by
    simp [State.skip, State.push, hs₁]
  obtain ⟨event, s', heq, htold, hP⟩ := hnode (u.push (.blockKey start)).skip
    ⟨by rw [hskip, hkinds], by simp [State.skip, State.push, hu.stack]⟩
  refine ⟨event, s', ?_, htold, hP⟩
  rw [State.meet, State.blockValue, peek_eq hs₁]
  simp only [bind, Except.bind, ht₁]
  rw [nodeUnless_eq hskip hkind, heq]

/-- A text behind its key is told. -/
theorem text_tells {text : List Char} {plain : Bool}
    (h : Expects s (.value :: .scalar text plain :: kinds) (.blockValue start :: stack)) :
    TellsTo s [.scalar {} text plain] (Expects · kinds (.blockKey start :: stack)) := by
  refine value_tells h (by simp) fun u hu => ?_
  obtain ⟨t, ts, hs, ht, rfl⟩ := List.map_eq_cons_iff.1 hu.kinds
  exact ⟨_, _, node_scalar hs ht true true, rfl, by rw [skip_tokens hs], hu.stack⟩

/-- The start of a mapping behind its key is told. -/
theorem mapping_tells
    (h : Expects s (.value :: .blockMappingStart :: kinds) (.blockValue start :: stack)) :
    TellsTo s [.mappingStart {}] fun s' => ∃ m, Expects s' (.blockMappingStart :: kinds)
      (.opening (.blockKey m) :: .blockKey start :: stack) := by
  refine value_tells h (by simp) fun u hu => ?_
  obtain ⟨t, ts, hs, ht, -⟩ := List.map_eq_cons_iff.1 hu.kinds
  refine ⟨_, _, node_mapping hs ht true, rfl, t.mark, hu.kinds, ?_⟩
  rw [State.push, hu.stack]

/-- The end of a mapping is told. -/
theorem end_tells (h : Expects s (.blockEnd :: kinds) (.blockKey start :: stack)) :
    TellsTo s [.mappingEnd] (Expects · kinds stack) := by
  refine tellsTo_of_meet h fun u hu => ?_
  obtain ⟨t, ts, hs, ht, rfl⟩ := List.map_eq_cons_iff.1 hu.kinds
  refine ⟨⟨.mappingEnd, t.mark⟩, u.skip, ?_, rfl, by rw [skip_tokens hs], hu.stack⟩
  rw [State.meet, State.blockKey, peek_eq hs]
  simp only [bind, Except.bind, ht]

/-- The sign for the start of a collection is passed over. -/
theorem opening_tells {kind : Token.Kind} {inside : Expectation} {told : List Kind}
    {P : State → Prop} (h : Expects s (kind :: kinds) (.opening inside :: stack))
    (hinside : ∀ u, Expects u kinds (inside :: stack) → TellsTo u told P) : TellsTo s told P := by
  obtain ⟨t, ts, hs, -, rfl⟩ := List.map_eq_cons_iff.1 h.kinds
  obtain ⟨events, s', htells, htold, hP⟩ :=
    hinside { s with tokens := ts, stack := inside :: stack } ⟨rfl, rfl⟩
  refine ⟨events, s', fun fuel => ?_, htold, hP⟩
  have hstep : s.step? = { s with tokens := ts, stack := inside :: stack }.step? := by
    have hpeek : { s with stack }.peek = .ok t := by rw [State.peek, hs]
    have hskip : { s with stack }.skip = { s with tokens := ts, stack } := by
      rw [State.skip, hs]
      rfl
    rw [State.step?, h.stack]
    simp only [State.meet, hpeek, hskip, bind, Except.bind]
    rfl
  -- nothing is told here, so both states run alike
  rw [← htells fuel]
  cases events.length + fuel with
  | zero => rfl
  | succ n => rw [run, run, hstep]

/-! ## Entries, sections and documents -/

/-- The events of an entry. -/
def entryEvents (e : Entry) : List Kind :=
  [.scalar {} e.label.chars true, .scalar {} e.text (e.style = .plain)]

/-- The events of a section. -/
def sectionEvents (x : Section) : List Kind :=
  [.scalar {} x.label.chars true, .mappingStart {}] ++ x.entries.flatMap entryEvents ++
    [.mappingEnd]

theorem tellsTo_nil {P : State → Prop} (h : P s) : TellsTo s [] P :=
  ⟨[], s, fun fuel => by simp, rfl, h⟩

theorem entry_tells {e : Entry}
    (h : Expects s (Token.entryKinds e ++ kinds) (.blockKey start :: stack)) :
    TellsTo s (entryEvents e) (Expects · kinds (.blockKey start :: stack)) :=
  (key_tells h).trans fun _ h' => text_tells h'

/-- What holds of each of several parts holds of all of them in order. -/
theorem flatMap_tells {α : Type} {tokens : α → List Token.Kind} {told : α → List Kind}
    (hone : ∀ x s kinds, Expects s (tokens x ++ kinds) (.blockKey start :: stack) →
      TellsTo s (told x) (Expects · kinds (.blockKey start :: stack)))
    (xs : List α) (h : Expects s (xs.flatMap tokens ++ kinds) (.blockKey start :: stack)) :
    TellsTo s (xs.flatMap told) (Expects · kinds (.blockKey start :: stack)) := by
  induction xs generalizing s with
  | nil => exact tellsTo_nil h
  | cons x xs ih =>
    rw [List.flatMap_cons, List.append_assoc] at h
    rw [List.flatMap_cons]
    exact (hone x s _ h).trans fun _ h' => ih h'

theorem section_tells {x : Section}
    (h : Expects s (Token.sectionKinds x ++ kinds) (.blockKey start :: stack)) :
    TellsTo s (sectionEvents x) (Expects · kinds (.blockKey start :: stack)) := by
  rw [Token.sectionKinds, List.append_assoc, List.append_assoc] at h
  rw [sectionEvents, List.append_assoc]
  refine (key_tells h).trans ?_
  intro s₁ h₁
  refine (mapping_tells h₁).trans ?_
  rintro s₂ ⟨m, h₂⟩
  refine opening_tells h₂ ?_
  intro s₃ h₃
  exact (flatMap_tells (fun _ _ _ => entry_tells) x.entries h₃).trans fun s₄ h₄ => end_tells h₄

/-- The events of a document. -/
def documentEvents (xs : List Section) : List Kind :=
  [.streamStart, .documentStart, .mappingStart {}] ++ xs.flatMap sectionEvents ++
    [.mappingEnd, .documentEnd, .streamEnd]

theorem streamStart_tells (h : Expects s (.streamStart :: kinds) [.stream]) :
    TellsTo s [.streamStart] (Expects · kinds [.document true]) := by
  refine tellsTo_of_meet h fun u hu => ?_
  obtain ⟨t, ts, hs, ht, rfl⟩ := List.map_eq_cons_iff.1 hu.kinds
  refine ⟨⟨.streamStart, t.mark⟩, u.skip.push (.document true), ?_, rfl, ?_, ?_⟩
  · simp only [State.meet, peek_eq hs, bind, Except.bind]
  · exact congrArg (List.map Token.kind) (skip_tokens hs)
  · rw [State.push, State.skip, hu.stack]

/-- A document that starts with a mapping needs no sign for its start. -/
theorem documentStart_tells (h : Expects s (.blockMappingStart :: kinds) [.document true]) :
    TellsTo s [.documentStart]
      (Expects · (.blockMappingStart :: kinds) [.bareContent, .documentEnd]) := by
  refine tellsTo_of_meet h fun u hu => ?_
  obtain ⟨t, ts, hs, ht, rfl⟩ := List.map_eq_cons_iff.1 hu.kinds
  have hdirectives :
      u.directives 1 false = .ok { u with handles := u.handles ++ defaultHandles } := by
    rw [State.directives, peek_eq hs]
    simp only [bind, Except.bind, ht]
  refine ⟨⟨.documentStart, t.mark⟩,
    ({ u with handles := u.handles ++ defaultHandles }.push .documentEnd).push .bareContent,
    ?_, rfl, hu.kinds, ?_⟩
  · rw [State.meet, State.document]
    simp only [if_true, peek_eq hs, bind, Except.bind, ht, hdirectives]
  · simp [State.push, hu.stack]

theorem bareContent_tells (h : Expects s (.blockMappingStart :: kinds) (.bareContent :: stack)) :
    TellsTo s [.mappingStart {}] fun s' => ∃ m,
      Expects s' (.blockMappingStart :: kinds) (.opening (.blockKey m) :: stack) := by
  refine tellsTo_of_meet h fun u hu => ?_
  obtain ⟨t, ts, hs, ht, -⟩ := List.map_eq_cons_iff.1 hu.kinds
  refine ⟨_, _, node_mapping hs ht false, rfl, t.mark, hu.kinds, ?_⟩
  rw [State.push, hu.stack]

theorem documentEnd_tells (h : Expects s [.streamEnd] [.documentEnd]) :
    TellsTo s [.documentEnd] (Expects · [.streamEnd] [.document false]) := by
  refine tellsTo_of_meet h fun u hu => ?_
  obtain ⟨t, ts, hs, ht, -⟩ := List.map_eq_cons_iff.1 hu.kinds
  refine ⟨⟨.documentEnd, t.mark⟩, { u with handles := [] }.push (.document false), ?_, rfl,
    hu.kinds, ?_⟩
  · rw [State.meet, State.documentEnd, peek_eq hs]
    simp [bind, Except.bind, ht]
  · rw [State.push, hu.stack]

theorem streamEnd_tells (h : Expects s [.streamEnd] [.document false]) :
    TellsTo s [.streamEnd] (Expects · [] []) := by
  refine tellsTo_of_meet h fun u hu => ?_
  obtain ⟨t, ts, hs, ht, hts⟩ := List.map_eq_cons_iff.1 hu.kinds
  have hsame : u.skipDocumentEnds = u := by
    have hdrop : u.tokens.dropWhile (·.kind = .documentEnd) = u.tokens := by
      rw [hs, List.dropWhile_cons_of_neg (by simp [ht])]
    rw [State.skipDocumentEnds, hdrop]
  refine ⟨⟨.streamEnd, t.mark⟩, u.skip, ?_, rfl, ?_, hu.stack⟩
  · rw [State.meet, State.document]
    simp only [Bool.false_eq_true, if_false, hsame, peek_eq hs, bind, Except.bind, ht]
  · rw [skip_tokens hs, hts]

theorem length_flatMap_le {α : Type} (xs : List α) {told : α → List Kind}
    {tokens : α → List Token.Kind} (h : ∀ x, (told x).length ≤ (tokens x).length) :
    (xs.flatMap told).length ≤ (xs.flatMap tokens).length := by
  induction xs with
  | nil => exact Nat.le_refl _
  | cons x xs ih =>
    have hx := h x
    simp only [List.flatMap_cons, List.length_append]
    omega

/-- The events of a document are not more than its tokens allow for. -/
theorem length_documentEvents_le (xs : List Section) :
    (documentEvents xs).length ≤ 4 * (Token.documentKinds xs).length + 4 := by
  have hsections : (xs.flatMap sectionEvents).length ≤ (xs.flatMap Token.sectionKinds).length := by
    refine length_flatMap_le xs fun x => ?_
    have hentries : (x.entries.flatMap entryEvents).length ≤
        (x.entries.flatMap Token.entryKinds).length :=
      length_flatMap_le x.entries fun e => by simp [entryEvents, Token.entryKinds]
    simp only [sectionEvents, Token.sectionKinds, List.length_append, List.length_cons,
      List.length_nil]
    omega
  simp only [documentEvents, Token.documentKinds, List.length_append, List.length_cons,
    List.length_nil]
  omega

/-- **The events of an outline** are one document with the mapping of its sections. -/
theorem stream_outline {xs : List Section} {tokens : List Token}
    (h : tokens.map Token.kind = Token.documentKinds xs) :
    ∃ events, stream tokens none = (events, none) ∧ events.map Event.kind = documentEvents xs := by
  have hstart : Expects { tokens, fault := none } (Token.documentKinds xs) [.stream] := ⟨h, rfl⟩
  rw [Token.documentKinds, List.append_assoc] at hstart
  have htells : TellsTo { tokens, fault := none } (documentEvents xs) (Expects · [] []) := by
    rw [documentEvents, List.append_assoc]
    refine (streamStart_tells hstart).trans ?_
    intro s₁ h₁
    refine (documentStart_tells h₁).trans ?_
    intro s₂ h₂
    refine (bareContent_tells h₂).trans ?_
    rintro s₃ ⟨m, h₃⟩
    refine opening_tells h₃ ?_
    intro s₄ h₄
    refine (flatMap_tells (fun _ _ _ => section_tells) xs h₄).trans ?_
    intro s₅ h₅
    refine (end_tells h₅).trans ?_
    intro s₆ h₆
    exact (documentEnd_tells h₆).trans fun s₇ h₇ => streamEnd_tells h₇
  obtain ⟨events, s', hrun, hevents, hs'⟩ := htells
  have hfuel : events.length ≤ 4 * tokens.length + 4 := by
    have hle := length_documentEvents_le xs
    rwa [← hevents, ← h, List.length_map, List.length_map] at hle
  have hend : ∀ fuel, run fuel s' = ([], none) := by
    intro fuel
    cases fuel with
    | zero => rfl
    | succ n => rw [run, State.step?, hs'.stack]
  refine ⟨events, ?_, hevents⟩
  rw [stream, ← Nat.add_sub_cancel' hfuel, hrun, hend, List.append_nil]

end EdgeCsv.Yaml.Event
