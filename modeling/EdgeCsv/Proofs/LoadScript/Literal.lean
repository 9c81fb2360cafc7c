import EdgeCsv.Proofs.LoadScript.Lexemes

/-!
# Texts inside string literals

A literal is read from behind its opening quote (`Cypher.readLiteral`): a backslash and a backslash
are a backslash, a backslash and a quote are a quote, and the first quote without a backslash ends
the literal. `Cypher.IsSpelling` says what may stand in a literal, piece by piece.

* `toList_quote`: a text is quoted in two passes, and the second leaves alone what the first put in.
* `readLiteral_eq_some_iff`: what is read as a text is the quoted text and the quote behind it.
* `isSpelling_iff`: what may stand in a literal is what some text is quoted to.
* `quote_faithful`: so quoting loses nothing, and a text can be spelled in one way only.
-/

namespace EdgeCsv.Cypher

variable {c : Char} {text rest spelling : List Char}

/-! ## Quoting in two passes -/

/-- Puts a backslash before each `c`. -/
def escape (c : Char) (text : List Char) : List Char :=
  text.flatMap fun x => if x = c then ['\\', x] else [x]

/-- **Quoting is two passes over the text**: first every backslash gets a backslash, and then every
quote gets one. In this order no backslash gets more than one. -/
theorem toList_quote (s : String) : (quote s).toList = escape '\'' (escape '\\' s.toList) := by
  unfold quote escape
  rw [String.toList_ofList, List.flatMap_assoc]
  refine List.flatMap_congr fun c _ => ?_
  rcases quoteChar_cases c with ⟨rfl, hq⟩ | ⟨rfl, hq⟩ | ⟨hback, hquote, hq⟩
  · rw [hq]; rfl
  · rw [hq]; rfl
  · rw [hq, if_neg hback, List.flatMap_singleton, if_neg hquote]

theorem quote_append (s t : String) : quote (s ++ t) = quote s ++ quote t := by
  unfold quote
  rw [String.toList_append, List.flatMap_append, String.ofList_append]

theorem quoteChar_self (hback : c ≠ '\\') (hquote : c ≠ '\'') : quoteChar c = [c] := by
  unfold quoteChar
  rw [if_neg hback, if_neg hquote]

/-! ## Reading a literal -/

/-- Reads a literal from behind its opening quote: the text, and what comes behind the closing
quote. There is none if the literal does not end, or if a backslash stands before anything but a
backslash or a quote. -/
def readLiteral : List Char → Option (List Char × List Char)
  | [] => none
  | '\'' :: rest => some ([], rest)
  | '\\' :: '\\' :: rest => (readLiteral rest).map (Prod.map ('\\' :: ·) id)
  | '\\' :: '\'' :: rest => (readLiteral rest).map (Prod.map ('\'' :: ·) id)
  | c :: rest => if c = '\\' then none else (readLiteral rest).map (Prod.map (c :: ·) id)

/-- A quoted character is read as the character. -/
theorem readLiteral_quoteChar (c : Char) (rest : List Char) :
    readLiteral (quoteChar c ++ rest) = (readLiteral rest).map (Prod.map (c :: ·) id) := by
  rcases quoteChar_cases c with ⟨rfl, hq⟩ | ⟨rfl, hq⟩ | ⟨hback, hquote, hq⟩
  · rw [hq]; rfl
  · rw [hq]; rfl
  · rw [hq, List.singleton_append, readLiteral, if_neg hback]
    · rintro rfl; exact hquote rfl
    · rintro _ rfl; exact absurd rfl hback
    · rintro _ rfl; exact absurd rfl hback

/-- A quoted text is read as the text, up to the quote behind it. -/
theorem readLiteral_quoted (text rest : List Char) :
    readLiteral (text.flatMap quoteChar ++ '\'' :: rest) = some (text, rest) := by
  induction text with
  | nil => rfl
  | cons c text ih =>
    rw [List.flatMap_cons, List.append_assoc, readLiteral_quoteChar, ih]
    rfl

/-- A text that begins with a character just read goes on with what is read behind it. -/
theorem exists_of_map_cons
    (h : (readLiteral spelling).map (Prod.map (c :: ·) id) = some (text, rest)) :
    ∃ others, text = c :: others ∧ readLiteral spelling = some (others, rest) := by
  obtain ⟨⟨others, behind⟩, hread, heq⟩ := Option.map_eq_some_iff.1 h
  obtain ⟨rfl, rfl⟩ : c :: others = text ∧ behind = rest := Prod.mk.inj heq
  exact ⟨others, rfl, hread⟩

/-- What is read as a text is the quoted text. -/
theorem eq_of_readLiteral (h : readLiteral spelling = some (text, rest)) :
    spelling = text.flatMap quoteChar ++ '\'' :: rest := by
  fun_induction readLiteral spelling generalizing text with
  | case1 => cases h
  | case2 behind =>
    obtain ⟨rfl, rfl⟩ : [] = text ∧ behind = rest := Prod.mk.inj (Option.some.inj h)
    rfl
  | case3 spelling ih =>
    obtain ⟨others, rfl, hread⟩ := exists_of_map_cons h
    rw [ih hread]
    rfl
  | case4 spelling ih =>
    obtain ⟨others, rfl, hread⟩ := exists_of_map_cons h
    rw [ih hread]
    rfl
  | case5 => cases h
  | case6 c spelling hquote _ _ hback ih =>
    obtain ⟨others, rfl, hread⟩ := exists_of_map_cons h
    rw [ih hread, List.flatMap_cons, quoteChar_self hback hquote]
    rfl

/-- **What is read as a text** is the quoted text, and the quote and the rest behind it. -/
theorem readLiteral_eq_some_iff :
    readLiteral spelling = some (text, rest) ↔
      spelling = text.flatMap quoteChar ++ '\'' :: rest := by
  constructor
  · exact eq_of_readLiteral
  · rintro rfl
    exact readLiteral_quoted text rest

/-! ## What may stand in a literal -/

/-- Pairs of backslashes, pairs of a backslash and a quote, and characters that are neither. -/
inductive IsSpelling : List Char → Prop
  | nil : IsSpelling []
  | backslash {rest : List Char} (h : IsSpelling rest) : IsSpelling ('\\' :: '\\' :: rest)
  | quote {rest : List Char} (h : IsSpelling rest) : IsSpelling ('\\' :: '\'' :: rest)
  | char {c : Char} {rest : List Char} (hback : c ≠ '\\') (hquote : c ≠ '\'')
    (h : IsSpelling rest) : IsSpelling (c :: rest)

theorem isSpelling_quoted (text : List Char) : IsSpelling (text.flatMap quoteChar) := by
  induction text with
  | nil => exact .nil
  | cons c text ih =>
    rw [List.flatMap_cons]
    rcases quoteChar_cases c with ⟨-, hq⟩ | ⟨-, hq⟩ | ⟨hback, hquote, hq⟩
    · rw [hq]; exact .backslash ih
    · rw [hq]; exact .quote ih
    · rw [hq]; exact .char hback hquote ih

/-- **A spelling is what some text is quoted to.** -/
theorem isSpelling_iff :
    IsSpelling spelling ↔ ∃ text : List Char, text.flatMap quoteChar = spelling := by
  constructor
  · intro h
    induction h with
    | nil => exact ⟨[], rfl⟩
    | backslash _ ih =>
      obtain ⟨text, rfl⟩ := ih
      exact ⟨'\\' :: text, rfl⟩
    | quote _ ih =>
      obtain ⟨text, rfl⟩ := ih
      exact ⟨'\'' :: text, rfl⟩
    | @char c _ hback hquote _ ih =>
      obtain ⟨text, rfl⟩ := ih
      refine ⟨c :: text, ?_⟩
      rw [List.flatMap_cons, quoteChar_self hback hquote]
      rfl
  · rintro ⟨text, rfl⟩
    exact isSpelling_quoted text

/-! ## Whole texts -/

theorem toList_quote_append (s t : String) :
    (quote s ++ "'" ++ t).toList = s.toList.flatMap quoteChar ++ '\'' :: t.toList := by
  unfold quote
  rw [String.toList_append, String.toList_append, String.toList_ofList, List.append_assoc]
  rfl

/-- **Quoting is faithful.** It puts a backslash before every backslash, and then one before every
quote. A literal is read as the text `s` with `t` left behind it exactly if it is the quoted `s`, a
quote, and `t`. Texts can be quoted in pieces. What texts are quoted to are the spellings made of
pairs of backslashes, pairs of a backslash and a quote, and other characters; each of them is read
as a text, and quoting that text gives the spelling back. -/
theorem quote_faithful (s s' t u : String) :
    (quote s).toList = escape '\'' (escape '\\' s.toList) ∧
    (readLiteral u.toList = some (s.toList, t.toList) ↔ u = quote s ++ "'" ++ t) ∧
    quote (s ++ s') = quote s ++ quote s' ∧
    ((∃ text, quote text = u) ↔ IsSpelling u.toList) ∧
    (IsSpelling u.toList → ∃ text : String,
      readLiteral (u ++ "'" ++ t).toList = some (text.toList, t.toList) ∧ quote text = u) := by
  have himage : IsSpelling u.toList → ∃ text, quote text = u := by
    intro h
    obtain ⟨text, htext⟩ := isSpelling_iff.1 h
    refine ⟨String.ofList text, ?_⟩
    rw [quote, String.toList_ofList, htext, String.ofList_toList]
  refine ⟨toList_quote s, ?_, quote_append s s', ⟨?_, himage⟩, ?_⟩
  · rw [readLiteral_eq_some_iff, ← toList_quote_append, String.toList_inj]
  · rintro ⟨text, rfl⟩
    rw [quote, String.toList_ofList]
    exact isSpelling_quoted text.toList
  · intro h
    obtain ⟨text, rfl⟩ := himage h
    refine ⟨text, ?_, rfl⟩
    rw [toList_quote_append]
    exact readLiteral_quoted text.toList t.toList

/-- A text with backslashes before and behind a quote, and a spelling with five backslashes before
one: two pairs, and one that belongs to the quote. -/
theorem quote_faithful_backslashes :
    readLiteral "\\\\\\'\\\\x' AS row".toList = some ("\\'\\x".toList, " AS row".toList) ∧
      IsSpelling "\\\\\\\\\\'".toList ∧ ∃ text : String,
        readLiteral "\\\\\\\\\\'' AS row".toList = some (text.toList, " AS row".toList) ∧
          quote text = "\\\\\\\\\\'" := by
  have hspelling : IsSpelling "\\\\\\\\\\'".toList := .backslash (.backslash (.quote .nil))
  obtain ⟨-, hread, -⟩ := quote_faithful "\\'\\x" "" " AS row" "\\\\\\'\\\\x' AS row"
  obtain ⟨-, -, -, -, hback⟩ := quote_faithful "" "" " AS row" "\\\\\\\\\\'"
  exact ⟨hread.2 (by decide), hspelling, hback hspelling⟩

end EdgeCsv.Cypher
