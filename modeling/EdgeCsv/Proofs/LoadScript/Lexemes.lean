import Mathlib.Data.List.Basic
import EdgeCsv.LoadScript.Script

/-!
# What a database makes of a load script

A script is taken apart into code, comments and string literals (`Cypher.lex`). Two slashes open a
comment, which goes to the end of the line; a single quote opens a literal, which goes to the next
quote without a backslash before it; all else is code. A literal is read by `Cypher.unescape`.

* `lex_comment`: a text flattened for a comment stays in the comment.
* `lex_literal`: a text quoted for a literal stays in the literal, and `unescape_quoteChar`: it is
  read back as it was.
* `lex_render`: so every load script has the same pieces, and what is put into it only ever shows up
  where it belongs.
-/

namespace EdgeCsv.Cypher

/-- A piece of a script. -/
inductive Lexeme
  | code (text : List Char)
  /-- The text behind the slashes. -/
  | comment (text : List Char)
  /-- The text between the quotes, with its backslashes. -/
  | literal (text : List Char)
  deriving DecidableEq, Repr

/-- What kind of piece is being read. -/
inductive Lexeme.Kind
  | code
  | comment
  | literal
  deriving DecidableEq, Repr

/-- The code that has been read, last character first, if there is any. -/
def Lexeme.codeOf (read : List Char) : List Lexeme :=
  if read = [] then [] else [.code read.reverse]

/-- Takes a script apart; `read` is what has been read of the current piece, last character first. A
script cannot end inside a literal. -/
def lex : Lexeme.Kind → List Char → List Char → Option (List Lexeme)
  | .code, read, [] => some (Lexeme.codeOf read)
  | .code, read, '/' :: '/' :: rest => (lex .comment [] rest).map (Lexeme.codeOf read ++ ·)
  | .code, read, '\'' :: rest => (lex .literal [] rest).map (Lexeme.codeOf read ++ ·)
  | .code, read, c :: rest => lex .code (c :: read) rest
  | .comment, read, [] => some [.comment read.reverse]
  | .comment, read, c :: rest =>
    if c = '\n' ∨ c = '\r' then (lex .code [c] rest).map (.comment read.reverse :: ·)
    else lex .comment (c :: read) rest
  | .literal, _, [] => none
  | .literal, _, ['\\'] => none
  | .literal, read, '\\' :: c :: rest => lex .literal (c :: '\\' :: read) rest
  | .literal, read, '\'' :: rest => (lex .code [] rest).map (.literal read.reverse :: ·)
  | .literal, read, c :: rest => lex .literal (c :: read) rest

/-- What a literal spells, if a backslash stands only before a backslash or a quote. -/
def unescape : List Char → Option (List Char)
  | [] => some []
  | '\\' :: '\\' :: rest => (unescape rest).map ('\\' :: ·)
  | '\\' :: '\'' :: rest => (unescape rest).map ('\'' :: ·)
  | c :: rest => if c = '\\' then none else (unescape rest).map (c :: ·)

variable {read rest : List Char}

/-- Characters other than slashes and quotes are code. -/
theorem lex_code (text : List Char) (h : '/' ∉ text ∧ '\'' ∉ text) :
    lex .code read (text ++ rest) = lex .code (text.reverse ++ read) rest := by
  induction text generalizing read with
  | nil => rfl
  | cons c text ih =>
    simp only [List.mem_cons, not_or] at h
    obtain ⟨⟨h1, h1'⟩, h2, h2'⟩ := h
    have hc : lex .code read (c :: (text ++ rest)) = lex .code (c :: read) (text ++ rest) := by
      rw [lex]
      · rintro _ rfl; exact absurd rfl h1
      · rintro rfl; exact absurd rfl h2
    rw [List.cons_append, hc, ih ⟨h1', h2'⟩]
    simp

/-- **A text without line ends stays in its comment.** -/
theorem lex_comment (text : List Char) (h : '\n' ∉ text ∧ '\r' ∉ text) :
    lex .comment read (text ++ '\n' :: rest) =
      (lex .code ['\n'] rest).map (.comment (read.reverse ++ text) :: ·) := by
  induction text generalizing read with
  | nil => simp [lex]
  | cons c text ih =>
    simp only [List.mem_cons, not_or] at h
    obtain ⟨⟨h1, h1'⟩, h2, h2'⟩ := h
    have hc : ¬(c = '\n' ∨ c = '\r') := by
      rintro (rfl | rfl)
      · exact h1 rfl
      · exact h2 rfl
    rw [List.cons_append, lex, if_neg hc, ih ⟨h1', h2'⟩]
    simp

/-- **Lines of comments** and nothing else behind some code. -/
theorem lex_comments (ls : List (List Char)) (h : ∀ line ∈ ls, '\n' ∉ line ∧ '\r' ∉ line) :
    lex .code read (ls.flatMap fun line => '/' :: '/' :: (line ++ ['\n'])) =
      some (Lexeme.codeOf read ++ ls.flatMap fun line => [.comment line, .code ['\n']]) := by
  induction ls generalizing read with
  | nil => simp [lex]
  | cons line ls ih =>
    have hrest := @ih ['\n'] fun line hline => h line (List.mem_cons_of_mem _ hline)
    rw [List.flatMap_cons, List.cons_append, List.cons_append, List.append_assoc,
      List.singleton_append, lex, lex_comment line (h line List.mem_cons_self), hrest]
    rfl

/-- The three ways a character stands in a literal. -/
theorem quoteChar_cases (c : Char) :
    (c = '\\' ∧ quoteChar c = ['\\', '\\']) ∨ (c = '\'' ∧ quoteChar c = ['\\', '\'']) ∨
      (c ≠ '\\' ∧ c ≠ '\'' ∧ quoteChar c = [c]) := by
  unfold quoteChar
  by_cases h1 : c = '\\'
  · exact .inl ⟨h1, by rw [if_pos h1]⟩
  · by_cases h2 : c = '\''
    · exact .inr (.inl ⟨h2, by rw [if_neg h1, if_pos h2]⟩)
    · exact .inr (.inr ⟨h1, h2, by rw [if_neg h1, if_neg h2]⟩)

/-- **A quoted text stays in its literal.** -/
theorem lex_literal (text : List Char) :
    lex .literal read (text.flatMap quoteChar ++ '\'' :: rest) =
      (lex .code [] rest).map (.literal (read.reverse ++ text.flatMap quoteChar) :: ·) := by
  induction text generalizing read with
  | nil => simp [lex]
  | cons c text ih =>
    rw [List.flatMap_cons, List.append_assoc]
    rcases quoteChar_cases c with ⟨-, hq⟩ | ⟨-, hq⟩ | ⟨h1, h2, hq⟩
    · rw [hq, List.cons_append, List.singleton_append, lex, ih]; simp
    · rw [hq, List.cons_append, List.singleton_append, lex, ih]; simp
    · have hc : lex .literal read (c :: (text.flatMap quoteChar ++ '\'' :: rest)) =
          lex .literal (c :: read) (text.flatMap quoteChar ++ '\'' :: rest) := by
        rw [lex]
        · rintro rfl; exact absurd rfl h1
        · rintro _ _ rfl; exact absurd rfl h1
        · rintro rfl; exact absurd rfl h2
      rw [hq, List.singleton_append, hc, ih]; simp

/-- **A quoted text is read back as it was.** -/
theorem unescape_quoteChar (text : List Char) : unescape (text.flatMap quoteChar) = some text := by
  induction text with
  | nil => rfl
  | cons c text ih =>
    rw [List.flatMap_cons]
    rcases quoteChar_cases c with ⟨rfl, hq⟩ | ⟨rfl, hq⟩ | ⟨h1, h2, hq⟩
    · rw [hq, List.cons_append, List.singleton_append, unescape, ih]; rfl
    · rw [hq, List.cons_append, List.singleton_append, unescape, ih]; rfl
    · rw [hq, List.singleton_append, unescape, if_neg h1, ih]
      · rfl
      · rintro _ rfl; exact absurd rfl h1
      · rintro _ rfl; exact absurd rfl h1

end EdgeCsv.Cypher

namespace EdgeCsv.LoadScript

open Cypher (Lexeme)

/-- A text as it shows up in a comment: each line end is a space. -/
def onOneLine (s : String) : List Char :=
  s.toList.map fun c => if c = '\r' ∨ c = '\n' then ' ' else c

theorem toList_comment (s : String) : (Cypher.comment s).toList = onOneLine s := by
  rw [Cypher.comment, String.toList_ofList]
  rfl

theorem notMem_onOneLine (s : String) : '\n' ∉ onOneLine s ∧ '\r' ∉ onOneLine s := by
  have hne : ∀ c ∈ onOneLine s, c ≠ '\n' ∧ c ≠ '\r' := by
    intro c hc
    obtain ⟨a, -, rfl⟩ := List.mem_map.1 hc
    by_cases ha : a = '\r' ∨ a = '\n'
    · rw [if_pos ha]; decide
    · rw [if_neg ha]; tauto
  exact ⟨fun h => (hne _ h).1 rfl, fun h => (hne _ h).2 rfl⟩

/-- The pieces of every load script, given what the first two comments and the literal hold. -/
def lexemes (name csvPath csvUrl : List Char) : List Lexeme :=
  [.comment (' ' :: name), .code ['\n'], .comment (bulkLoad.toList ++ csvPath),
    .code ('\n' :: loadFrom.toList), .literal csvUrl, .code statements.toList] ++
  sampleQuery.flatMap fun line => [.comment line.toList, .code ['\n']]

theorem render_eq (name csvUrl : String) (csvPath : Path) :
    render name csvPath csvUrl = .ok (String.join
      ["// ", Cypher.comment name, "\n//" ++ bulkLoad, Cypher.comment csvPath.display,
        "\n" ++ loadFrom ++ "'", Cypher.quote csvUrl, closing]) := by
  rfl

/-- What a load script ends with: a quote, code, and lines of comments. -/
theorem toList_closing :
    closing.toList = '\'' :: (statements.toList ++
      (sampleQuery.map String.toList).flatMap fun line => '/' :: '/' :: (line ++ ['\n'])) := by
  have hslashes : ∀ line : String, ("//" ++ line ++ "\n").toList =
      '/' :: '/' :: (line.toList ++ ['\n']) := by
    intro line
    rw [String.toList_append, String.toList_append]
    rfl
  have hquote : "'".toList = ['\''] := rfl
  rw [closing, String.toList_append, String.toList_append, String.toList_join, List.flatMap_map,
    List.flatMap_map, hquote]
  simp only [hslashes, List.cons_append, List.nil_append]

set_option maxRecDepth 4000 in
theorem statements_isCode :
    ('/' ∉ statements.toList ∧ '\'' ∉ statements.toList) ∧ statements.toList ≠ [] := by
  -- the text as a list of characters, which is what a literal is made of
  have hchars : statements.toList = _ := String.toList_ofList
  rw [hchars]
  decide +kernel

theorem sampleQuery_onOneLine (line : List Char) (h : line ∈ sampleQuery.map String.toList) :
    '\n' ∉ line ∧ '\r' ∉ line := by
  have hchars : sampleQuery.map String.toList = [_, _, _] :=
    congrArg₂ List.cons String.toList_ofList (congrArg₂ List.cons String.toList_ofList
      (congrArg₂ List.cons String.toList_ofList rfl))
  rw [hchars] at h
  revert line
  decide +kernel

/-- The closing text is fixed, and so are its pieces. -/
theorem lex_closing : ∃ rest, closing.toList = '\'' :: rest ∧
    Cypher.lex .code [] rest = some ((lexemes [] [] []).drop 5) := by
  obtain ⟨hcode, hne⟩ := statements_isCode
  refine ⟨_, toList_closing, ?_⟩
  rw [Cypher.lex_code _ hcode, Cypher.lex_comments _ sampleQuery_onOneLine, List.append_nil,
    Lexeme.codeOf, if_neg (by simpa using hne), List.reverse_reverse, List.flatMap_map]
  rfl

/-- **Every load script has the same pieces.** Rendering never fails. Whatever the name, the path
and the URL are, the code of the script is the same, the name shows up in the first comment only and
the path in the second, on one line each, and the one literal spells the URL. -/
theorem lex_render (name csvUrl : String) (csvPath : Path) :
    ∃ script literal, render name csvPath csvUrl = .ok script ∧
      Cypher.lex .code [] script.toList =
        some (lexemes (onOneLine name) (onOneLine csvPath.display) literal) ∧
      Cypher.unescape literal = some csvUrl.toList := by
  obtain ⟨rest, hclosing, hrest⟩ := lex_closing
  have hslashes : "// ".toList = ['/', '/', ' '] := rfl
  have hbulk : ("\n//" ++ bulkLoad).toList = '\n' :: '/' :: '/' :: bulkLoad.toList := by
    rw [String.toList_append]
    rfl
  have hload : ("\n" ++ loadFrom ++ "'").toList = '\n' :: loadFrom.toList ++ ['\''] := by
    rw [String.toList_append, String.toList_append]
    rfl
  have hquote : (Cypher.quote csvUrl).toList = csvUrl.toList.flatMap Cypher.quoteChar :=
    String.toList_ofList
  refine ⟨_, csvUrl.toList.flatMap Cypher.quoteChar, render_eq name csvUrl csvPath, ?_,
    Cypher.unescape_quoteChar _⟩
  rw [String.toList_join]
  simp only [List.flatMap_cons, List.flatMap_nil, List.append_nil, toList_comment, hquote, hclosing,
    hslashes, hbulk, hload, List.cons_append, List.nil_append, List.append_assoc]
  -- the two comments that hold the name and the path
  have hbulkLine : '\n' ∉ bulkLoad.toList ∧ '\r' ∉ bulkLoad.toList := by decide
  have hfirst : '\n' ∉ ' ' :: onOneLine name ∧ '\r' ∉ ' ' :: onOneLine name := by
    simp [notMem_onOneLine name]
  have hsecond : '\n' ∉ bulkLoad.toList ++ onOneLine csvPath.display ∧
      '\r' ∉ bulkLoad.toList ++ onOneLine csvPath.display := by
    simp only [List.mem_append, not_or]
    exact ⟨⟨hbulkLine.1, (notMem_onOneLine _).1⟩, hbulkLine.2, (notMem_onOneLine _).2⟩
  rw [Cypher.lex, ← List.cons_append, Cypher.lex_comment _ hfirst, Cypher.lex, ← List.append_assoc,
    Cypher.lex_comment _ hsecond]
  -- the code up to the literal, and the literal
  rw [Cypher.lex_code _ (by decide), Cypher.lex, Cypher.lex_literal, hrest]
  rfl

end EdgeCsv.LoadScript
