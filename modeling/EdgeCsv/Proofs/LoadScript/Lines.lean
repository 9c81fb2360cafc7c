import EdgeCsv.Conversion.Rows
import EdgeCsv.Proofs.LoadScript.Lexemes
import EdgeCsv.Proofs.Text.Utf8

/-!
# The lines of a load script

The path of the CSV shows up on the second line of a load script and nowhere else.

* `Utf8.mem_of_mem_encode`: a byte below 128 in a text is a character of the text, so the text and
  its bytes have the same lines.
* `sameButSecondLine_render`: scripts for the same name and the same URL differ in nothing but the
  second line.
-/

namespace EdgeCsv

namespace Utf8

/-- A byte that is a character by itself comes from that character. -/
theorem mem_of_mem_encode {b : UInt8} {cs : List Char} (hb : b.toNat < 0x80)
    (h : b ∈ encode cs) : Char.ofNat b.toNat ∈ cs := by
  obtain ⟨c, hc, hmem⟩ := List.mem_flatMap.1 h
  -- the bytes of a longer character are all 128 or more
  have hlead : ∀ b₀ b₁, mayFollow b₀ b₁ = true → b ≠ b₀ ∧ b ≠ b₁ := by
    intro b₀ b₁ hfollow
    rw [mayFollow_iff] at hfollow
    constructor <;> rintro rfl <;> omega
  have hlater : ∀ b₁, isContinuation b₁ = true → b ≠ b₁ := by
    intro b₁ hcontinues
    rw [isContinuation_iff] at hcontinues
    rintro rfl
    omega
  rcases encodeChar_cases c with ⟨b₀, hbytes, -, rfl⟩ | ⟨b₀, b₁, hbytes, hfollow, -⟩ |
    ⟨b₀, b₁, b₂, hbytes, hfollow, hlast, -⟩ | ⟨b₀, b₁, b₂, b₃, hbytes, hfollow, hthird, hlast, -⟩
  · rw [hbytes] at hmem
    obtain rfl : b = b₀ := by simpa using hmem
    exact hc
  · simp [hbytes, hlead b₀ b₁ hfollow] at hmem
  · simp [hbytes, hlead b₀ b₁ hfollow, hlater b₂ hlast] at hmem
  · simp [hbytes, hlead b₀ b₁ hfollow, hlater b₂ hthird, hlater b₃ hlast] at hmem

theorem encode_append (cs ds : List Char) : encode (cs ++ ds) = encode cs ++ encode ds :=
  List.flatMap_append

end Utf8

namespace LoadScript

open Conversion

/-- Texts that differ at most in their second line. -/
def SameButSecondLine (text text' : Bytes) : Prop :=
  (text.splitOn lineFeed).eraseIdx 1 = (text'.splitOn lineFeed).eraseIdx 1

instance (text text' : Bytes) : Decidable (SameButSecondLine text text') :=
  inferInstanceAs (Decidable (_ = _))

theorem lineFeed_notMem_encode {cs : List Char} (h : '\n' ∉ cs) : lineFeed ∉ Utf8.encode cs :=
  fun hmem => h (Utf8.mem_of_mem_encode (by decide) hmem)

/-- The bytes of a load script: the line with the name, the line with the path, and the rest. -/
theorem bytes_render {name csvUrl text : String} {csvPath : Path}
    (h : render name csvPath csvUrl = .ok text) :
    Bytes.ofString text =
      Utf8.encode ("// ".toList ++ onOneLine name) ++ lineFeed ::
        (Utf8.encode (("//" ++ bulkLoad).toList ++ onOneLine csvPath.display) ++ lineFeed ::
          Utf8.encode ((loadFrom ++ "'").toList ++ (Cypher.quote csvUrl).toList ++
            closing.toList)) := by
  have hfeed : ∀ cs, lineFeed :: Utf8.encode cs = Utf8.encode ('\n' :: cs) := fun cs => rfl
  obtain rfl := Except.ok.inj ((render_eq name csvUrl csvPath).symm.trans h)
  unfold Bytes.ofString
  rw [hfeed, ← Utf8.encode_append, hfeed, ← Utf8.encode_append, String.toList_join]
  have hbulk : ("\n//" ++ bulkLoad).toList = '\n' :: ("//" ++ bulkLoad).toList := by
    rw [String.toList_append, String.toList_append]
    rfl
  have hload : ("\n" ++ loadFrom ++ "'").toList = '\n' :: (loadFrom ++ "'").toList := by
    rw [String.toList_append, String.toList_append, String.toList_append]
    rfl
  simp only [List.flatMap_cons, List.flatMap_nil, List.append_nil, toList_comment, hbulk, hload,
    List.cons_append, List.append_assoc]

/-- **Scripts for the same name and URL** differ in nothing but the second line. -/
theorem sameButSecondLine_render {name csvUrl text text' : String} {csvPath csvPath' : Path}
    (h : render name csvPath csvUrl = .ok text) (h' : render name csvPath' csvUrl = .ok text') :
    SameButSecondLine (Bytes.ofString text) (Bytes.ofString text') := by
  have hfirst : '\n' ∉ "// ".toList ++ onOneLine name := by
    simp [(notMem_onOneLine name).1]
  have hbulk : '\n' ∉ ("//" ++ bulkLoad).toList := by decide
  have hsecond : ∀ path : Path, '\n' ∉ ("//" ++ bulkLoad).toList ++ onOneLine path.display := by
    intro path hmem
    rcases List.mem_append.1 hmem with hmem | hmem
    · exact hbulk hmem
    · exact (notMem_onOneLine path.display).1 hmem
  unfold SameButSecondLine
  rw [bytes_render h, bytes_render h',
    List.splitOn_append_cons_self_of_not_mem (lineFeed_notMem_encode hfirst),
    List.splitOn_append_cons_self_of_not_mem (lineFeed_notMem_encode hfirst),
    List.splitOn_append_cons_self_of_not_mem (lineFeed_notMem_encode (hsecond csvPath)),
    List.splitOn_append_cons_self_of_not_mem (lineFeed_notMem_encode (hsecond csvPath'))]
  rfl

theorem bytes_ne_nil_of_render {name csvUrl text : String} {csvPath : Path}
    (h : render name csvPath csvUrl = .ok text) : Bytes.ofString text ≠ [] := by
  rw [bytes_render h]
  simp

end LoadScript

end EdgeCsv
