import Mathlib.Tactic.SplitIfs
import EdgeCsv.Text.Utf8

/-!
# Reading is the inverse of encoding

* `pieces_encodeChar`: the bytes of a character are read as that character.
* `flatMap_bytes_pieces`: nothing is lost in reading, also where it meets bytes that are no text.
* `decode?_eq_some_iff`: a byte string spells a text exactly if it is the encoding of that text.
* `encodeChar_infix_of_lossy`: what is shown of a byte string stands in it, apart from replacements.
-/

namespace EdgeCsv.Utf8

variable {b₀ b₁ b₂ b₃ : UInt8}

theorem toNat_ofNat {n : Nat} (h : n.isValidChar) : (Char.ofNat n).val.toNat = n := by
  unfold Char.ofNat
  rw [dif_pos h]
  rfl

theorem toNat_byte {n : Nat} (h : n < 256) : (UInt8.ofNat n).toNat = n := by
  rw [UInt8.toNat_ofNat']
  exact Nat.mod_eq_of_lt h

theorem byte_eq {n : Nat} {b : UInt8} (h : n = b.toNat) : UInt8.ofNat n = b := by
  rw [h, UInt8.ofNat_toNat]

theorem isContinuation_iff (b : UInt8) :
    isContinuation b = true ↔ 0x80 ≤ b.toNat ∧ b.toNat ≤ 0xBF := by
  simp [isContinuation, UInt8.le_iff_toNat_le]

/-- Which bytes may follow a lead byte, in numbers. -/
theorem mayFollow_iff (b₀ b₁ : UInt8) :
    mayFollow b₀ b₁ = true ↔
      (0xC2 ≤ b₀.toNat ∧ b₀.toNat ≤ 0xF4) ∧ (0x80 ≤ b₁.toNat ∧ b₁.toNat ≤ 0xBF) ∧
        (b₀.toNat = 0xE0 → 0xA0 ≤ b₁.toNat) ∧ (b₀.toNat = 0xED → b₁.toNat ≤ 0x9F) ∧
        (b₀.toNat = 0xF0 → 0x90 ≤ b₁.toNat) ∧ (b₀.toNat = 0xF4 → b₁.toNat ≤ 0x8F) := by
  unfold mayFollow isContinuation
  simp only [UInt8.lt_iff_toNat_lt, ← UInt8.toNat_inj, UInt8.le_iff_toNat_le, UInt8.reduceToNat]
  split_ifs <;> simp <;> omega

/-! ## Characters and their bytes -/

theorem encodeChar_one (h : b₀.toNat < 0x80) :
    String.utf8EncodeChar (Char.ofNat b₀.toNat) = [b₀] := by
  have hv : b₀.toNat.isValidChar := .inl (by omega)
  simp only [String.utf8EncodeChar, toNat_ofNat hv]
  rw [if_pos (by omega), byte_eq rfl]

theorem encodeChar_two (h : mayFollow b₀ b₁ = true) (h₀ : b₀.toNat < 0xE0) :
    String.utf8EncodeChar (Char.ofNat (b₀.toNat % 32 * 64 + payload b₁)) = [b₀, b₁] := by
  have hf := (mayFollow_iff b₀ b₁).1 h
  unfold payload
  have hv : (b₀.toNat % 32 * 64 + b₁.toNat % 64).isValidChar := .inl (by omega)
  simp only [String.utf8EncodeChar, toNat_ofNat hv]
  rw [if_neg (by omega), if_pos (by omega), List.cons.injEq, List.cons.injEq]
  exact ⟨byte_eq (by omega), byte_eq (by omega), rfl⟩

theorem encodeChar_three (h : mayFollow b₀ b₁ = true) (h₂ : isContinuation b₂ = true)
    (h₀ : ¬b₀.toNat < 0xE0) (h₀' : b₀.toNat < 0xF0) :
    String.utf8EncodeChar (Char.ofNat ((b₀.toNat % 16 * 64 + payload b₁) * 64 + payload b₂)) =
      [b₀, b₁, b₂] := by
  have hf := (mayFollow_iff b₀ b₁).1 h
  have hc := (isContinuation_iff b₂).1 h₂
  unfold payload
  have hv : ((b₀.toNat % 16 * 64 + b₁.toNat % 64) * 64 + b₂.toNat % 64).isValidChar := by
    unfold Nat.isValidChar; omega
  simp only [String.utf8EncodeChar, toNat_ofNat hv]
  rw [if_neg (by omega), if_neg (by omega), if_pos (by omega), List.cons.injEq, List.cons.injEq,
    List.cons.injEq]
  exact ⟨byte_eq (by omega), byte_eq (by omega), byte_eq (by omega), rfl⟩

theorem encodeChar_four (h : mayFollow b₀ b₁ = true) (h₂ : isContinuation b₂ = true)
    (h₃ : isContinuation b₃ = true) (h₀ : ¬b₀.toNat < 0xF0) :
    String.utf8EncodeChar (Char.ofNat
        (((b₀.toNat % 8 * 64 + payload b₁) * 64 + payload b₂) * 64 + payload b₃)) =
      [b₀, b₁, b₂, b₃] := by
  have hf := (mayFollow_iff b₀ b₁).1 h
  have hc := (isContinuation_iff b₂).1 h₂
  have hd := (isContinuation_iff b₃).1 h₃
  unfold payload
  have hv : (((b₀.toNat % 8 * 64 + b₁.toNat % 64) * 64 + b₂.toNat % 64) * 64 +
      b₃.toNat % 64).isValidChar := by
    unfold Nat.isValidChar; omega
  simp only [String.utf8EncodeChar, toNat_ofNat hv]
  rw [if_neg (by omega), if_neg (by omega), if_neg (by omega), List.cons.injEq, List.cons.injEq,
    List.cons.injEq, List.cons.injEq]
  exact ⟨byte_eq (by omega), byte_eq (by omega), byte_eq (by omega), byte_eq (by omega), rfl⟩

/-- **The four shapes of a character in bytes**, each with the code that its bytes spell. -/
theorem encodeChar_cases (c : Char) :
    (∃ b₀, String.utf8EncodeChar c = [b₀] ∧ b₀.toNat < 0x80 ∧ c = Char.ofNat b₀.toNat) ∨
    (∃ b₀ b₁, String.utf8EncodeChar c = [b₀, b₁] ∧ mayFollow b₀ b₁ = true ∧ b₀.toNat < 0xE0 ∧
      c = Char.ofNat (b₀.toNat % 32 * 64 + payload b₁)) ∨
    (∃ b₀ b₁ b₂, String.utf8EncodeChar c = [b₀, b₁, b₂] ∧ mayFollow b₀ b₁ = true ∧
      isContinuation b₂ = true ∧ 0xE0 ≤ b₀.toNat ∧ b₀.toNat < 0xF0 ∧
      c = Char.ofNat ((b₀.toNat % 16 * 64 + payload b₁) * 64 + payload b₂)) ∨
    (∃ b₀ b₁ b₂ b₃, String.utf8EncodeChar c = [b₀, b₁, b₂, b₃] ∧ mayFollow b₀ b₁ = true ∧
      isContinuation b₂ = true ∧ isContinuation b₃ = true ∧ 0xF0 ≤ b₀.toNat ∧
      c = Char.ofNat (((b₀.toNat % 8 * 64 + payload b₁) * 64 + payload b₂) * 64 + payload b₃)) := by
  have hv : c.val.toNat < 0xD800 ∨ 0xDFFF < c.val.toNat ∧ c.val.toNat < 0x110000 := c.valid
  have hc : ∀ n, n = c.val.toNat → c = Char.ofNat n := by
    rintro n rfl; exact (Char.ofNat_toNat c).symm
  simp only [mayFollow_iff, isContinuation_iff, payload, String.utf8EncodeChar]
  generalize c.val.toNat = v at hv hc
  by_cases h₁ : v ≤ 0x7F
  · refine .inl ⟨_, if_pos h₁, ?_⟩
    rw [toNat_byte (by omega)]
    exact ⟨by omega, hc _ rfl⟩
  by_cases h₂ : v ≤ 0x7FF
  · refine .inr (.inl ⟨_, _, (if_neg h₁).trans (if_pos h₂), ?_⟩)
    rw [toNat_byte (by omega), toNat_byte (by omega)]
    exact ⟨by omega, by omega, hc _ (by omega)⟩
  by_cases h₃ : v ≤ 0xFFFF
  · refine .inr (.inr (.inl ⟨_, _, _, (if_neg h₁).trans ((if_neg h₂).trans (if_pos h₃)), ?_⟩))
    rw [toNat_byte (by omega), toNat_byte (by omega), toNat_byte (by omega)]
    exact ⟨by omega, by omega, by omega, by omega, hc _ (by omega)⟩
  · refine .inr (.inr (.inr ⟨_, _, _, _, (if_neg h₁).trans ((if_neg h₂).trans (if_neg h₃)), ?_⟩))
    rw [toNat_byte (by omega), toNat_byte (by omega), toNat_byte (by omega),
      toNat_byte (by omega)]
    exact ⟨by omega, by omega, by omega, by omega, hc _ (by omega)⟩

/-! ## Reading -/

theorem lt_byte_iff {n : Nat} (hn : n < 256) (b : UInt8) : b < UInt8.ofNat n ↔ b.toNat < n := by
  rw [UInt8.lt_iff_toNat_lt, toNat_byte hn]

theorem lt_80_iff (b : UInt8) : b < 0x80 ↔ b.toNat < 0x80 := lt_byte_iff (by decide) b

theorem lt_E0_iff (b : UInt8) : b < 0xE0 ↔ b.toNat < 0xE0 := lt_byte_iff (by decide) b

theorem lt_F0_iff (b : UInt8) : b < 0xF0 ↔ b.toNat < 0xF0 := lt_byte_iff (by decide) b

/-- **The bytes of a character are read as that character**, whatever follows. -/
theorem pieces_encodeChar (c : Char) (bs : Bytes) :
    pieces (String.utf8EncodeChar c ++ bs) = .char c :: pieces bs := by
  rcases encodeChar_cases c with ⟨b₀, he, h₀, hc⟩ | ⟨b₀, b₁, he, hf, h₀, hc⟩ |
    ⟨b₀, b₁, b₂, he, hf, h₂, h₀, h₀', hc⟩ | ⟨b₀, b₁, b₂, b₃, he, hf, h₂, h₃, h₀, hc⟩
  · rw [he, List.singleton_append, pieces.eq_def]
    simp only [lt_80_iff, if_pos h₀, ← hc]
  · have hb := (mayFollow_iff b₀ b₁).1 hf
    have h₁ : ¬b₀.toNat < 0x80 := by omega
    rw [he, List.cons_append, List.singleton_append, pieces.eq_def]
    simp only [lt_80_iff, lt_E0_iff, if_neg h₁, hf, if_pos h₀, ← hc]
    rfl
  · have h₁ : ¬b₀.toNat < 0x80 := by omega
    have h₁' : ¬b₀.toNat < 0xE0 := by omega
    rw [he, List.cons_append, List.cons_append, List.singleton_append, pieces.eq_def]
    simp only [lt_80_iff, lt_E0_iff, lt_F0_iff, if_neg h₁, if_neg h₁', hf, h₂, if_pos h₀', ← hc]
    rfl
  · have h₁ : ¬b₀.toNat < 0x80 := by omega
    have h₁' : ¬b₀.toNat < 0xE0 := by omega
    have h₁'' : ¬b₀.toNat < 0xF0 := by omega
    rw [he, List.cons_append, List.cons_append, List.cons_append, List.singleton_append,
      pieces.eq_def]
    simp only [lt_80_iff, lt_E0_iff, lt_F0_iff, if_neg h₁, if_neg h₁', if_neg h₁'', hf, h₂, h₃,
      ← hc]
    rfl

theorem encode_cons (c : Char) (cs : List Char) :
    encode (c :: cs) = String.utf8EncodeChar c ++ encode cs := by
  unfold encode
  rw [List.flatMap_cons]

/-- What is encoded is read back. -/
theorem decode?_encode (cs : List Char) : decode? (encode cs) = some cs := by
  induction cs with
  | nil => rfl
  | cons c cs ih =>
    unfold decode? at ih ⊢
    rw [encode_cons, pieces_encodeChar, List.mapM_cons, ih]
    rfl

/-- The bytes that a piece was read from. -/
def Piece.bytes : Piece → Bytes
  | .char c => String.utf8EncodeChar c
  | .broken bytes => bytes

/-- **Nothing is lost in reading**: the pieces have the bytes they were read from. -/
theorem flatMap_bytes_pieces (bs : Bytes) : (pieces bs).flatMap Piece.bytes = bs := by
  -- along the reading: a broken piece is its bytes, a character has the bytes of its case
  fun_induction pieces bs with
  | case1 => rfl
  | case2 b₀ r₀ h₀ ih =>
    rw [List.flatMap_cons, ih, Piece.bytes, encodeChar_one ((lt_80_iff b₀).1 h₀)]
    rfl
  | case3 => rfl
  | case4 b₀ _ b₁ r₁ hf ih =>
    rw [List.flatMap_cons, ih]
    rfl
  | case5 b₀ _ b₁ r₁ hf h₀ ih =>
    rw [List.flatMap_cons, ih, Piece.bytes,
      encodeChar_two (by simpa using hf) ((lt_E0_iff b₀).1 h₀)]
    rfl
  | case6 => rfl
  | case7 b₀ _ b₁ hf hE0 b₂ r₂ h₂ ih =>
    rw [List.flatMap_cons, ih]
    rfl
  | case8 b₀ _ b₁ hf hE0 b₂ r₂ h₂ hF0 ih =>
    rw [lt_E0_iff] at hE0
    rw [List.flatMap_cons, ih, Piece.bytes, encodeChar_three (by simpa using hf) (by simpa using h₂)
      hE0 ((lt_F0_iff b₀).1 hF0)]
    rfl
  | case9 => rfl
  | case10 b₀ _ b₁ hf hE0 b₂ h₂ hF0 b₃ r₃ h₃ ih =>
    rw [List.flatMap_cons, ih]
    rfl
  | case11 b₀ _ b₁ hf hE0 b₂ h₂ hF0 b₃ r₃ h₃ ih =>
    rw [lt_F0_iff] at hF0
    rw [List.flatMap_cons, ih, Piece.bytes, encodeChar_four (by simpa using hf) (by simpa using h₂)
      (by simpa using h₃) hF0]
    rfl

/-- Pieces that are all characters. -/
theorem eq_map_char {ps : List Piece} {cs : List Char} (h : ps.mapM Piece.char? = some cs) :
    ps = cs.map Piece.char := by
  induction ps generalizing cs with
  | nil =>
    obtain rfl : [] = cs := Option.some.inj h
    rfl
  | cons piece ps ih =>
    rw [List.mapM_cons] at h
    cases piece with
    | broken bytes => cases h
    | char c =>
      cases hps : ps.mapM Piece.char? with
      | none => rw [hps] at h; cases h
      | some cs' =>
        rw [hps] at h
        obtain rfl : c :: cs' = cs := Option.some.inj h
        rw [ih hps]
        rfl

/-- **What is read without a broken piece has the bytes it was read from.** -/
theorem encode_of_decode? (bs : Bytes) (cs : List Char) (h : decode? bs = some cs) :
    encode cs = bs := by
  have hbytes := flatMap_bytes_pieces bs
  rw [eq_map_char h, List.flatMap_map] at hbytes
  exact hbytes

/-- **A byte string spells a text exactly if it is the encoding of that text.** -/
theorem decode?_eq_some_iff {bs : Bytes} {cs : List Char} :
    decode? bs = some cs ↔ bs = encode cs := by
  constructor
  · intro h; exact (encode_of_decode? bs cs h).symm
  · rintro rfl; exact decode?_encode cs

/-! ## Showing -/

/-- **What is shown of a byte string stands in it**, in its own encoding, apart from
replacements. -/
theorem encodeChar_infix_of_lossy {c : Char} {bs : Bytes} (h : c ∈ (lossy bs).toList)
    (hc : c ≠ replacement) : String.utf8EncodeChar c <:+: bs := by
  unfold lossy at h
  rw [String.toList_ofList] at h
  obtain ⟨piece, hpiece, hshown⟩ := List.mem_map.1 h
  cases piece with
  | broken bytes => exact absurd hshown.symm hc
  | char d =>
    obtain rfl : d = c := hshown
    obtain ⟨before, after, hpieces⟩ := List.append_of_mem hpiece
    refine ⟨before.flatMap Piece.bytes, after.flatMap Piece.bytes, ?_⟩
    rw [← flatMap_bytes_pieces bs, hpieces, List.flatMap_append, List.flatMap_cons,
      List.append_assoc]
    rfl

end EdgeCsv.Utf8
