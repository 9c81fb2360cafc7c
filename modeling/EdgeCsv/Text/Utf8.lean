/-!
# Bytes and the text they spell

File contents, paths and command line words are byte strings: any bytes at all. `pieces` reads a
byte string as UTF-8 from left to right and never fails. What is well formed comes out as
characters; where it is not, the longest run of bytes that still began a character comes out as one
broken piece. Two readings are built on it: `decode?`, which refuses any broken piece, and `lossy`,
which shows each of them as one replacement character.
-/

namespace EdgeCsv

/-- A byte string. -/
abbrev Bytes := List UInt8

namespace Utf8

/-- The bytes of a text. -/
def encode (cs : List Char) : Bytes :=
  cs.flatMap String.utf8EncodeChar

/-- One step of a left-to-right reading. -/
inductive Piece
  /-- A well-formed character. -/
  | char (c : Char)
  /-- Bytes that begin no character that the input goes on to complete. -/
  | broken (bytes : Bytes)
  deriving DecidableEq, Repr

/-- A byte that can only continue a character. -/
def isContinuation (b : UInt8) : Bool :=
  0x80 ≤ b && b ≤ 0xBF

/-- Whether `b₁` may follow the lead byte `b₀`: the ranges leave out overlong forms, surrogates and
anything above the last code point. -/
def mayFollow (b₀ b₁ : UInt8) : Bool :=
  if b₀ < 0xC2 then false
  else if b₀ < 0xE0 then isContinuation b₁
  else if b₀ = 0xE0 then 0xA0 ≤ b₁ && b₁ ≤ 0xBF
  else if b₀ = 0xED then 0x80 ≤ b₁ && b₁ ≤ 0x9F
  else if b₀ < 0xF0 then isContinuation b₁
  else if b₀ = 0xF0 then 0x90 ≤ b₁ && b₁ ≤ 0xBF
  else if b₀ < 0xF4 then isContinuation b₁
  else if b₀ = 0xF4 then 0x80 ≤ b₁ && b₁ ≤ 0x8F
  else false

/-- The six payload bits of a continuation byte. -/
def payload (b : UInt8) : Nat :=
  b.toNat % 64

/-- Reads a byte string from left to right. -/
def pieces : Bytes → List Piece
  | [] => []
  | b₀ :: r₀ =>
    if b₀ < 0x80 then .char (Char.ofNat b₀.toNat) :: pieces r₀
    else
      match r₀ with
      | [] => [.broken [b₀]]
      | b₁ :: r₁ =>
        if !mayFollow b₀ b₁ then .broken [b₀] :: pieces (b₁ :: r₁)
        else if b₀ < 0xE0 then
          .char (Char.ofNat (b₀.toNat % 32 * 64 + payload b₁)) :: pieces r₁
        else
          match r₁ with
          | [] => [.broken [b₀, b₁]]
          | b₂ :: r₂ =>
            if !isContinuation b₂ then .broken [b₀, b₁] :: pieces (b₂ :: r₂)
            else if b₀ < 0xF0 then
              .char (Char.ofNat ((b₀.toNat % 16 * 64 + payload b₁) * 64 + payload b₂)) :: pieces r₂
            else
              match r₂ with
              | [] => [.broken [b₀, b₁, b₂]]
              | b₃ :: r₃ =>
                if !isContinuation b₃ then .broken [b₀, b₁, b₂] :: pieces (b₃ :: r₃)
                else
                  .char (Char.ofNat
                    (((b₀.toNat % 8 * 64 + payload b₁) * 64 + payload b₂) * 64 + payload b₃)) ::
                    pieces r₃

/-- The character U+FFFD, shown in place of bytes that are no text. -/
def replacement : Char :=
  Char.ofNat 0xFFFD

/-- What a piece looks like when it has to be shown as text. -/
def Piece.shown : Piece → Char
  | .char c => c
  | .broken _ => replacement

/-- The character of a well-formed piece. -/
def Piece.char? : Piece → Option Char
  | .char c => some c
  | .broken _ => none

/-- The text of a byte string, each broken piece shown as U+FFFD. -/
def lossy (bs : Bytes) : String :=
  String.ofList ((pieces bs).map Piece.shown)

/-- The text that a byte string spells, if it is well formed throughout. -/
def decode? (bs : Bytes) : Option (List Char) :=
  (pieces bs).mapM Piece.char?

/-- Whether a byte string is well-formed UTF-8. -/
def isValid (bs : Bytes) : Bool :=
  (decode? bs).isSome

end Utf8

/-- The bytes of a text. -/
def Bytes.ofString (s : String) : Bytes :=
  Utf8.encode s.toList

end EdgeCsv
