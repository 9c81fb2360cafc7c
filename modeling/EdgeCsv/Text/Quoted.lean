import EdgeCsv.Text.Utf8
import EdgeCsv.Text.Printable

/-!
# Quoted text

A text or a path in double quotes, for a message or the log: the quote, the backslash and the common
control characters have short escapes, a character that would not be seen is written by its code,
and a byte of a path that is no text is written in hexadecimal. Apostrophes stand as they are.
-/

namespace EdgeCsv.Text

/-- Lower-case hexadecimal digits, most significant first. -/
def hexDigits (n : Nat) : List Char :=
  Nat.toDigits 16 n

/-- One character inside double quotes. -/
def quotedChar (c : Char) : List Char :=
  if c = '\x00' then ['\\', '0']
  else if c = '\t' then ['\\', 't']
  else if c = '\r' then ['\\', 'r']
  else if c = '\n' then ['\\', 'n']
  else if c = '"' then ['\\', '"']
  else if c = '\\' then ['\\', '\\']
  else if isShown c then [c]
  else ['\\', 'u', '\x7b'] ++ hexDigits c.toNat ++ ['\x7d']

/-- One byte that is no text, inside double quotes: two upper-case hexadecimal digits. -/
def quotedByte (b : UInt8) : List Char :=
  let digit (n : Nat) : Char := (Nat.digitChar n).toUpper
  ['\\', 'x', digit (b.toNat / 16), digit (b.toNat % 16)]

/-- A text in double quotes. -/
def quoted (s : String) : String :=
  String.ofList ('"' :: s.toList.flatMap quotedChar ++ ['"'])

/-- A piece of a byte string inside double quotes. -/
def quotedPiece : Utf8.Piece → List Char
  | .char c => quotedChar c
  | .broken bytes => bytes.flatMap quotedByte

/-- A byte string in double quotes. -/
def quotedBytes (bs : Bytes) : String :=
  String.ofList ('"' :: (Utf8.pieces bs).flatMap quotedPiece ++ ['"'])

end EdgeCsv.Text
