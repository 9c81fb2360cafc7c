import EdgeCsv.Text.Binary64

/-!
# What a plain scalar means

A scalar without quotes and without a tag is a null, a truth value, an integer, a number or a text,
whichever fits first. Digits behind a leading zero are a text.
-/

namespace EdgeCsv.Yaml

/-- A number, as it is read from a scalar. -/
inductive Number
  | finite (negative : Bool) (magnitude : Binary64)
  | infinite (negative : Bool)
  | notANumber
  deriving DecidableEq, Repr

/-- The meaning of a scalar. -/
inductive Scalar
  | null
  | bool (b : Bool)
  | integer (n : Int)
  | number (x : Number)
  | text (s : String)
  deriving DecidableEq, Repr

namespace Scalar

/-- The spellings of null. -/
def isNull (s : String) : Bool :=
  s ∈ ["null", "Null", "NULL", "~"]

/-- The spellings of the truth values. -/
def bool? (s : String) : Option Bool :=
  if s ∈ ["true", "True", "TRUE"] then some true
  else if s ∈ ["false", "False", "FALSE"] then some false
  else none

/-- Whether more digits follow a leading zero, behind a sign or without one. -/
def isZeroLed (cs : List Char) : Bool :=
  let unsigned :=
    match cs with
    | '-' :: rest => rest
    | '+' :: rest => rest
    | rest => rest
  match unsigned with
  | '0' :: c :: rest => (c :: rest).all Char.isDigit
  | _ => false

/-- The value of a digit in some base up to sixteen. -/
def digitValue (c : Char) : Nat :=
  if c.isDigit then c.toNat - '0'.toNat
  else if 'a' ≤ c ∧ c ≤ 'f' then c.toNat - 'a'.toNat + 10
  else if 'A' ≤ c ∧ c ≤ 'F' then c.toNat - 'A'.toNat + 10
  else 16

/-- The number that a row of digits spells; there is at least one. -/
def natural? (base : Nat) (cs : List Char) : Option Nat :=
  if cs = [] ∨ !cs.all (digitValue · < base) then none
  else some (Decimal.ofDigits base digitValue cs)

/-- A number without a sign: in base sixteen, eight or two behind `0x`, `0o` or `0b`, or else in
base ten. -/
def unsigned? : List Char → Option Nat
  | '0' :: 'x' :: rest => natural? 16 rest
  | '0' :: 'o' :: rest => natural? 8 rest
  | '0' :: 'b' :: rest => natural? 2 rest
  | cs => if isZeroLed cs then none else natural? 10 cs

/-- A non-negative integer below `2 ^ 128`. -/
def positive? (cs : List Char) : Option Int := do
  let n ← unsigned? cs
  if n < Nat.pow 2 128 then some n else none

/-- The negative of a number up to `2 ^ 127`. -/
def negative? (cs : List Char) : Option Int := do
  let n ← unsigned? cs
  if n ≤ Nat.pow 2 127 then some (-n) else none

/-- An integer from `-2 ^ 127` up to `2 ^ 128 - 1`, with a sign or without. -/
def integer? : List Char → Option Int
  | '-' :: rest => negative? rest
  | '+' :: rest => positive? rest
  | rest => positive? rest

/-- A finite number in decimal. -/
def finite? (negative : Bool) (cs : List Char) : Option Number := do
  some (.finite negative (← Binary64.ofDecimal? (← Decimal.read? cs)))

/-- A number: in decimal, or spelled as an infinity or as no number at all. -/
def number? (s : String) : Option Number :=
  if s ∈ [".inf", ".Inf", ".INF", "+.inf", "+.Inf", "+.INF"] then some (.infinite false)
  else if s ∈ ["-.inf", "-.Inf", "-.INF"] then some (.infinite true)
  else if s ∈ [".nan", ".NaN", ".NAN"] then some .notANumber
  else
    match s.toList with
    | '-' :: rest => finite? true rest
    | '+' :: rest => finite? false rest
    | rest => finite? false rest

/-- The meaning of a plain scalar. -/
def ofPlain (s : String) : Scalar :=
  if s = "" ∨ isNull s then .null
  else
    match bool? s, integer? s.toList with
    | some b, _ => .bool b
    | none, some n => .integer n
    | none, none =>
      if isZeroLed s.toList then .text s
      else
        match number? s with
        | some x => .number x
        | none => .text s

end Scalar

end EdgeCsv.Yaml
