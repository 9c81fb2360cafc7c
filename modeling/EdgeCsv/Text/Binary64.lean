/-!
# Numbers with 53 significant bits

The numbers that are kept with 53 significant bits are the whole multiples of `2 ^ -1074` whose
quotient by some power of two is below `2 ^ 53`. A decimal is read as the nearest of them, a tie
going to the even significand. A number is written with the fewest digits that are read back as it,
and of those with the ones nearest to it. All arithmetic is on whole numbers.
-/

namespace EdgeCsv

/-- A non-negative number: `significand * 2 ^ shift` units of `2 ^ -1074`. -/
structure Binary64 where
  /-- The significand, below `2 ^ 53`; at least `2 ^ 52` unless the shift is zero. -/
  significand : Nat
  /-- The power of two that the significand is multiplied by. -/
  shift : Nat
  deriving DecidableEq, Repr

/-- A non-negative decimal: `digits * 10 ^ exponent`. -/
structure Decimal where
  /-- The digits, as one number. -/
  digits : Nat
  /-- The power of ten that the digits are multiplied by. -/
  exponent : Int
  deriving DecidableEq, Repr

namespace Binary64

/-- A power of two. -/
def twoTo (n : Nat) : Nat :=
  Nat.pow 2 n

/-- A power of ten. -/
def tenTo (n : Nat) : Nat :=
  Nat.pow 10 n

/-- A quotient rounded to the nearest whole number, a tie to the even one. -/
def roundQuotient (num den : Nat) : Nat :=
  let q := num / den
  let twice := 2 * (num % den)
  if twice < den then q
  else if den < twice then q + 1
  else if q % 2 = 0 then q
  else q + 1

/-- The largest shift of a finite number. -/
def maxShift : Nat := 2045

/-- The number nearest to `num / den` units, unless that is too large. -/
def ofUnits? (num den : Nat) : Option Binary64 :=
  let shift := Nat.log2 (num / den) - 52
  let significand := roundQuotient num (den * twoTo shift)
  let rounded : Binary64 :=
    if significand = twoTo 53 then ⟨twoTo 52, shift + 1⟩ else ⟨significand, shift⟩
  if maxShift < rounded.shift then none else some rounded

/-- The number of digits of a positive number. -/
def digitCount (n : Nat) : Nat :=
  (Nat.toDigits 10 n).length

/-- The number nearest to a decimal, unless that is too large. Decimals far out of range are sorted
out first, so that no large power is computed for them. -/
def ofDecimal? (d : Decimal) : Option Binary64 :=
  let magnitude : Int := digitCount d.digits + d.exponent
  if d.digits = 0 ∨ magnitude < -400 then some ⟨0, 0⟩
  else if 400 < magnitude then none
  else ofUnits? (d.digits * tenTo d.exponent.toNat * twoTo 1074) (tenTo (-d.exponent).toNat)

/-- A power of ten above every finite number and above the inverse of every positive one. -/
def scale : Nat := 340

/-- Tries the neighbours of a number on finer and finer grids of decimals and takes the first that
is read back as the number, the nearer one if both are. The grid has `places` digits of the `size`
that the number has before its last decimal place; `steps` more grids are left to try. -/
def shortestFrom (b : Binary64) (size : Nat) : Nat → Nat → Decimal
  | 0, places => ⟨0, (size : Int) - places - scale⟩
  | steps + 1, places =>
    let unit := twoTo b.shift * tenTo scale
    let value := 4 * b.significand * unit
    let low := (4 * b.significand - if b.significand = twoTo 52 ∧ 0 < b.shift then 1 else 2) * unit
    let high := (4 * b.significand + 2) * unit
    let grid := tenTo (size - places) * twoTo 1076
    let below := value / grid
    let fits (n : Nat) : Bool :=
      if b.significand % 2 = 0 then low ≤ n * grid && n * grid ≤ high
      else low < n * grid && n * grid < high
    let exponent : Int := (size : Int) - places - scale
    if fits below && (!fits (below + 1) || 2 * (value - below * grid) < grid) then
      ⟨below, exponent⟩
    else if fits (below + 1) then ⟨below + 1, exponent⟩
    else shortestFrom b size steps (places + 1)

/-- The decimal with the fewest digits that is read back as a number. -/
def shortest (b : Binary64) : Decimal :=
  if b.significand = 0 then ⟨0, 0⟩
  else
    let size := digitCount (b.significand * twoTo b.shift * tenTo scale / twoTo 1074)
    shortestFrom b size 17 1

end Binary64

namespace Decimal

/-- A decimal written out, with a point and at least one digit on each side of it, and no other zero
at its end. -/
def positional (d : Decimal) : String :=
  let digits := Nat.toDigits 10 d.digits
  let (whole, fraction) :=
    if 0 ≤ d.exponent then (digits ++ List.replicate d.exponent.toNat '0', [])
    else
      let places := (-d.exponent).toNat
      let padded := List.replicate (places + 1 - digits.length) '0' ++ digits
      (padded.take (padded.length - places), padded.drop (padded.length - places))
  let kept := (fraction.reverse.dropWhile (· = '0')).reverse
  String.ofList (whole ++ '.' :: if kept = [] then ['0'] else kept)

/-- The value of a row of digits. -/
def ofDigits (base : Nat) (value : Char → Nat) (cs : List Char) : Nat :=
  cs.foldl (fun n c => n * base + value c) 0

/-- The value of a decimal digit. -/
def digitValue (c : Char) : Nat :=
  c.toNat - '0'.toNat

/-- The exponent behind the digits: nothing, or `e` and digits with or without a sign. -/
def readExponent : List Char → Option Int
  | [] => some 0
  | c :: rest =>
    if c ≠ 'e' ∧ c ≠ 'E' then none
    else
      let (negative, digits) :=
        match rest with
        | '-' :: digits => (true, digits)
        | '+' :: digits => (false, digits)
        | digits => (false, digits)
      if digits = [] ∨ !digits.all Char.isDigit then none
      else
        let n : Int := ofDigits 10 digitValue digits
        some (if negative then -n else n)

/-- Reads digits with or without a point and an exponent; at least one digit stands before or behind
the point. -/
def read? (cs : List Char) : Option Decimal := do
  let whole := cs.takeWhile Char.isDigit
  let (fraction, rest) :=
    match cs.dropWhile Char.isDigit with
    | '.' :: rest => (rest.takeWhile Char.isDigit, rest.dropWhile Char.isDigit)
    | rest => ([], rest)
  if whole = [] ∧ fraction = [] then none
  else
    let exponent ← readExponent rest
    some ⟨ofDigits 10 digitValue (whole ++ fraction), exponent - fraction.length⟩

end Decimal

end EdgeCsv
