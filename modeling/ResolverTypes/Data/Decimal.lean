/-!
# Decimal numbers

A decimal number as it is written, and the number of double precision that it stands for.  Such a
number is written with the fewest digits that are read back as it.

## Main definitions

* `Decimal` : a sign, digits and a power of ten.
* `Binary` : a significand and a power of two.
* `Binary.nearest?` : the number of double precision nearest to a quotient.
* `Binary.shortest` : the fewest digits that are read back as a number.
* `Decimal.rounded?` : the shortest decimal for the number of double precision nearest to a decimal.
* `Decimal.roundedInSteps?` : the same for a decimal whose parts are rounded one after another.
* `Decimal.text` : the written form.
-/

namespace ResolverTypes

/-- A decimal number: its digits, as a natural number, times a power of ten. -/
structure Decimal where
  /-- Whether a minus sign stands in front. -/
  negative : Bool := false
  /-- The digits. -/
  digits : Nat := 0
  /-- The power of ten. -/
  exponent : Int := 0
deriving DecidableEq, Repr, Inhabited

/-- The first natural number with more bits than the significand of a number of double precision
has. -/
def significandLimit : Nat := 9007199254740992

/-- A positive number of double precision: a significand below `significandLimit` times a power of
two. -/
structure Binary where
  /-- The significand. -/
  significand : Nat
  /-- The power of two. -/
  exponent : Int
deriving DecidableEq, Repr, Inhabited

/-- The number of decimal digits of a positive number. -/
def decimalLength (n : Nat) : Nat := (Nat.toDigits 10 n).length

/-- The quotient of two numbers times a power of a base, as a quotient. -/
def scaled (num den base : Nat) (exponent : Int) : Nat × Nat :=
  if exponent ≥ 0 then (num * base.pow exponent.toNat, den)
  else (num, den * base.pow (-exponent).toNat)

/-- The nearest natural number to a quotient, and of two as near the even one. -/
def roundQuotient (num den : Nat) : Nat :=
  let q := num / den
  let r := num % den
  if 2 * r > den ∨ (2 * r = den ∧ q % 2 = 1) then q + 1 else q

namespace Binary

/-- The power of two of the number of double precision nearest to a quotient: 53 bits are kept, or
as many as the least power allows. -/
def scaleOf (num den : Nat) : Int :=
  let guess := max ((Nat.log2 num : Int) - Nat.log2 den - 53) (-1074)
  let (n, d) := scaled num den 2 (-guess)
  if n / d ≥ significandLimit then guess + 1 else guess

/-- The number of double precision nearest to a positive quotient, unless it is too great. -/
def nearest? (num den : Nat) : Option Binary :=
  let exponent := scaleOf num den
  let (n, d) := scaled num den 2 (-exponent)
  let m := roundQuotient n d
  let result : Binary := if m = significandLimit then ⟨m / 2, exponent + 1⟩ else ⟨m, exponent⟩
  if result.exponent > 971 then none else some result

/-- The quarter units around a number within which a decimal is read back as it: below, above, and
whether the ends belong to them. -/
def margin (b : Binary) : Nat × Nat × Bool :=
  let below := if 2 * b.significand = significandLimit ∧ b.exponent > -1074 then 1 else 2
  (4 * b.significand - below, 4 * b.significand + 2, b.significand % 2 = 0)

/-- Whether a natural number times a power of ten is read back as a number. -/
def readBy (b : Binary) (digits : Nat) (exponent : Int) : Bool :=
  let (low, high, ends) := b.margin
  let (n, d) := scaled digits 1 10 exponent
  let (n, d) := scaled n d 2 (2 - b.exponent)
  if ends then low * d ≤ n && n ≤ high * d else low * d < n && n < high * d

/-- The power of ten of the first digit of a positive quotient. -/
def leadingPower (num den : Nat) : Int :=
  let guess := (decimalLength num : Int) - decimalLength den
  let (n, d) := scaled num den 10 (-guess)
  if n ≥ d then guess else guess - 1

/-- Of a grid of decimals the one that is read back as a number; of two, the nearer. -/
def onGrid? (b : Binary) (num den : Nat) (exponent : Int) : Option Nat :=
  let (n, d) := scaled num den 10 (-exponent)
  let below := n / d
  let remainder := n % d
  match b.readBy below exponent, b.readBy (below + 1) exponent with
  | true, true =>
      some (if 2 * remainder > d ∨ (2 * remainder = d ∧ below % 2 = 1) then below + 1 else below)
  | true, false => some below
  | false, true => some (below + 1)
  | false, false => none

/-- The digits and the power of ten of the shortest decimal that is read back as a number, among
those with at least a given number of digits. -/
def shortestFrom (b : Binary) (num den : Nat) (leading : Int) : Nat → Nat → Nat × Int
  | 0, count => ((b.onGrid? num den (leading - count + 1)).getD 0, leading - count + 1)
  | fuel + 1, count =>
      match b.onGrid? num den (leading - count + 1) with
      | some digits => (digits, leading - count + 1)
      | none => shortestFrom b num den leading fuel (count + 1)

/-- The digits and the power of ten of the shortest decimal that is read back as a positive
number. -/
def shortest (b : Binary) : Nat × Int :=
  let (num, den) := scaled b.significand 1 2 b.exponent
  b.shortestFrom num den (leadingPower num den) 16 1

end Binary

namespace Decimal

/-- A decimal without zeros at the end of its digits. -/
def dropZeros : Nat → Nat → Int → Nat × Int
  | 0, digits, exponent => (digits, exponent)
  | fuel + 1, digits, exponent =>
      if digits ≠ 0 ∧ digits % 10 = 0 then dropZeros fuel (digits / 10) (exponent + 1)
      else (digits, exponent)

/-- The shortest decimal for a number of double precision with a sign. -/
def ofBinary (negative : Bool) (b : Binary) : Decimal :=
  if b.significand = 0 then { negative }
  else
    let (digits, exponent) := b.shortest
    let (digits, exponent) := dropZeros (decimalLength digits) digits exponent
    { negative, digits, exponent }

/-- The shortest decimal for the number of double precision nearest to a decimal, unless that is
too great. -/
def rounded? (x : Decimal) : Option Decimal :=
  let length := decimalLength x.digits
  if x.digits = 0 ∨ x.exponent + length < -330 then some { negative := x.negative }
  else if x.exponent + length > 330 then none
  else
    let (num, den) := scaled x.digits 1 10 x.exponent
    (Binary.nearest? num den).map (ofBinary x.negative)

/-- The greatest power of ten that is a number of double precision. -/
def greatestPower : Nat := 308

/-- A number of double precision times a power of ten, the power and the result being rounded.  A
power too small to be a number is taken in steps, of which a few lead to zero. -/
def timesPower? : Nat → Binary → Int → Option Binary
  | 0, _, _ => some ⟨0, 0⟩
  | steps + 1, b, exponent =>
      let scaledBy (power : Nat) (isProduct : Bool) : Option Binary := do
        let (n, d) := scaled b.significand 1 2 b.exponent
        let p ← Binary.nearest? (Nat.pow 10 power) 1
        let (pn, pd) := scaled p.significand 1 2 p.exponent
        if isProduct then Binary.nearest? (n * pn) (d * pd) else Binary.nearest? (n * pd) (d * pn)
      if b.significand = 0 then some b
      else if exponent.natAbs ≤ greatestPower then scaledBy exponent.natAbs (exponent ≥ 0)
      else if exponent ≥ 0 then none
      else do timesPower? steps (← scaledBy greatestPower false) (exponent + greatestPower)

/-- The shortest decimal for the number of double precision that a decimal comes to, unless that is
too great, when its digits, its power of ten and the product of the two are rounded one after
another.  That is at most a few units in the last place away from the nearest number. -/
def roundedInSteps? (x : Decimal) : Option Decimal := do
  let digits ← if x.digits = 0 then some ⟨0, 0⟩ else Binary.nearest? x.digits 1
  return ofBinary x.negative (← timesPower? 4 digits x.exponent)

/-- The written form of a power of ten: its sign and two digits at least. -/
def exponentText (exponent : Int) : String :=
  "e" ++ (if exponent < 0 then "-" else "+") ++ (if exponent.natAbs < 10 then "0" else "") ++
    toString exponent.natAbs

/-- The written form: with a point from `1e-5` up to `1e16`, and with a power of ten otherwise. -/
def text (x : Decimal) : String :=
  let digits := toString x.digits
  let length : Int := digits.length
  let point := length + x.exponent
  let zeros (n : Int) : String := String.ofList (List.replicate n.toNat '0')
  let cut (n : Int) : String :=
    String.ofList (digits.toList.take n.toNat) ++ "." ++ String.ofList (digits.toList.drop n.toNat)
  (if x.negative then "-" else "") ++
    if x.digits = 0 then "0.0"
    else if 0 ≤ x.exponent ∧ point ≤ 16 then digits ++ zeros x.exponent ++ ".0"
    else if 0 < point ∧ point ≤ 16 then cut point
    else if -5 < point ∧ point ≤ 0 then "0." ++ zeros (-point) ++ digits
    else if length = 1 then digits ++ exponentText (point - 1)
    else cut 1 ++ exponentText (point - 1)

end Decimal

end ResolverTypes
