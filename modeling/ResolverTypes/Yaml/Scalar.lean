import ResolverTypes.Data.Value
import ResolverTypes.Text.Blank

/-!
# Scalars of YAML

What a scalar without quotes stands for: nothing, a truth value, a number or its text.

## Main definitions

* `Yaml.truthValue?`, `Yaml.integer?`, `Yaml.decimal?` : the forms of truth values and numbers.
* `Yaml.plainTree` : what a scalar without quotes stands for.
-/

namespace ResolverTypes.Yaml

/-- Whether a text stands for the missing value. -/
def isNull (text : String) : Bool := text == "" || text == "~" || text.toLower == "null"

/-- The truth value that a text stands for. -/
def truthValue? (text : String) : Option Bool :=
  let word := text.toLower
  if word = "true" ∨ word = "yes" ∨ word = "y" ∨ word = "on" then some true
  else if word = "false" ∨ word = "no" ∨ word = "n" ∨ word = "off" then some false
  else none

/-- The value of a digit of some base. -/
def digit? (base : Nat) (c : Char) : Option Nat :=
  let value :=
    if '0' ≤ c ∧ c ≤ '9' then some (c.toNat - '0'.toNat)
    else if 'a' ≤ c ∧ c ≤ 'f' then some (c.toNat - 'a'.toNat + 10)
    else if 'A' ≤ c ∧ c ≤ 'F' then some (c.toNat - 'A'.toNat + 10)
    else none
  value.filter (· < base)

/-- The digits in a list of characters, in which an underscore may stand between two digits. -/
def separatedDigits? : List Char → Option (List Char)
  | [] => none
  | ['_'] => none
  | '_' :: _ => none
  | [c] => some [c]
  | c :: '_' :: rest => (separatedDigits? rest).map (c :: ·)
  | c :: rest => (separatedDigits? rest).map (c :: ·)

/-- The number that digits stand for; an underscore between two of them carries no meaning. -/
def natural? (base : Nat) (chars : List Char) : Option Nat := do
  let values ← (← separatedDigits? chars).mapM (digit? base)
  return values.foldl (fun n v => base * n + v) 0

/-- The number that an unsigned text stands for, by its base. -/
def unsigned? : List Char → Option Nat
  | '0' :: 'x' :: digits => natural? 16 digits
  | '0' :: 'X' :: digits => natural? 16 digits
  | '0' :: 'o' :: digits => natural? 8 digits
  | '0' :: 'O' :: digits => natural? 8 digits
  | '0' :: 'b' :: digits => natural? 2 digits
  | '0' :: 'B' :: digits => natural? 2 digits
  | digits => natural? 10 digits

/-- The whole number of at most 64 bits that a text stands for. -/
def integer? (text : String) : Option Int :=
  let value : Option Int :=
    match text.toList with
    | '-' :: digits => (unsigned? digits).map fun n => -(n : Int)
    | '+' :: digits => (unsigned? digits).map fun n => (n : Int)
    | digits => (unsigned? digits).map fun n => (n : Int)
  value.filter Numeral.isWord

/-- The sign in front of a number, and the rest of it. -/
def splitSign : List Char → Bool × List Char
  | '-' :: rest => (true, rest)
  | '+' :: rest => (false, rest)
  | rest => (false, rest)

/-- The power of ten at the end of a number: none is zero. -/
def exponent? : List Char → Option Int
  | [] => some 0
  | c :: rest =>
      if c = 'e' ∨ c = 'E' then
        let (negative, digits) := splitSign rest
        if !digits.isEmpty && digits.all Char.isDigit then
          (natural? 10 digits).map fun n => if negative then -(n : Int) else n
        else none
      else none

/-- An infinite number, which stands for its name. -/
def infinite (negative : Bool) : Tree := .string (if negative then "-.inf" else ".inf")

/-- The number of double precision that a text stands for; one that is not finite stands for its
name. -/
def decimal? (text : String) : Option Tree :=
  let (negative, rest) := splitSign text.toList
  let word := (String.ofList rest).toLower
  if word = ".inf" ∨ word = "inf" ∨ word = "infinity" then some (infinite negative)
  else if word = ".nan" ∨ word = "nan" then some (.string ".nan")
  else
    let whole := rest.takeWhile Char.isDigit
    let rest := rest.drop whole.length
    let (fraction, rest) :=
      match rest with
      | '.' :: rest =>
          let fraction := rest.takeWhile Char.isDigit
          (fraction, rest.drop fraction.length)
      | _ => ([], rest)
    if whole.isEmpty ∧ fraction.isEmpty then none
    else do
      let digits ← natural? 10 (whole ++ fraction)
      let exponent ← exponent? rest
      let decimal : Decimal := { negative, digits, exponent := exponent - fraction.length }
      return match decimal.rounded? with
        | some rounded => .number (.decimal rounded)
        | none => infinite negative

/-- What a scalar without quotes stands for; white space around a truth value or a number carries no
meaning. -/
def plainTree (text : String) : Tree :=
  let word := Text.trim text
  if isNull text then .null
  else
    match truthValue? word, integer? word, decimal? word with
    | some value, _, _ => .boolean value
    | _, some value, _ => .number (.integer value)
    | _, _, some tree => tree
    | _, _, _ => .string text

end ResolverTypes.Yaml
