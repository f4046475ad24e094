import Mathlib.Data.Nat.Digits.Defs
import Mathlib.Data.Rat.Defs
import Mathlib.Algebra.Order.Ring.Rat

/-!
# Numbers in text

The built-in functions `int` and `float` on text: surrounding white space and single underscores
between two digits are allowed, and so are the decimal digits of every script. A text that they
refuse with `ValueError` has no value. The exact value of a text stands for the nearest binary
floating-point number.
-/

namespace IgTradingBot

/-- A floating-point number. -/
inductive FloatValue where
  | number (value : ℚ)
  | infinity (negative : Bool)
  | nan
  deriving DecidableEq, Repr

namespace NumberText

/-- `str.isspace` of a character. -/
def isSpace (character : Char) : Bool :=
  let code := character.toNat
  (0x9 ≤ code && code ≤ 0xd) || (0x1c ≤ code && code ≤ 0x20) || (0x2000 ≤ code && code ≤ 0x200a) ||
    code ∈ [0x85, 0xa0, 0x1680, 0x2028, 0x2029, 0x202f, 0x205f, 0x3000]

/-- `str.strip`. -/
def strip (text : List Char) : List Char :=
  ((text.dropWhile isSpace).reverse.dropWhile isSpace).reverse

/-- The digit zero of each script; the other digits follow it. -/
def digitZeros : List ℕ :=
  [0x30, 0x660, 0x6f0, 0x7c0, 0x966, 0x9e6, 0xa66, 0xae6, 0xb66, 0xbe6, 0xc66, 0xce6, 0xd66, 0xde6,
    0xe50, 0xed0, 0xf20, 0x1040, 0x1090, 0x17e0, 0x1810, 0x1946, 0x19d0, 0x1a80, 0x1a90, 0x1b50,
    0x1bb0, 0x1c40, 0x1c50, 0xa620, 0xa8d0, 0xa900, 0xa9d0, 0xa9f0, 0xaa50, 0xabf0, 0xff10,
    0x104a0, 0x10d30, 0x11066, 0x110f0, 0x11136, 0x111d0, 0x112f0, 0x11450, 0x114d0, 0x11650,
    0x116c0, 0x11730, 0x118e0, 0x11950, 0x11c50, 0x11d50, 0x11da0, 0x16a60, 0x16ac0, 0x16b50,
    0x1d7ce, 0x1d7d8, 0x1d7e2, 0x1d7ec, 0x1d7f6, 0x1e140, 0x1e2f0, 0x1e950, 0x1fbf0]

/-- The value of a decimal digit. -/
def digitValue (character : Char) : Option ℕ :=
  (digitZeros.find? fun origin => origin ≤ character.toNat && character.toNat ≤ origin + 9).map
    (character.toNat - ·)

/-- The digits of a text of at least one digit, without the underscores between them. -/
def readDigits : List Char → Option (List ℕ)
  | [] => none
  | [last] => (digitValue last).map ([·])
  | first :: '_' :: rest => do return (← digitValue first) :: (← readDigits rest)
  | first :: rest => do return (← digitValue first) :: (← readDigits rest)

/-- Whether a minus stands in front of a text, and the text behind its sign. -/
def readSign : List Char → Bool × List Char
  | '-' :: rest => (true, rest)
  | '+' :: rest => (false, rest)
  | text => (false, text)

/-- The number with the given digits, the highest first. -/
def ofDigits (digits : List ℕ) : ℕ := Nat.ofDigits 10 digits.reverse

/-- Most digits that `int` converts. -/
def maxIntDigits : ℕ := 4300

/-- `int(text)`. -/
def readInt (text : List Char) : Option ℤ := do
  let (negative, unsigned) := readSign (strip text)
  let digits ← readDigits unsigned
  if maxIntDigits < digits.length then none
  else some (if negative then -(ofDigits digits : ℤ) else ofDigits digits)

/-- The exponent of a number. -/
def readExponent : List Char → Option ℤ
  | [] => some 0
  | _ :: text => do
    let (negative, unsigned) := readSign text
    let digits ← readDigits unsigned
    return if negative then -(ofDigits digits : ℤ) else ofDigits digits

/-- The digits before and behind the point of a number; there is at least one. -/
def readMantissa (text : List Char) : Option (List ℕ × List ℕ) :=
  let (whole, fraction) := text.span (· ≠ '.')
  match whole, fraction with
  | whole, [] => (readDigits whole).map (·, [])
  | [], _ :: fraction => (readDigits fraction).map ([], ·)
  | whole, [_] => (readDigits whole).map (·, [])
  | whole, _ :: fraction => do return (← readDigits whole, ← readDigits fraction)

/-- Least magnitude that is rounded to infinity. -/
def overflow : ℚ := 2 ^ 1024 - 2 ^ 970

/-- The floating-point number of a sign, the digits around the point and an exponent. -/
def scaled (negative : Bool) (whole fraction : List ℕ) (exponent : ℤ) : FloatValue :=
  let power := exponent - fraction.length
  let magnitude : ℚ :=
    if 0 ≤ power then ofDigits (whole ++ fraction) * 10 ^ power.toNat
    else ofDigits (whole ++ fraction) / 10 ^ (-power).toNat
  if overflow ≤ magnitude then .infinity negative
  else .number (if negative then -magnitude else magnitude)

/-- `float(text)`. -/
def readFloat (text : List Char) : Option FloatValue :=
  let (negative, unsigned) := readSign (strip text)
  let word := unsigned.map Char.toLower
  if word = "inf".toList ∨ word = "infinity".toList then some (.infinity negative)
  else if word = "nan".toList then some .nan
  else do
    let (mantissa, exponent) := unsigned.span fun character => character ≠ 'e' && character ≠ 'E'
    let (whole, fraction) ← readMantissa mantissa
    return scaled negative whole fraction (← readExponent exponent)

example : readFloat " -1_0.5e-1 ".toList = some (.number (-1.05)) := by decide +kernel

example : readFloat "1__0".toList = none := by decide +kernel

end NumberText

end IgTradingBot
