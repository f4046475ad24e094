import IgTradingBot.Core.NumberText
import IgTradingBot.Loop.Reconciliation
import Mathlib.Data.List.TakeWhile

/-!
# Texts of amounts

Which renderings of a decimal number `_parse_ig_decimal` reads back. A rendering
has a currency in front of its digits, separators of thousands, and one of three
ways to show that it is negative. The parser looks for digits with an optional
fraction behind them, so it needs an integer part; and it takes every minus in
front of the digits for a sign.
-/

namespace IgTradingBot

/-- How a rendering shows its sign: not at all, by a minus before or after the
currency, or by the brackets of accounting. -/
inductive SignStyle where
  | plain
  | minusBefore
  | minusAfter
  | parentheses
  deriving DecidableEq, Repr

/-- A rendering of a decimal number. The integer part may be missing and may have
commas between its digits; the currency has no digits of any script. -/
structure MoneyText where
  style : SignStyle
  currency : List Char
  whole : List Char
  fraction : List Char
  currencyDigitFree : ∀ character ∈ currency, NumberText.digitValue character = none
  wholeDigits : ∀ character ∈ whole, character.isDigit = true ∨ character = ','
  fractionDigits : ∀ character ∈ fraction, character.isDigit = true
  someDigits : (∃ character ∈ whole, character.isDigit = true) ∨ fraction ≠ []

namespace MoneyText

/-- The digits of the integer part. -/
def integerPart (money : MoneyText) : List Char := money.whole.filter (· ≠ ',')

/-- The number without its sign. -/
def magnitude (money : MoneyText) : ℚ :=
  TradingLoop.digitsValue money.integerPart +
    TradingLoop.digitsValue money.fraction / 10 ^ money.fraction.length

/-- The number. -/
def value (money : MoneyText) : ℚ :=
  if money.style = .plain then money.magnitude else -money.magnitude

/-- The characters before the digits and their point. -/
def front (money : MoneyText) : List Char :=
  match money.style with
  | .plain => money.currency
  | .minusBefore => '-' :: money.currency
  | .minusAfter => money.currency ++ ['-']
  | .parentheses => '(' :: money.currency

/-- The characters after the integer part: the fraction with its point, and the
closing bracket. -/
def rear (money : MoneyText) : List Char :=
  (if money.fraction = [] then [] else '.' :: money.fraction) ++
    if money.style = .parentheses then [')'] else []

/-- The characters of the rendering. -/
def characters (money : MoneyText) : List Char := money.front ++ money.whole ++ money.rear

/-- The condition on a rendering: it has an integer part, and without a sign it has no
minus in its currency; zero needs neither. -/
def Readable (money : MoneyText) : Prop :=
  (money.integerPart ≠ [] ∨ money.magnitude = 0) ∧
    (money.style = .plain → '-' ∈ money.currency → money.magnitude = 0)

end MoneyText

namespace TradingLoop

/-- The digits behind a decimal point. -/
def pointDigits : List Char → List Char
  | '.' :: rest => rest.takeWhile (·.isDigit)
  | _ => []

/-- The first decimal of a text is its first run of digits, with the digits behind a
point that follows at once. -/
theorem first_decimal_of_parts {before digits after : List Char}
    (free : ∀ character ∈ before, character.isDigit = false)
    (all : ∀ character ∈ digits, character.isDigit = true) (nonempty : digits ≠ [])
    (ends : ∀ character ∈ after.head?, character.isDigit = false) :
    firstDecimal (before ++ digits ++ after) = some (before,
      (digitsValue digits : ℚ) +
        digitsValue (pointDigits after) / 10 ^ (pointDigits after).length) := by
  obtain ⟨first, others, rfl⟩ := List.exists_cons_of_ne_nil nonempty
  have firstDigit : first.isDigit = true := all first List.mem_cons_self
  have skipped : ∀ character ∈ before, (!character.isDigit) = true := by
    intro character listed
    rw [free character listed]
    rfl
  have stops : after.takeWhile (·.isDigit) = [] ∧ after.dropWhile (·.isDigit) = after := by
    cases after with
    | nil => exact ⟨rfl, rfl⟩
    | cons next rest =>
      have noDigit : next.isDigit = false := ends next rfl
      simp [noDigit]
  have found : (before ++ (first :: others ++ after)).dropWhile (!·.isDigit) =
      first :: others ++ after := by
    rw [List.dropWhile_append_of_pos skipped, List.cons_append, List.dropWhile_cons]
    simp [firstDigit]
  have skippedText : (before ++ (first :: others ++ after)).takeWhile (!·.isDigit) = before := by
    rw [List.takeWhile_append_of_pos skipped, List.cons_append, List.takeWhile_cons]
    simp [firstDigit]
  have whole : (first :: others ++ after).takeWhile (·.isDigit) = first :: others := by
    rw [List.takeWhile_append_of_pos all, stops.1, List.append_nil]
  have rest : (first :: others ++ after).dropWhile (·.isDigit) = after := by
    rw [List.dropWhile_append_of_pos all, stops.2]
  rw [firstDecimal, List.append_assoc, found, skippedText, whole, rest]
  simp only [reduceCtorEq, if_false]
  rfl

/-- Surrounding blanks are dropped from the part before a text without blanks only. -/
theorem amount_text_append {front core : List Char} (nonempty : core ≠ [])
    (solid : ∀ character ∈ core, character.isWhitespace = false) :
    amountText (front ++ core) =
      (front.dropWhile Char.isWhitespace).filter (· ≠ ',') ++ core.filter (· ≠ ',') := by
  have left : (front ++ core).dropWhile Char.isWhitespace =
      front.dropWhile Char.isWhitespace ++ core := by
    obtain ⟨first, others, rfl⟩ := List.exists_cons_of_ne_nil nonempty
    have firstSolid := solid first List.mem_cons_self
    rw [List.dropWhile_append]
    split
    · rename_i blank
      rw [List.isEmpty_iff.mp blank, List.nil_append, List.dropWhile_cons]
      simp [firstSolid]
    · rfl
  have right : (core.reverse ++ (front.dropWhile Char.isWhitespace).reverse).dropWhile
      Char.isWhitespace = core.reverse ++ (front.dropWhile Char.isWhitespace).reverse := by
    obtain ⟨last, others, split_⟩ := List.exists_cons_of_ne_nil
      (List.reverse_ne_nil_iff.mpr nonempty)
    have lastSolid := solid last (List.mem_reverse.mp (split_ ▸ List.mem_cons_self))
    rw [split_, List.cons_append, List.dropWhile_cons]
    simp [lastSolid]
  rw [amountText, left, List.reverse_append, right, List.reverse_append, List.reverse_reverse,
    List.reverse_reverse, List.filter_append]

/-- A character that is no blank survives the dropping of leading blanks. -/
theorem mem_drop_blanks {character : Char} {text : List Char}
    (solid : character.isWhitespace = false) :
    character ∈ text.dropWhile Char.isWhitespace ↔ character ∈ text := by
  constructor
  · exact fun listed => (List.dropWhile_sublist _).subset listed
  · intro listed
    rw [← List.takeWhile_append_dropWhile (p := Char.isWhitespace) (l := text)] at listed
    rcases List.mem_append.mp listed with blank | kept
    · rw [List.mem_takeWhile_imp blank] at solid
      exact absurd solid (by simp)
    · exact kept

/-- A digit is a digit of some script. -/
theorem digit_value_of_is_digit {character : Char} (digit : character.isDigit = true) :
    NumberText.digitValue character ≠ none := by
  have bounds : 0x30 ≤ character.toNat ∧ character.toNat ≤ 0x30 + 9 := by
    simp only [Char.isDigit, Bool.and_eq_true, decide_eq_true_eq] at digit
    exact ⟨digit.1, digit.2⟩
  simp [NumberText.digitValue, NumberText.digitZeros, bounds.1, bounds.2]

/-- A digit is no blank. -/
theorem digit_solid {character : Char} (digit : character.isDigit = true) :
    character.isWhitespace = false := by
  cases blank : character.isWhitespace with
  | false => rfl
  | true =>
    have spaces : character = ' ' ∨ character = '\t' ∨ character = '\r' ∨ character = '\n' := by
      simpa [Char.isWhitespace, or_assoc] using blank
    rcases spaces with rfl | rfl | rfl | rfl <;> exact absurd digit (by decide)

end TradingLoop

namespace MoneyText

open TradingLoop

/-- The characters before the digits, as the parser meets them. -/
def cleanFront (money : MoneyText) : List Char :=
  (money.front.dropWhile Char.isWhitespace).filter (· ≠ ',')

/-- The number that the parser finds: a fraction without an integer part is taken for one. -/
def foundMagnitude (money : MoneyText) : ℚ :=
  if money.integerPart = [] then digitsValue money.fraction else money.magnitude

theorem currency_free (money : MoneyText) :
    ∀ character ∈ money.currency, character.isDigit = false := by
  intro character listed
  cases digit : character.isDigit with
  | false => rfl
  | true =>
    exact absurd (money.currencyDigitFree character listed) (digit_value_of_is_digit digit)

/-- The integer part consists of digits. -/
theorem integer_part_digits (money : MoneyText) :
    ∀ character ∈ money.integerPart, character.isDigit = true := by
  intro character listed
  obtain ⟨among, noComma⟩ := List.mem_filter.mp listed
  rcases money.wholeDigits character among with digit | comma
  · exact digit
  · exact absurd comma (of_decide_eq_true noComma)

/-- There is an integer part or a fraction. -/
theorem integer_part_or_fraction (money : MoneyText) :
    money.integerPart ≠ [] ∨ money.fraction ≠ [] := by
  rcases money.someDigits with ⟨character, listed, digit⟩ | present
  · left
    have noComma : character ≠ ',' := by
      rintro rfl
      exact absurd digit (by decide)
    exact List.ne_nil_of_mem (List.mem_filter.mpr ⟨listed, decide_eq_true noComma⟩)
  · exact Or.inr present

/-- What follows the integer part: digits, a point and a bracket. -/
theorem rear_characters (money : MoneyText) :
    ∀ character ∈ money.rear, character.isDigit = true ∨ character = '.' ∨
      money.style = .parentheses ∧ character = ')' := by
  intro character listed
  rcases List.mem_append.mp listed with fraction | closing
  · split at fraction
    · exact absurd fraction List.not_mem_nil
    · rcases List.mem_cons.mp fraction with rfl | digit
      · exact Or.inr (Or.inl rfl)
      · exact Or.inl (money.fractionDigits character digit)
  · split at closing
    · rename_i brackets
      exact Or.inr (Or.inr ⟨brackets, List.mem_singleton.mp closing⟩)
    · exact absurd closing List.not_mem_nil

/-- The text that the parser searches. -/
theorem amount_text_money (money : MoneyText) :
    amountText money.characters = money.cleanFront ++ money.integerPart ++ money.rear := by
  have solid : ∀ character ∈ money.whole ++ money.rear, character.isWhitespace = false := by
    intro character listed
    rcases List.mem_append.mp listed with whole | rear
    · rcases money.wholeDigits character whole with digit | rfl
      · exact digit_solid digit
      · decide
    · rcases money.rear_characters character rear with digit | rfl | ⟨_, rfl⟩
      · exact digit_solid digit
      · decide
      · decide
  have nonempty : money.whole ++ money.rear ≠ [] := by
    rcases money.someDigits with ⟨character, listed, _⟩ | present
    · exact List.ne_nil_of_mem (List.mem_append_left _ listed)
    · simp [rear, present]
  have rearKept : money.rear.filter (· ≠ ',') = money.rear := by
    refine List.filter_eq_self.mpr ?_
    intro character listed
    refine decide_eq_true ?_
    rintro rfl
    rcases money.rear_characters ',' listed with digit | point | ⟨_, bracket⟩
    · exact absurd digit (by decide)
    · exact absurd point (by decide)
    · exact absurd bracket (by decide)
  rw [characters, List.append_assoc, amount_text_append nonempty solid, List.filter_append,
    rearKept, ← List.append_assoc]
  rfl

/-- The cleaned front has no digits, and a minus exactly for a style with a minus or a
currency with one. -/
theorem clean_front_spec (money : MoneyText) :
    (∀ character ∈ money.cleanFront, character.isDigit = false) ∧
      ('-' ∈ money.cleanFront ↔
        money.style = .minusBefore ∨ money.style = .minusAfter ∨ '-' ∈ money.currency) := by
  constructor
  · intro character listed
    have among : character ∈ money.front :=
      (List.dropWhile_sublist _).subset (List.mem_of_mem_filter listed)
    have free := money.currency_free character
    cases style : money.style with
    | plain =>
      simp only [front, style] at among
      exact free among
    | minusBefore =>
      simp only [front, style, List.mem_cons] at among
      rcases among with rfl | among
      · decide
      · exact free among
    | minusAfter =>
      simp only [front, style, List.mem_append, List.mem_singleton] at among
      rcases among with among | rfl
      · exact free among
      · decide
    | parentheses =>
      simp only [front, style, List.mem_cons] at among
      rcases among with rfl | among
      · decide
      · exact free among
  · have kept : '-' ∈ money.cleanFront ↔ '-' ∈ money.front := by
      rw [cleanFront, List.mem_filter, mem_drop_blanks (by decide)]
      simp
    rw [kept]
    cases style : money.style <;> simp [front, style]

/-- A closing bracket begins with no digit. -/
theorem bracket_ends (style : SignStyle) :
    ∀ character ∈ (if style = .parentheses then [')'] else ([] : List Char)).head?,
      character.isDigit = false := by
  intro character first
  split at first
  · obtain rfl := Option.some.inj first
    decide
  · simp at first

/-- What follows the integer part begins with no digit. -/
theorem rear_ends (money : MoneyText) :
    ∀ character ∈ money.rear.head?, character.isDigit = false := by
  intro character first
  rw [rear] at first
  by_cases noFraction : money.fraction = []
  · rw [if_pos noFraction] at first
    exact bracket_ends money.style character first
  · rw [if_neg noFraction] at first
    obtain rfl := Option.some.inj first
    decide

/-- The digits behind the point are those of the fraction. -/
theorem point_digits_rear (money : MoneyText) : pointDigits money.rear = money.fraction := by
  rw [rear]
  by_cases noFraction : money.fraction = []
  · rw [if_pos noFraction, noFraction]
    split <;> rfl
  · rw [if_neg noFraction]
    simp only [List.cons_append, pointDigits]
    rw [List.takeWhile_append_of_pos money.fractionDigits]
    split <;> simp

/-- The parser finds the whole number behind an integer part, and the digits of the fraction
without one. -/
theorem first_decimal_money (money : MoneyText) :
    ∃ before, firstDecimal (amountText money.characters) = some (before, money.foundMagnitude) ∧
      ('-' ∈ before ↔ '-' ∈ money.cleanFront) := by
  rw [amount_text_money]
  by_cases noWhole : money.integerPart = []
  · have present := money.integer_part_or_fraction.resolve_left (not_not_intro noWhole)
    have free : ∀ character ∈ money.cleanFront ++ ['.'], character.isDigit = false := by
      intro character listed
      rcases List.mem_append.mp listed with listed | listed
      · exact money.clean_front_spec.1 character listed
      · obtain rfl := List.mem_singleton.mp listed
        decide
    have parts := first_decimal_of_parts free money.fractionDigits present
      (bracket_ends money.style)
    refine ⟨money.cleanFront ++ ['.'], ?_, by simp⟩
    have nothingBehind : pointDigits (if money.style = .parentheses then [')'] else []) = [] := by
      split <;> rfl
    rw [nothingBehind] at parts
    rw [noWhole, rear, if_neg present, foundMagnitude, if_pos noWhole]
    simpa [digitsValue] using parts
  · have parts := first_decimal_of_parts money.clean_front_spec.1 money.integer_part_digits noWhole
      money.rear_ends
    refine ⟨money.cleanFront, ?_, Iff.rfl⟩
    rw [parts, money.point_digits_rear, foundMagnitude, if_neg noWhole, magnitude]

/-- The parser sees the brackets of accounting exactly where they are. -/
theorem accounting_iff (money : MoneyText) :
    ((amountText money.characters).head? = some '(' ∧
      (amountText money.characters).getLast? = some ')') ↔ money.style = .parentheses := by
  rw [amount_text_money]
  constructor
  · rintro ⟨_, last⟩
    by_contra other
    have core : money.integerPart ++ money.rear ≠ [] := by
      rcases money.integer_part_or_fraction with whole | present
      · exact List.append_ne_nil_of_left_ne_nil whole _
      · simp [rear, present]
    rw [List.append_assoc, List.getLast?_append_of_ne_nil _ core] at last
    have listed := List.mem_of_getLast? last
    rcases List.mem_append.mp listed with whole | behind
    · exact absurd (money.integer_part_digits _ whole) (by decide)
    · rcases money.rear_characters _ behind with digit | point | ⟨brackets, _⟩
      · exact absurd digit (by decide)
      · exact absurd point (by decide)
      · exact other brackets
  · intro brackets
    have opening : money.cleanFront = '(' :: money.currency.filter (· ≠ ',') := by
      simp [cleanFront, front, brackets, Char.isWhitespace]
    constructor
    · rw [opening]
      rfl
    · rw [rear, if_pos brackets, ← List.append_assoc, List.getLast?_concat]

/-- What the parser makes of a rendering. -/
theorem parse_money (money : MoneyText) :
    parseIgText money.characters =
      if money.style ≠ .plain ∨ '-' ∈ money.currency then -money.foundMagnitude
      else money.foundMagnitude := by
  obtain ⟨before, found, minus⟩ := money.first_decimal_money
  have negative : (((amountText money.characters).head? = some '(' ∧
      (amountText money.characters).getLast? = some ')') ∨ '-' ∈ before) ↔
      (money.style ≠ .plain ∨ '-' ∈ money.currency) := by
    rw [accounting_iff, minus, money.clean_front_spec.2]
    cases style : money.style <;> simp
  rw [parseIgText, found]
  simp only [negative]

/-- Numbers without their sign are not negative. -/
theorem magnitude_nonneg (money : MoneyText) : 0 ≤ money.magnitude := by
  unfold magnitude
  positivity

/-- The number found is the number rendered exactly with an integer part, or for zero. -/
theorem found_magnitude_iff (money : MoneyText) :
    money.foundMagnitude = money.magnitude ↔ money.integerPart ≠ [] ∨ money.magnitude = 0 := by
  by_cases noWhole : money.integerPart = []
  · have present := money.integer_part_or_fraction.resolve_left (not_not_intro noWhole)
    have places : (1 : ℚ) < 10 ^ money.fraction.length :=
      one_lt_pow₀ (by norm_num) (List.length_pos_iff.mpr present).ne'
    have fractionOnly : money.magnitude =
        digitsValue money.fraction / 10 ^ money.fraction.length := by
      rw [magnitude, noWhole]
      simp [digitsValue]
    rw [foundMagnitude, if_pos noWhole, fractionOnly]
    constructor
    · intro same
      right
      -- a number that is its own tenth, hundredth and so on is zero
      rw [eq_div_iff (by positivity)] at same
      have zero : (digitsValue money.fraction : ℚ) = 0 := by
        by_contra nonzero
        exact absurd (mul_left_cancel₀ nonzero (same.trans (mul_one _).symm)) places.ne'
      rw [zero, zero_div]
    · rintro (whole | zero)
      · exact absurd noWhole whole
      · rw [zero]
        rcases div_eq_zero_iff.mp zero with zero | huge
        · exact zero
        · exact absurd huge (by positivity)
  · simp [foundMagnitude, noWhole]

/-- A nonnegative number is the negative of another one exactly if both are zero. -/
theorem neg_eq_iff_of_nonneg {found rendered : ℚ} (foundNonneg : 0 ≤ found)
    (renderedNonneg : 0 ≤ rendered) : -found = rendered ↔ found = rendered ∧ rendered = 0 := by
  constructor
  · intro same
    constructor <;> linarith
  · rintro ⟨rfl, zero⟩
    rw [zero, neg_zero]

/-- Half a dollar without an integer part: `$.50`. -/
def halfDollar : MoneyText where
  style := .plain
  currency := ['$']
  whole := []
  fraction := ['5', '0']
  currencyDigitFree := List.forall_mem_singleton.mpr (by decide)
  wholeDigits := List.forall_mem_nil _
  fractionDigits := by
    rw [List.forall_mem_cons, List.forall_mem_singleton]
    decide
  someDigits := Or.inr (by decide)

end MoneyText

end IgTradingBot
