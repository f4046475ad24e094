import Mathlib.Data.Rat.Defs

/-!
# Exceptions and values that arrive from outside

The exception classes that the modelled code raises or tells apart, after
`src/core/exceptions.py` and the libraries the code calls, and the numbers of
decoded JSON bodies. A field that is absent or null is `none`; a present number
field holds either something that `float` and `Decimal` accept or something
that they refuse with an exception.
-/

namespace IgTradingBot

/-- Exceptions, by class. The text is the message without its context. -/
inductive Failure where
  | igConnection (message : String)
  | igAuthentication (message : String)
  | rateLimit (message : String)
  | hftLatencyRejection (message : String)
  | orderValidation (message : String)
  | orderExecution (message : String)
  /-- `httpx.HTTPError`: the transport failed before an answer was read -/
  | transport
  /-- `ValueError` of a body that is not JSON -/
  | decode
  /-- `decimal.InvalidOperation`, or `ValueError` of `float` -/
  | notANumber
  /-- `AttributeError` or `TypeError` of a value with an unexpected shape -/
  | badShape
  | runtime (message : String)
  /-- a database failure -/
  | database
  /-- any other exception of a callee -/
  | other (message : String)
  deriving DecidableEq, Repr

/-- `isinstance(exc, IGConnectionError)`: the class and its two subclasses. -/
def Failure.isIGConnectionError : Failure → Bool
  | .igConnection _ | .igAuthentication _ | .rateLimit _ => true
  | _ => false

/-- A present JSON value in a place where the code expects a number. -/
inductive Numeral where
  | number (value : ℚ)
  | malformed
  deriving DecidableEq, Repr

namespace Numeral

/-- `float(x)` and `Decimal(str(x))`. -/
def parse : Numeral → Except Failure ℚ
  | number value => .ok value
  | malformed => .error .notANumber

/-- Truth of an optional number in a condition: absent and zero are false. -/
def truthy : Option Numeral → Bool
  | none => false
  | some (number value) => decide (value ≠ 0)
  | some malformed => true

/-- `x or fallback`, where the first operand is used when it is true. -/
def orElse (first fallback : Option Numeral) : Option Numeral :=
  if truthy first then first else fallback

/-- `Decimal(str(x or "0"))`. -/
def parseOrZero (numeral : Option Numeral) : Except Failure ℚ :=
  match orElse numeral (some (number 0)) with
  | some value => value.parse
  | none => .ok 0

theorem parse_or_zero_number (value : ℚ) : parseOrZero (some (number value)) = .ok value := by
  by_cases zero : value = 0
  · subst zero
    rfl
  · simp [parseOrZero, orElse, truthy, zero, parse]

/-- The amount that `float(x)` adds to a total when x is true and `float`
accepts it; otherwise nothing is added. -/
def amount : Option Numeral → ℚ
  | some (number value) => value
  | _ => 0

end Numeral

/-- Truth of an optional string in a condition: absent and empty are false. -/
def truthyText : Option String → Bool
  | none => false
  | some text => decide (text ≠ "")

/-- `x or fallback` on strings. -/
def orText (first fallback : Option String) : Option String :=
  if truthyText first then first else fallback

end IgTradingBot
