import Mathlib.Algebra.Group.Pi.Basic
import Mathlib.Algebra.Order.Field.Rat

/-!
# Series of a data frame

A series has a value at every row of a frame; what it has behind the end of the frame does not
matter. Series are made of others by operations on rows, by shifts, by windows and by recursions.

A series of frames looks ahead by some rows when its value at a row is the same for all frames
that agree up to that many rows further. It is causal when it looks ahead by none. Operations keep
this in bounds: a lead adds to it, and a shift takes away.
-/

/-- Numbers of a data frame, of which some are not a number and some are infinite. -/
class FloatNumber (V : Type) extends Add V, Sub V, Mul V, Div V, Neg V where
  nan : V
  ofRat : ℚ → V
  sqrt : V → V
  lt : V → V → Bool
  le : V → V → Bool
  eq : V → V → Bool
  isNaN : V → Bool
  isInf : V → Bool

/-- Numbers of sixty-four bits. -/
instance : FloatNumber Float where
  nan := 0 / 0
  ofRat number := Float.ofInt number.num / Float.ofNat number.den
  sqrt := Float.sqrt
  lt first second := first < second
  le first second := first ≤ second
  eq first second := first == second
  isNaN := Float.isNaN
  isInf := Float.isInf

/-- A value for every row. -/
abbrev Series (α : Type) : Type := ℕ → α

namespace Series

variable {α β γ σ V : Type}

/-- Every row has the value of an earlier one, and the first rows have none. -/
def shift (fill : α) (rows : ℕ) (series : Series α) : Series α :=
  fun row => if row < rows then fill else series (row - rows)

/-- Every row has the value of a later one, and the last rows have none. -/
def lead (fill : α) (length rows : ℕ) (series : Series α) : Series α :=
  fun row => if row + rows < length then series (row + rows) else fill

/-- The last values up to a row, as many as the width. -/
def window (width : ℕ) (series : Series α) (row : ℕ) : List α :=
  (List.range width).map fun place => series (row + 1 - width + place)

/-- Every row has a statistic of its window, and the first rows have none. -/
def rolling (fill : β) (width : ℕ) (statistic : List α → β) (series : Series α) : Series β :=
  fun row => if row + 1 < width then fill else statistic (series.window width row)

/-- An operation on every row. -/
def each (operation : α → β) (series : Series α) : Series β := fun row => operation (series row)

/-- An operation on the same row of two series. -/
def pairs (first : Series α) (operation : α → β → γ) (second : Series β) : Series γ :=
  fun row => operation (first row) (second row)

/-- What holds in the same row of both series. -/
def both (first second : Series Bool) : Series Bool := first.pairs and second

/-- A state that goes from row to row. -/
def scan (first : α → σ) (step : σ → α → σ) (series : Series α) : Series σ
  | 0 => first (series 0)
  | row + 1 => step (scan first step series row) (series (row + 1))

section Numbers

variable [FloatNumber V]

open FloatNumber

/-- The same number in every row. -/
def constant (number : ℚ) : Series V := fun _ => ofRat number

/-- The rows in which the first number is greater. -/
def greater (first second : Series V) : Series Bool :=
  first.pairs (fun left right => lt right left) second

/-- The rows in which the first number is less. -/
def less (first second : Series V) : Series Bool := first.pairs lt second

/-- The rows in which the first number is greater or the same. -/
def atLeast (first second : Series V) : Series Bool :=
  first.pairs (fun left right => le right left) second

/-- The rows in which the first number is less or the same. -/
def atMost (first second : Series V) : Series Bool := first.pairs le second

/-- The magnitude of a number. -/
def magnitude (value : V) : V := if lt value (ofRat 0) then -value else value

/-- The sign of a number. -/
def sign (value : V) : V :=
  if lt (ofRat 0) value then ofRat 1 else if lt value (ofRat 0) then ofRat (-1) else value

/-- No number is less than zero. -/
def clipLower (value : V) : V := if lt value (ofRat 0) then ofRat 0 else value

/-- No number is greater than zero. -/
def clipUpper (value : V) : V := if lt (ofRat 0) value then ofRat 0 else value

/-- Zero is not a number. -/
def zeroToNaN (value : V) : V := if eq value (ofRat 0) then nan else value

/-- What is infinite is not a number. -/
def infToNaN (value : V) : V := if isInf value then nan else value

/-- One for what holds, and zero otherwise. -/
def indicator (holds : Bool) : V := if holds then ofRat 1 else ofRat 0

/-- The greater of two numbers, or the one that is a number. -/
def maxOf (first second : V) : V :=
  if isNaN first then second else if isNaN second then first
  else if lt first second then second else first

/-- The less of two numbers, or the one that is a number. -/
def minOf (first second : V) : V :=
  if isNaN first then second else if isNaN second then first
  else if lt second first then second else first

/-- Change against the row before. -/
def diff (series : Series V) : Series V := series - shift nan 1 series

end Numbers

/-- What an operation has in a row comes from the rows up to it. -/
def Trailing (operation : Series α → Series β) : Prop :=
  ∀ row first second, (∀ earlier ≤ row, first earlier = second earlier) →
    operation first row = operation second row

/-- A window has no row behind its last one. -/
theorem rolling_is_trailing (fill : β) (width : ℕ) (statistic : List α → β) :
    Trailing (rolling fill width statistic) := by
  intro row first second same
  unfold rolling
  split_ifs with early
  · rfl
  · refine congrArg statistic (List.map_congr_left fun place member => ?_)
    have inside := List.mem_range.mp member
    exact same _ (by omega)

/-- A state knows the rows up to its own. -/
theorem scan_is_trailing (first : α → σ) (step : σ → α → σ) : Trailing (scan first step) := by
  intro row series other same
  induction row with
  | zero => exact congrArg first (same 0 (Nat.le_refl 0))
  | succ row inductionHypothesis =>
    have earlier := inductionHypothesis fun before less => same before (by omega)
    have current := same (row + 1) (Nat.le_refl _)
    simp only [scan, earlier, current]

end Series

/-- Statistics of series that a library computes, each of them from row to row. -/
class SeriesLibrary (V : Type) extends FloatNumber V where
  ewmMean : ℚ → Series V → Series V
  rollingMean : ℕ → Series V → Series V
  rollingStd : ℕ → Series V → Series V
  rollingMedian : ℕ → Series V → Series V
  rollingMax : ℕ → Series V → Series V
  rollingMin : ℕ → Series V → Series V
  pctChange : ℕ → Series V → Series V
  ewm_mean_is_trailing : ∀ alpha, Series.Trailing (ewmMean alpha)
  rolling_mean_is_trailing : ∀ width, Series.Trailing (rollingMean width)
  rolling_std_is_trailing : ∀ width, Series.Trailing (rollingStd width)
  rolling_median_is_trailing : ∀ width, Series.Trailing (rollingMedian width)
  rolling_max_is_trailing : ∀ width, Series.Trailing (rollingMax width)
  rolling_min_is_trailing : ∀ width, Series.Trailing (rollingMin width)
  pct_change_is_trailing : ∀ rows, Series.Trailing (pctChange rows)

namespace Series

section Documented

variable {V : Type} [FloatNumber V]

open FloatNumber

/-- A statistic of a window all of whose values are finite numbers. -/
def ofNumbers (statistic : List V → V) (values : List V) : V :=
  let numbers := values.map infToNaN
  if numbers.any isNaN then nan else statistic numbers

/-- The sum of some numbers. -/
def sum (values : List V) : V := values.foldl (· + ·) (ofRat 0)

/-- The mean of some numbers. -/
def mean (values : List V) : V := sum values / ofRat values.length

/-- The standard deviation of a sample. -/
def std (values : List V) : V :=
  let centre := mean values
  sqrt (sum (values.map fun value => (value - centre) * (value - centre)) /
    ofRat (values.length - 1))

/-- The median of some numbers. -/
def median (values : List V) : V :=
  let sorted := values.mergeSort le
  let upper := sorted.getD (values.length / 2) nan
  if values.length % 2 = 0 then
    (sorted.getD (values.length / 2 - 1) nan + upper) / ofRat 2
  else upper

/-- Mean of a trailing window. -/
def trailingMean (width : ℕ) (series : Series V) : Series V :=
  rolling nan width (ofNumbers mean) series

/-- Standard deviation of a trailing window. -/
def trailingStd (width : ℕ) (series : Series V) : Series V :=
  rolling nan width (ofNumbers std) series

/-- Median of a trailing window. -/
def trailingMedian (width : ℕ) (series : Series V) : Series V :=
  rolling nan width (ofNumbers median) series

/-- Greatest value of a trailing window. -/
def trailingMax (width : ℕ) (series : Series V) : Series V :=
  rolling nan width (ofNumbers fun values => values.foldl maxOf nan) series

/-- Least value of a trailing window. -/
def trailingMin (width : ℕ) (series : Series V) : Series V :=
  rolling nan width (ofNumbers fun values => values.foldl minOf nan) series

/-- One row of an exponentially weighted mean, from the mean so far and the weight of what is older.
A value that is not a number leaves the mean, and the older values lose weight. -/
def weigh (alpha : V) (state : V × V) (value : V) : V × V :=
  let current := infToNaN value
  if isNaN state.1 then
    if isNaN current then state else (current, state.2)
  else
    let weight := state.2 * (ofRat 1 - alpha)
    if isNaN current then (state.1, weight)
    else if eq state.1 current then (state.1, ofRat 1)
    else ((weight * state.1 + alpha * current) / (weight + alpha), ofRat 1)

/-- Exponentially weighted mean, each row from the one before. -/
def exponentialMean (alpha : ℚ) (series : Series V) : Series V :=
  fun row => (scan (fun value => (infToNaN value, ofRat 1)) (weigh (ofRat alpha)) series row).1

/-- Rows without a number have the last number before them. -/
def pad (series : Series V) : Series V :=
  scan id (fun last value => if isNaN value then last else value) series

/-- Relative change against an earlier row. -/
def relativeChange (rows : ℕ) (series : Series V) : Series V :=
  series.pad / shift nan rows series.pad - constant 1

/-- A relative change comes from two rows, padded with the rows before them. -/
theorem relative_change_is_trailing (rows : ℕ) : Trailing (relativeChange (V := V) rows) := by
  intro row first second same
  have padded : ∀ earlier ≤ row, first.pad earlier = second.pad earlier := fun earlier less =>
    scan_is_trailing _ _ earlier first second fun before further => same before (further.trans less)
  have shifted : shift nan rows first.pad row = shift nan rows second.pad row := by
    unfold shift
    split_ifs with early
    · rfl
    · exact padded (row - rows) (Nat.sub_le row rows)
  change first.pad row / shift nan rows first.pad row - ofRat 1 =
    second.pad row / shift nan rows second.pad row - ofRat 1
  rw [padded row (Nat.le_refl row), shifted]

/-- The statistics as they are documented, without the rounding of a computation from row to row. -/
abbrev documented : SeriesLibrary V where
  ewmMean := exponentialMean
  rollingMean := trailingMean
  rollingStd := trailingStd
  rollingMedian := trailingMedian
  rollingMax := trailingMax
  rollingMin := trailingMin
  pctChange := relativeChange
  ewm_mean_is_trailing _ row first second same :=
    congrArg Prod.fst (scan_is_trailing _ _ row first second same)
  rolling_mean_is_trailing width := rolling_is_trailing nan width _
  rolling_std_is_trailing width := rolling_is_trailing nan width _
  rolling_median_is_trailing width := rolling_is_trailing nan width _
  rolling_max_is_trailing width := rolling_is_trailing nan width _
  rolling_min_is_trailing width := rolling_is_trailing nan width _
  pct_change_is_trailing := relative_change_is_trailing

end Documented

end Series

/-- Statistics of numbers of sixty-four bits. -/
instance : SeriesLibrary Float := Series.documented

/-- Frames of which two may agree up to a row. -/
class PrefixFrame (φ : Type) where
  length : φ → ℕ
  Agree : ℕ → φ → φ → Prop
  nested : ∀ {first second : ℕ} {frame other : φ}, first ≤ second → Agree second frame other →
    Agree first frame other
  length_iff : ∀ {row : ℕ} {frame other : φ}, Agree row frame other →
    (row < length frame ↔ row < length other)

namespace Series

variable {φ α β γ σ V : Type} [PrefixFrame φ] {ahead : ℕ} {series : φ → Series α}
  {other : φ → Series β}

open PrefixFrame

/-- The value at a row is the same for frames that agree up to some rows further. -/
def Looks (ahead : ℕ) (series : φ → Series α) : Prop :=
  ∀ row frame other, Agree (row + ahead) frame other → series frame row = series other row

/-- The value at a row is the same for frames that agree up to it. -/
abbrev Causal (series : φ → Series α) : Prop := Looks 0 series

/-- Who looks ahead less far may look further. -/
theorem Looks.mono {further : ℕ} (looks : Looks ahead series) (more : ahead ≤ further) :
    Looks further series :=
  fun row frame other agree => looks row frame other (nested (Nat.add_le_add_left more row) agree)

/-- Values that have nothing to do with a frame look at nothing. -/
theorem looks_const (values : Series α) : Looks ahead fun _ : φ => values :=
  fun _ _ _ _ => rfl

/-- An operation on each row. -/
theorem Looks.map (looks : Looks ahead series) (operation : α → β) :
    Looks ahead fun frame row => operation (series frame row) :=
  fun row frame other agree => congrArg operation (looks row frame other agree)

/-- An operation on the same row of two series. -/
theorem Looks.zip (first : Looks ahead series) (second : Looks ahead other)
    (operation : α → β → γ) :
    Looks ahead fun frame row => operation (series frame row) (other frame row) :=
  fun row frame another agree =>
    congrArg₂ operation (first row frame another agree) (second row frame another agree)

/-- What holds in both series. -/
theorem Looks.both {first second : φ → Series Bool} (left : Looks ahead first)
    (right : Looks ahead second) : Looks ahead fun frame => (first frame).both (second frame) :=
  left.zip right Bool.and

/-- A shift takes away from what a series looks ahead. -/
theorem Looks.shift (looks : Looks ahead series) (fill : α) (rows : ℕ) :
    Looks (ahead - rows) fun frame => (series frame).shift fill rows := by
  intro row frame another agree
  simp only [Series.shift]
  split_ifs with early
  · rfl
  · exact looks (row - rows) frame another (nested (by omega) agree)

/-- A lead adds to what a series looks ahead. -/
theorem Looks.lead (looks : Looks ahead series) (fill : α) (rows : ℕ) :
    Looks (ahead + rows) fun frame => (series frame).lead fill (length frame) rows := by
  intro row frame another agree
  have inside := length_iff (nested (show row + rows ≤ row + (ahead + rows) by omega) agree)
  simp only [Series.lead, inside]
  split_ifs with early
  · exact looks (row + rows) frame another (nested (by omega) agree)
  · rfl

/-- What comes from the rows up to a row looks as far as they do. -/
theorem Looks.trailing (looks : Looks ahead series) {operation : Series α → Series β}
    (trails : Trailing operation) : Looks ahead fun frame => operation (series frame) :=
  fun row frame another agree => trails row (series frame) (series another) fun earlier less =>
    looks earlier frame another (nested (Nat.add_le_add_right less ahead) agree)

section Numbers

variable [FloatNumber V] {values others : φ → Series V}

open FloatNumber

/-- A sum of two series. -/
theorem Looks.add (first : Looks ahead values) (second : Looks ahead others) :
    Looks ahead fun frame => values frame + others frame :=
  first.zip second fun left right => left + right

/-- A difference of two series. -/
theorem Looks.sub (first : Looks ahead values) (second : Looks ahead others) :
    Looks ahead fun frame => values frame - others frame :=
  first.zip second fun left right => left - right

/-- A product of two series. -/
theorem Looks.mul (first : Looks ahead values) (second : Looks ahead others) :
    Looks ahead fun frame => values frame * others frame :=
  first.zip second fun left right => left * right

/-- A quotient of two series. -/
theorem Looks.div (first : Looks ahead values) (second : Looks ahead others) :
    Looks ahead fun frame => values frame / others frame :=
  first.zip second fun left right => left / right

/-- Rows in which the first number is less. -/
theorem Looks.less (first : Looks ahead values) (second : Looks ahead others) :
    Looks ahead fun frame => (values frame).less (others frame) :=
  first.zip second lt

/-- Rows in which the first number is greater or the same. -/
theorem Looks.atLeast (first : Looks ahead values) (second : Looks ahead others) :
    Looks ahead fun frame => (values frame).atLeast (others frame) :=
  first.zip second fun left right => le right left

/-- Rows in which the first number is less or the same. -/
theorem Looks.atMost (first : Looks ahead values) (second : Looks ahead others) :
    Looks ahead fun frame => (values frame).atMost (others frame) :=
  first.zip second le

/-- Rows in which the first number is greater. -/
theorem Looks.greater (first : Looks ahead values) (second : Looks ahead others) :
    Looks ahead fun frame => (values frame).greater (others frame) :=
  first.zip second fun left right => lt right left

/-- A change looks as far as what it is the change of. -/
theorem Looks.diff (looks : Looks ahead values) : Looks ahead fun frame => (values frame).diff :=
  looks.zip ((looks.shift nan 1).mono (Nat.sub_le ahead 1))
    fun current previous => current - previous

end Numbers

end Series
