import StoryScript.Number.Units

/-!
# The shortest decimal of a float

A decimal with few digits often lies so close to a float that it reads back as that float.
`shortest x` has the fewest digits of all that do, and of those with as many digits it is
the one nearest to `x`.  The search is in exact arithmetic: a float stands for the interval
of numbers that round to it, and for each count of digits only the two neighbours of the
float on that decimal grid can lie inside.
-/

namespace StoryScript.Number

/-- The number `0.d₁d₂…dₙ · 10 ^ point` with the decimal digits `d₁ … dₙ`. -/
structure Decimal where
  /-- The digits, most significant first. -/
  digits : List Char
  /-- The place of the decimal point, counted from the front of the digits. -/
  point : Int
  deriving DecidableEq, Repr

/-- The numbers that round to a positive finite float, in multiples of `2 ^ (unit - 1076)`. -/
structure Rounding where
  /-- The float itself. -/
  value : Nat
  /-- The lower end. -/
  lower : Nat
  /-- The upper end. -/
  upper : Nat
  /-- Whether the ends round to the float as well. -/
  closed : Bool
  /-- How often the numbers are doubled. -/
  unit : Nat

/-- The interval of a positive finite float.  Below a power of two the floats lie twice as
close, and the ends round to the float whose last bit is zero. -/
def rounding (x : Float) : Rounding :=
  { value := 4 * significand x
    lower := 4 * significand x - (if fractionField x == 0 && 1 < exponentField x then 1 else 2)
    upper := 4 * significand x + 2
    closed := fractionField x % 2 == 0
    unit := doublings x }

/-- The whole numbers that an interval covers when a unit of the decimal grid counts as one,
and the place of the float among them. -/
structure Window where
  /-- The least whole number that rounds to the float. -/
  low : Nat
  /-- The greatest whole number that rounds to the float. -/
  high : Nat
  /-- Twice the float, rounded down. -/
  doubled : Nat

/-- The factor and the divisor that turn multiples of `2 ^ (unit - 1076)` into multiples of
`10 ^ e`. -/
def gridScale (unit : Nat) (e : Int) : Nat × Nat :=
  (Nat.pow 2 (unit - 1076) * Nat.pow 10 (-e).toNat, Nat.pow 2 (1076 - unit) * Nat.pow 10 e.toNat)

/-- The window of an interval on the grid of multiples of `10 ^ e`. -/
def Rounding.window (r : Rounding) (e : Int) : Window :=
  let (up, down) := gridScale r.unit e
  if r.closed then
    { low := (r.lower * up + down - 1) / down
      high := r.upper * up / down
      doubled := 2 * r.value * up / down }
  else
    { low := r.lower * up / down + 1
      high := (r.upper * up - 1) / down
      doubled := 2 * r.value * up / down }

/-- The better of the two neighbours of the float among the multiples of `step`, if one of
them rounds to the float.  The nearer one is better, and of two equally near ones the
greater. -/
def Window.hit? (w : Window) (step : Nat) : Option Nat :=
  let d := w.doubled / 2 / step
  let inside (m : Nat) : Bool := w.low ≤ m * step && m * step ≤ w.high
  match inside d, inside (d + 1) with
  | true, true => some (if w.doubled - 2 * d * step < step then d else d + 1)
  | true, false => some d
  | false, true => some (d + 1)
  | false, false => none

/-- The first hit among the multiples of `10 ^ k`, `10 ^ (k - 1)`, …, together with its
power. -/
def Window.search (w : Window) : (k : Nat) → Nat × Nat
  | 0 => ((w.hit? 1).getD (w.doubled / 2), 0)
  | k + 1 =>
    match w.hit? (Nat.pow 10 (k + 1)) with
    | some d => (d, k + 1)
    | none => w.search k

/-- A power of ten that is no greater than the float, and by a factor of no more than
`10 ^ 2`.  The number `0.30103` is the logarithm of two, near enough for all exponents of
floats. -/
def Rounding.logTen (r : Rounding) : Int :=
  (((r.value.log2 + r.unit : Nat) - 1076 : Int) * 30103).fdiv 100000

/-- The digits without the zeros at their end; a zero keeps one digit. -/
def trimZeros (ds : List Char) : List Char :=
  match ds.reverse.dropWhile (· == '0') with
  | [] => ['0']
  | rest => rest.reverse

/-- The decimal with the fewest digits that reads back as the absolute value of the finite
float `x`, and the nearest of those.  Seventeen digits always suffice, so the search is among
the whole numbers with seventeen or eighteen digits. -/
def shortest (x : Float) : Decimal :=
  if magnitude x = 0 then ⟨['0'], 1⟩
  else
    let r := rounding x
    let e := r.logTen - 16
    let w := r.window e
    let (d, k) := w.search (if w.doubled / 2 < Nat.pow 10 17 then 16 else 17)
    let ds := Nat.toDigits 10 d
    ⟨trimZeros ds, e + k + ds.length⟩

end StoryScript.Number
