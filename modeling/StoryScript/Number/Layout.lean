import StoryScript.Number.Shortest

/-!
# Decimal texts of floats

The shortest decimal of a float is written either in full, with zeros up to the decimal
point where its digits end before it, or in scientific form with one digit before the
point.  A `Layout` says which numbers are written how.
-/

namespace StoryScript.Number

/-- The decisions of a decimal text.  Both depend on the place of the decimal point in the
shortest digits, so on the size of the number. -/
structure Layout where
  /-- Whether a number of this size is written in full. -/
  inFull : Int → Bool
  /-- Whether an integer of this size, written in full, ends in `.0`. -/
  pointed : Int → Bool

/-- Every number is written in full, and integers below `10 ^ 16` end in `.0`. -/
def Layout.plain : Layout where
  inFull _ := true
  pointed p := p ≤ 16

/-- Numbers from `10 ^ (-4)` up to `10 ^ 16` are written in full and always with a point,
all others in scientific form. -/
def Layout.compact : Layout where
  inFull p := -4 < p && p ≤ 16
  pointed _ := true

/-- Zeros as many as told. -/
def zeros (n : Nat) : List Char := List.replicate n '0'

/-- The decimal written in full. -/
def Decimal.full (d : Decimal) (pointed : Bool) : List Char :=
  match d.point with
  | .negSucc k => '0' :: '.' :: zeros (k + 1) ++ d.digits
  | .ofNat 0 => '0' :: '.' :: d.digits
  | .ofNat p =>
    if d.digits.length ≤ p then
      d.digits ++ zeros (p - d.digits.length) ++ (if pointed then ['.', '0'] else [])
    else d.digits.take p ++ '.' :: d.digits.drop p

/-- The decimal written in scientific form. -/
def Decimal.scientific (d : Decimal) : List Char :=
  let mark := 'e' :: (toString (d.point - 1)).toList
  match d.digits with
  | [] => mark
  | [c] => c :: mark
  | c :: rest => c :: '.' :: rest ++ mark

/-- The decimal in the form that the layout chooses. -/
def Decimal.write (d : Decimal) (layout : Layout) : List Char :=
  if layout.inFull d.point then d.full (layout.pointed d.point) else d.scientific

/-- The text of a float. -/
def render (layout : Layout) (x : Float) : String :=
  if isNaN x then "NaN"
  else
    let body := if isFinite x then (shortest x).write layout else ['i', 'n', 'f']
    String.ofList (if isNegative x then '-' :: body else body)

end StoryScript.Number
