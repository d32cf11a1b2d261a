import StoryScript.Number.Units

/-!
# Reading numerals

A numeral is an optional sign and then either digits alone, a decimal with a point and an
optional exponent, or one of the words `inf`, `infinity` and `nan` in any letter case.
Digits are the ASCII ones.
-/

namespace StoryScript.Number

/-- Whether `c` is one of the ten ASCII digits. -/
def isDigit (c : Char) : Bool := '0' ≤ c && c ≤ '9'

/-- The value of an ASCII digit. -/
def digitValue (c : Char) : Nat := c.toNat - '0'.toNat

/-- The number that a list of digits denotes. -/
def ofDigits (ds : List Char) : Nat := ds.foldl (fun n c => 10 * n + digitValue c) 0

/-- The number that a list of digits denotes, read no further than it takes to reach `bound`:
the digits after that are passed over.  A number below `bound` is read exactly and every
other as a number between `bound` and ten times `bound`, however long its numeral is. -/
def ofDigitsUpTo (bound : Nat) (ds : List Char) : Nat :=
  ds.foldl (fun n c => if n < bound then 10 * n + digitValue c else n) 0

/-- Whether the numeral starts with a minus sign, and what follows its sign. -/
def splitSign : List Char → Bool × List Char
  | '-' :: rest => (true, rest)
  | '+' :: rest => (false, rest)
  | rest => (false, rest)

/-- An integer with the sign told. -/
def withSign (negative : Bool) (n : Nat) : Int := if negative then -(n : Int) else n

/-! ### Whole numbers -/

/-- A number so large that it is out of range with either sign. -/
def wholeBound : Nat := Nat.pow 2 64

/-- The whole number that a numeral denotes, if it is an optional sign and at least one
digit, and denotes a number in range. -/
def readWhole? (cs : List Char) : Option Whole :=
  let (negative, ds) := splitSign cs
  if ds.isEmpty || !ds.all isDigit then none
  else Whole.ofInt? (withSign negative (ofDigitsUpTo wholeBound ds))

/-! ### Decimals -/

/-- How many digits of a decimal are read, from the first that is not zero.  Floats and the
numbers halfway between two of them have fewer digits than this, so all that the digits
after these tell is whether the decimal is greater than the digits read. -/
def digitLimit : Nat := 800

/-- The float nearest to the number with the digits `ds` times `10 ^ e`.  Numbers above
`10 ^ 310` are infinite and numbers below `10 ^ (-400)` are zero, whatever their digits. -/
def ofDecimal (ds : List Char) (e : Int) : Float :=
  let ds := ds.dropWhile (· == '0')
  let places := e + ds.length
  if ds.isEmpty || places < -400 then Float.ofBits 0
  else if 311 < places then Float.ofBits 0x7ff0000000000000
  else
    let more := if (ds.drop digitLimit).all (· == '0') then [] else ['1']
    let kept := ds.take digitLimit ++ more
    let shift := places - kept.length
    Float.ofScientific (ofDigits kept) (decide (shift < 0)) shift.natAbs

/-- The least exponent after which no further digit of it counts. -/
def exponentBound : Nat := 65536

/-- The value of what follows the mark of an exponent. -/
def readExponent? (cs : List Char) : Option Int :=
  let (negative, ds) := splitSign cs
  if ds.isEmpty || !ds.all isDigit then none
  else some (withSign negative (ofDigitsUpTo exponentBound ds))

/-- The exponent at the end of a decimal, zero if there is none. -/
def readTail? : List Char → Option Int
  | [] => some 0
  | c :: rest => if c = 'e' || c = 'E' then readExponent? rest else none

/-- The value of an unsigned decimal: digits with or without a point among, before or after
them, and an optional exponent. -/
def readDecimal? (cs : List Char) : Option Float :=
  let whole := cs.takeWhile isDigit
  let (fraction, rest) :=
    match cs.dropWhile isDigit with
    | '.' :: rest => (rest.takeWhile isDigit, rest.dropWhile isDigit)
    | rest => ([], rest)
  if whole.isEmpty && fraction.isEmpty then none
  else
    (readTail? rest).map fun e =>
      ofDecimal (whole ++ fraction) (e - fraction.length)

/-- The value of an unsigned numeral. -/
def readMagnitude? (cs : List Char) : Option Float :=
  let word := String.ofList (cs.map Char.toLower)
  if word = "inf" || word = "infinity" then some (Float.ofBits 0x7ff0000000000000)
  else if word = "nan" then some nan
  else readDecimal? cs

/-- The float that a numeral denotes. -/
def readFloat? (cs : List Char) : Option Float :=
  let (negative, rest) := splitSign cs
  (readMagnitude? rest).map fun x => if negative then -x else x

/-! ### Counts

A count is read digit by digit, and what is wrong with it is the first thing met on the
way: a character that is no digit, or a digit with which the number grows too large. -/

/-- The least number that is no count, `2 ^ 64`. -/
def countBound : Nat := Nat.pow 2 64

/-- What is wrong with the text of a count. -/
inductive CountError where
  /-- There is nothing to read. -/
  | empty
  /-- A character is no digit. -/
  | invalidDigit
  /-- The number is not below `2 ^ 64`. -/
  | tooLarge
  deriving DecidableEq, Repr

/-- The wording of the error. -/
def CountError.message : CountError → String
  | .empty => "cannot parse integer from empty string"
  | .invalidDigit => "invalid digit found in string"
  | .tooLarge => "number too large to fit in target type"

/-- The count reached from `n` by reading more digits. -/
def readDigits (n : Nat) : List Char → Except CountError Nat
  | [] => .ok n
  | c :: rest =>
    if !isDigit c then .error .invalidDigit
    else if countBound ≤ 10 * n + digitValue c then .error .tooLarge
    else readDigits (10 * n + digitValue c) rest

/-- The count that a text denotes: an optional plus sign and at least one digit. -/
def readCount : List Char → Except CountError Nat
  | [] => .error .empty
  | ['+'] => .error .invalidDigit
  | '+' :: rest => readDigits 0 rest
  | cs => readDigits 0 cs

end StoryScript.Number
