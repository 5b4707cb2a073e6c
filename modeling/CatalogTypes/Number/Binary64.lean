/-!
# Binary floating-point numbers of 53 bits

A number is kept exactly, as a sign, a whole mantissa and a power of two.  Reading a decimal
rounds to the nearest such number, ties to the even mantissa.  Writing finds the fewest decimal
digits that read back as the same number and, of the decimals with that many digits, the nearest.
All arithmetic is on whole numbers.
-/

namespace CatalogTypes

/-- A number `mantissa · 2 ^ exponent` with a sign, an infinity, or no number.  A finite number
built here has a mantissa below `2 ^ 53` and an exponent from `-1074` to `971`. -/
inductive Binary64 where
  | finite (negative : Bool) (mantissa : Nat) (exponent : Int)
  | infinite (negative : Bool)
  | nan
deriving DecidableEq, Repr, Inhabited

namespace Binary64

/-! ## Reading a decimal -/

/-- The quotient rounded to the nearest whole number, ties to even. -/
def roundEven (num den : Nat) : Nat :=
  let q := num / den
  let r := num % den
  if den < 2 * r || (2 * r = den && q % 2 = 1) then q + 1 else q

/-- The fraction `num / den` divided by `base ^ exponent`. -/
def scaled (base num den : Nat) (exponent : Int) : Nat × Nat :=
  if 0 ≤ exponent then (num, den * Nat.pow base exponent.toNat)
  else (num * Nat.pow base (-exponent).toNat, den)

/-- Zero with a sign. -/
def zero (negative : Bool) : Binary64 := finite negative 0 (-1074)

/-- The number nearest to a fraction. -/
def ofRatio (negative : Bool) (num den : Nat) : Binary64 :=
  if num = 0 then zero negative
  else
    let low : Int := max ((num.log2 : Int) - den.log2 - 53) (-1074)
    let (a, b) := scaled 2 num den low
    let exponent := if a / b < Nat.pow 2 53 then low else low + 1
    let (a, b) := scaled 2 num den exponent
    let mantissa := roundEven a b
    let (mantissa, exponent) :=
      if mantissa = Nat.pow 2 53 then (Nat.pow 2 52, exponent + 1) else (mantissa, exponent)
    if 971 < exponent then infinite negative else finite negative mantissa exponent

/-- How many decimal digits a whole number has. -/
def digitCount (n : Nat) : Nat := (toString n).length

/-- The number nearest to `digits · 10 ^ exponent`.  Beyond the range on either side the exponent
is not raised to a power. -/
def ofDecimal (negative : Bool) (digits : Nat) (exponent : Int) : Binary64 :=
  let magnitude := (digitCount digits : Int) + exponent
  if digits = 0 || magnitude < -330 then zero negative
  else if 310 < magnitude then infinite negative
  else if 0 ≤ exponent then ofRatio negative (digits * Nat.pow 10 exponent.toNat) 1
  else ofRatio negative digits (Nat.pow 10 (-exponent).toNat)

/-! ## The shortest decimal -/

/-- Whether `candidate · 10 ^ place` reads back as `mantissa · 2 ^ exponent`: it lies between the
midpoints to the two neighbours, the midpoints themselves counting for an even mantissa. -/
def readsBack (mantissa : Nat) (exponent : Int) (candidate : Nat) (place : Int) : Bool :=
  let below := if mantissa = Nat.pow 2 52 && exponent ≠ -1074 then 1 else 2
  -- both sides of each comparison are taken times four and over one denominator
  let (a, b) := scaled 10 1 1 (-place)
  let (c, d) := scaled 2 1 1 (-exponent)
  let x := 4 * candidate * a * d
  let low := (4 * mantissa - below) * c * b
  let high := (4 * mantissa + 2) * c * b
  if mantissa % 2 = 0 then low ≤ x && x ≤ high else low < x && x < high

/-- The place of the leading decimal digit of `num / den`: the exponent of its power of ten. -/
def leadingPlace (num den : Nat) : Int :=
  if den ≤ num then (digitCount (num / den) : Int) - 1 else -(digitCount (den / num) : Int)

/-- The decimal on the grid of the given place that reads back and is nearer, if one does. -/
def onGrid? (mantissa : Nat) (exponent place : Int) (num den : Nat) : Option (Nat × Int) :=
  let (a, b) := scaled 10 num den place
  let below := a / b
  let nearer := roundEven a b
  let further := if nearer = below then below + 1 else below
  if readsBack mantissa exponent nearer place then some (nearer, place)
  else if readsBack mantissa exponent further place then some (further, place)
  else none

/-- A decimal without its trailing zeros. -/
def stripZeros : Nat → Nat × Int → Nat × Int
  | 0, d => d
  | fuel + 1, (digits, place) =>
    if digits ≠ 0 && digits % 10 = 0 then stripZeros fuel (digits / 10, place + 1)
    else (digits, place)

/-- The shortest decimal `digits · 10 ^ place` that reads back as `mantissa · 2 ^ exponent`. -/
def shortest (mantissa : Nat) (exponent : Int) : Nat × Int :=
  let (num, den) := scaled 2 mantissa 1 (-exponent)
  let lead := leadingPlace num den
  let found := (List.range 17).findSome? fun (n : Nat) =>
    onGrid? mantissa exponent (lead - n) num den
  stripZeros 20 (found.getD (0, 0))

/-! ## Writing -/

/-- A finite number in decimal: positional from a ten-thousandth up to sixteen places, with an
exponent of at least two digits outside; a whole number keeps one digit after the point. -/
def finiteText (negative : Bool) (mantissa : Nat) (exponent : Int) : String :=
  let sign := if negative then "-" else ""
  if mantissa = 0 then sign ++ "0.0"
  else
    let (value, place) := shortest mantissa exponent
    let digits := (toString value).toList
    let point : Int := place + digits.length
    let body : List Char :=
      if -4 < point && point ≤ 16 then
        if point ≤ 0 then "0.".toList ++ List.replicate (-point).toNat '0' ++ digits
        else if digits.length ≤ point.toNat then
          digits ++ List.replicate (point.toNat - digits.length) '0' ++ ".0".toList
        else digits.take point.toNat ++ '.' :: digits.drop point.toNat
      else
        let power := point - 1
        let mark := if power < 0 then "e-" else "e+"
        let size := (toString power.natAbs).toList
        let size := if size.length < 2 then '0' :: size else size
        (match digits with
          | [] => []
          | [d] => [d]
          | d :: rest => d :: '.' :: rest) ++ mark.toList ++ size
    sign ++ String.ofList body

end Binary64

end CatalogTypes
