import Postmortem.Number.Binary64

/-!
# Decimal forms of binary numbers

The shortest decimal that reads back as a number, and decimals with a fixed number of places. The
forms are for people (`positional`) and for data files (`literal`); they differ in when they use
an exponent and in how they mark whole numbers.
-/

namespace Postmortem

/-- A decimal `digits * 10 ^ power`. -/
structure Decimal where
  digits : Nat
  power : Int
deriving DecidableEq, Repr

namespace Decimal

/-- The number of decimal digits. -/
def digitCount (n : Nat) : Nat := (Nat.toDigits 10 n).length

/-- The least `k` with `num / den < 10 ^ k`, for a positive quotient. -/
def leadingPower (num den : Nat) : Int :=
  if den ≤ num then digitCount (num / den)
  else 1 - (digitCount ((den + num - 1) / num - 1) : Int)

/-- The decimal without trailing zeros among its digits. -/
def strip (d : Decimal) : Decimal :=
  let zeros := ((Nat.toDigits 10 d.digits).reverse.takeWhile (· == '0')).length
  if d.digits = 0 then d else ⟨d.digits / Nat.pow 10 zeros, d.power + zeros⟩

/-- The part of the number line that rounds to one number: everything between two quotients with
a common denominator, with or without its ends. -/
structure Interval where
  low : Nat
  value : Nat
  high : Nat
  den : Nat
  closed : Bool

/-- Whether a quotient lies in the interval. -/
def Interval.contains (i : Interval) (num den : Nat) : Bool :=
  let n := num * i.den
  if i.closed then decide (i.low * den ≤ n ∧ n ≤ i.high * den)
  else decide (i.low * den < n ∧ n < i.high * den)

/-- Of the two neighbours of the interval's value among the multiples of `10 ^ power`, the nearest
that lies in the interval. -/
def neighbour? (i : Interval) (power : Int) : Option Decimal :=
  -- multiples of `down / up`
  let up := Nat.pow 10 (-power).toNat
  let down := Nat.pow 10 power.toNat
  let lower := i.value * up / (i.den * down)
  let gapBelow := i.value * up - lower * (i.den * down)
  let gapAbove := (lower + 1) * (i.den * down) - i.value * up
  let hitsBelow := i.contains (lower * down) up
  let hitsAbove := i.contains ((lower + 1) * down) up
  let prefersBelow := gapBelow < gapAbove || (gapBelow == gapAbove && lower % 2 == 0)
  if hitsBelow && (!hitsAbove || prefersBelow) then some ⟨lower, power⟩
  else if hitsAbove then some ⟨lower + 1, power⟩
  else none

/-- The decimal with the fewest digits in an interval, out of those with at most 17. -/
def shortestIn (i : Interval) : Decimal :=
  let top := leadingPower i.value i.den
  let found := (List.range 17).findSome? fun (n : Nat) => neighbour? i (top - (n + 1))
  strip (found.getD ⟨0, 0⟩)

/-- The digits with `places` of them behind the point. -/
def withPoint (digits places : Nat) : String :=
  if places = 0 then toString digits
  else
    let ds := Nat.toDigits 10 digits
    let padded := List.replicate (places + 1 - ds.length) '0' ++ ds
    let whole := padded.length - places
    .ofList (padded.take whole ++ '.' :: padded.drop whole)

/-- The decimal without an exponent. -/
def positional (d : Decimal) : String :=
  if 0 ≤ d.power then toString (d.digits * Nat.pow 10 d.power.toNat)
  else withPoint d.digits (-d.power).toNat

/-- The decimal with one digit in front of the point and an exponent. -/
def scientific (d : Decimal) : String :=
  let places := digitCount d.digits - 1
  s!"{withPoint d.digits places}e{d.power + places}"

end Decimal

namespace Binary64

/-- Decimals of a greater order of magnitude round to an infinity, and those of a smaller one to
zero. -/
def extremePower : Nat := 400

/-- The number nearest to a decimal. -/
def ofDecimal (negative : Bool) (d : Decimal) : Binary64 :=
  let leading := d.power + Decimal.digitCount d.digits
  if d.digits = 0 ∨ leading < -extremePower then make negative 0
  else if extremePower < leading then infinity negative
  else ofRatio negative (d.digits * Nat.pow 10 d.power.toNat) (Nat.pow 10 (-d.power).toNat)

/-- The numbers that round to a finite number other than zero, in multiples of `2 ^ -1076`. -/
def interval (x : Binary64) : Decimal.Interval :=
  let (significand, exponent) := x.parts
  let unit := 1 <<< exponent
  let value := 4 * x.scaledAbs
  let below := if significand = 2 ^ 52 ∧ 0 < exponent then unit else 2 * unit
  { low := value - below, value, high := value + 2 * unit, den := 2 ^ 1076
    closed := significand % 2 = 0 }

/-- The shortest decimal that reads back as the absolute value of a finite number. -/
def shortest (x : Binary64) : Decimal :=
  if x.magnitude = 0 then ⟨0, 0⟩ else Decimal.shortestIn x.interval

/-- The sign of a number in front of a text. -/
def signed (x : Binary64) (text : String) : String := if x.isNegative then "-" ++ text else text

/-- The form for people: never an exponent, and no point in whole numbers. -/
def positional (x : Binary64) : String :=
  if x.isNaN then "NaN"
  else if x.isFinite then x.signed x.shortest.positional
  else x.signed "inf"

/-- The form in data files, which have no infinities: an exponent outside of `10 ^ -5` up to
`10 ^ 16`, and whole numbers end in `.0`. -/
def literal (x : Binary64) : String :=
  if !x.isFinite then "null"
  else
    let d := x.shortest
    let leading : Int := d.power + Decimal.digitCount d.digits
    if d.digits = 0 then x.signed "0.0"
    else if 0 ≤ d.power ∧ leading ≤ 16 then x.signed (d.positional ++ ".0")
    else if -5 < leading ∧ leading ≤ 16 then x.signed d.positional
    else x.signed d.scientific

/-- One place behind the point, a tie going to the even digit, with a sign that is always
printed. -/
def onePlaceSigned (x : Binary64) : String :=
  if x.isNaN then "NaN"
  else
    let sign := if x.isNegative then "-" else "+"
    if x.isFinite then
      sign ++ Decimal.withPoint (roundDiv (x.scaledAbs * 10) (2 ^ 1074)) 1
    else sign ++ "inf"

end Binary64

end Postmortem
