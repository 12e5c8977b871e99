/-!
# Durations

Times to wait, in milliseconds.
-/

namespace Postmortem

/-- A time to wait. -/
structure Duration where
  milliseconds : Nat
deriving DecidableEq, Repr, Inhabited

namespace Duration

/-- A number of seconds. -/
def ofSeconds (n : Nat) : Duration := ⟨n * 1000⟩

/-- The three digits behind the point of a number of seconds, without trailing zeros. -/
def fractionDigits (milliseconds : Nat) : List Char :=
  let digits := Nat.toDigits 10 milliseconds
  let padded := List.replicate (3 - digits.length) '0' ++ digits
  (padded.reverse.dropWhile (· == '0')).reverse

/-- A duration is printed in the largest unit that it fills. -/
def text (d : Duration) : String :=
  let seconds := d.milliseconds / 1000
  let fraction := fractionDigits (d.milliseconds % 1000)
  if d.milliseconds = 0 then "0ns"
  else if seconds = 0 then s!"{d.milliseconds}ms"
  else if fraction.isEmpty then s!"{seconds}s"
  else s!"{seconds}.{String.ofList fraction}s"

instance : ToString Duration := ⟨text⟩

end Duration

end Postmortem
