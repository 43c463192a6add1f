import BasicTokens.Text

/-!
# Decimal/Shortest — the fewest digits that identify a binary number

A binary number with 53 digits stands for all reals nearer to it than to its neighbours.  Its
decimal text is the roundest decimal among these: the multiple of the greatest power of ten, the
nearest one where there are several, the greater one where two are as near.  Everything is counted
in quarters of 10^-1074, of which every such number and every half-way point is a whole multiple.
-/

namespace BasicTokens

namespace Decimal

/-- The reals that read as one number, with that number in the middle. -/
structure Interval where
  low : Nat
  middle : Nat
  high : Nat
  /-- Whether the two ends belong to it. -/
  closed : Bool

namespace Interval

/-- Whether a real lies in the interval. -/
def contains (i : Interval) (n : Nat) : Bool :=
  if i.closed then i.low ≤ n && n ≤ i.high else i.low < n && n < i.high

/-- Which multiple of `step` in the interval is nearest to the middle, of the two around it. -/
def nearest? (i : Interval) (step : Nat) : Option Nat :=
  let below := i.middle / step
  let above := below + 1
  if i.contains (below * step) then
    if i.contains (above * step) && above * step - i.middle ≤ i.middle - below * step then
      some above
    else some below
  else if i.contains (above * step) then some above
  else none

/-- The roundest number of the interval among the multiples of up to `10 ^ n` units, as a number of
digits and the power of ten that it counts. -/
def roundest (i : Interval) : Nat → Nat × Nat
  | 0 => (i.middle / 4, 0)
  | n + 1 =>
    match i.nearest? (4 * Nat.pow 10 (n + 1)) with
    | some digits => (digits, n + 1)
    | none => i.roundest n

/-- The interval of `m * 2 ^ q` units of 2^-1074, for `m` with at most 53 binary digits.  Below a
power of two, where `m` is the least number with 53 digits, the neighbour is half as far away. -/
def ofBinary (m q : Nat) : Interval :=
  let unit := Nat.pow 2 q * Nat.pow 5 1074
  { low := (if m = 0x10000000000000 && q != 0 then 4 * m - 1 else 4 * m - 2) * unit
    middle := 4 * m * unit
    high := (4 * m + 2) * unit
    closed := m % 2 == 0 }

end Interval

/-- A number of digits times a power of ten, counted from 10^-1074, written without an exponent. -/
def positional (digits power : Nat) : Text :=
  let written := Text.decimal digits
  if 1074 ≤ power then written ++ List.replicate (power - 1074) '0'
  else
    let places := 1074 - power
    let padded := written.padStart (places + 1) '0'
    padded.take (padded.length - places) ++ '.' :: padded.drop (padded.length - places)

/-- A binary floating-point number: its sign, then `NaN`, `inf`, or the shortest decimal that
identifies it, without an exponent and with at least one place. -/
def ofFloat (x : Float) : Text :=
  let bits := x.toBits.toNat
  let exponent := bits >>> 52 &&& 0x7ff
  let fraction := bits &&& 0xfffffffffffff
  let sign : Text := if bits >>> 63 = 0 then [] else ['-']
  if exponent = 0x7ff then
    if fraction = 0 then sign ++ "inf".toList else "NaN".toList
  else if exponent = 0 && fraction = 0 then sign ++ "0.0".toList
  else
    let number := if exponent = 0 then Interval.ofBinary fraction 0
      else Interval.ofBinary (0x10000000000000 + fraction) (exponent - 1)
    let (digits, power) := number.roundest 1384
    let written := positional digits power
    sign ++ (if written.contains '.' then written else written ++ ".0".toList)

end Decimal

end BasicTokens
