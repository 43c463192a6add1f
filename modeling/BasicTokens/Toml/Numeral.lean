import BasicTokens.Toml.Quoted

/-!
# Toml/Numeral — integers and floating-point numbers

Single underscores may stand between digits.  Integers have 64 bits with sign; a floating-point
number is the nearest of 64 bits.  Beyond the greatest of these a negative number is minus infinity,
and a positive one is refused.
-/

namespace BasicTokens

namespace Toml

namespace Numeral

open Reader

/-- Digits with single underscores between them; the underscores are dropped. -/
def digits (isDigit : Char → Bool) : Reader Text := do
  let first ← satisfying isDigit
  let others ← many (satisfying isDigit <|> (do char '_'; satisfying isDigit))
  return first :: others

/-- Decimal digits that do not begin with a zero, or the zero alone. -/
def whole : Reader Text := do
  match ← ahead with
  | '0' :: _ =>
    modify Cursor.advance
    return ['0']
  | _ => digits Char.isDigit

/-- Whether a minus sign is in front; a plus sign is read over. -/
def negative : Reader Bool := do
  match ← optional (satisfying fun c => c == '+' || c == '-') with
  | some '-' => return true
  | _ => return false

/-- The number that digits in a base spell. -/
def value (base : Nat) (digits : Text) : Nat :=
  digits.foldl (fun value digit => base * value + (Quoted.hexDigit? digit).getD 0) 0

/-- Digits in a base other than ten, after the mark for it. -/
def inBase (mark : Char) (base : Nat) : Reader Int := do
  exactly ['0', mark]
  let written ← digits fun c => (Quoted.hexDigit? c).any (· < base)
  return value base written

/-- Decimal digits with a sign. -/
def decimal : Reader Int := do
  let isNegative ← negative
  let n : Int := value 10 (← whole)
  return if isNegative then -n else n

/-- An integer of 64 bits. -/
def integer : Reader Int := do
  let n ← inBase 'x' 16 <|> inBase 'o' 8 <|> inBase 'b' 2 <|> decimal
  guard (-0x8000000000000000 ≤ n && n < 0x8000000000000000)
  return n

/-- The floating-point number nearest to `m * 10 ^ e`.  Far outside the range of such numbers the
power of ten is not computed. -/
def nearestFloat (m : Nat) (e : Int) : Float :=
  let leading : Int := (Text.decimal m).length + e
  if m = 0 || leading < -400 then 0.0
  else if 400 < leading then Float.ofScientific 1 false 400
  else Float.ofScientific m (e < 0) e.natAbs

/-- The digits after a decimal point. -/
def fraction : Reader Text := do
  char '.'
  digits Char.isDigit

/-- A power of ten. -/
def exponent : Reader Int := do
  let _ ← satisfying fun c => c == 'e' || c == 'E'
  let isNegative ← negative
  let n : Int := value 10 (← digits Char.isDigit)
  return if isNegative then -n else n

/-- A number with a fraction, a power of ten, or both.  Only a negative one may be infinite. -/
def scientific : Reader Float := do
  let isNegative ← negative
  let integral ← whole
  let places ← optional fraction
  let power ← optional exponent
  guard (places.isSome || power.isSome)
  let places := places.getD []
  let x := nearestFloat (value 10 (integral ++ places)) (power.getD 0 - places.length)
  guard (x.isFinite || isNegative)
  return if isNegative then -x else x

/-- Infinity or no number, with a sign if there is one. -/
def special : Reader Float := do
  let isNegative ← negative
  let x ← (do exactly "inf".toList; return Float.ofBits 0x7ff0000000000000)
    <|> (do exactly "nan".toList; return Float.ofBits 0x7ff8000000000000)
  return if isNegative then -x else x

/-- A floating-point number. -/
def float : Reader Float := scientific <|> special

end Numeral

end Toml

end BasicTokens
