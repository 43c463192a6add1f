import BasicTokens.Toml.Numeral

/-!
# Toml/DateTime — dates, times, and both together

Only whether a text is one matters here, and how far it goes: the date must exist in the calendar
and the time on a clock, on which a minute may have a sixty-first second.
-/

namespace BasicTokens

namespace Toml

namespace DateTime

open Reader

/-- A number of exactly `n` decimal digits between two bounds. -/
def field (n low high : Nat) : Reader Nat := do
  let digits := (← ahead).take n
  guard (digits.length == n && digits.all Char.isDigit)
  let value := Numeral.value 10 digits
  guard (low ≤ value && value ≤ high)
  modify (·.forward n)
  return value

/-- The number of days of a month. -/
def daysIn (year month : Nat) : Nat :=
  if month = 2 then
    if year % 4 = 0 && (year % 100 != 0 || year % 400 = 0) then 29 else 28
  else if month = 4 || month = 6 || month = 9 || month = 11 then 30
  else 31

/-- Year, month and day. -/
def date : Reader Unit := do
  let year ← field 4 0 9999
  char '-'
  let month ← field 2 1 12
  char '-'
  let _ ← field 2 1 (daysIn year month)

/-- Hour, minute and second, with a fraction if there is one. -/
def time : Reader Unit := do
  let _ ← field 2 0 23
  char ':'
  let _ ← field 2 0 59
  char ':'
  let _ ← field 2 0 60
  let _ ← optional (do char '.'; takeWhile1 Char.isDigit)

/-- The distance of the clock from universal time. -/
def offset : Reader Unit :=
  (do let _ ← satisfying fun c => c == 'Z' || c == 'z')
    <|> (do
      let _ ← satisfying fun c => c == '+' || c == '-'
      let _ ← field 2 0 23
      char ':'
      let _ ← field 2 0 59)

/-- A date, alone or with a time, or a time alone. -/
def dateTime : Reader Unit :=
  (do
    date
    let _ ← optional do
      let _ ← satisfying fun c => c == 'T' || c == 't' || c == ' '
      time
      optional offset)
    <|> time

end DateTime

end Toml

end BasicTokens
