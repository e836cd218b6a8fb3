import Typescribe.Text.Digits
/-!
# Dates and times

The four forms of a moment: a date, a time of day, both with `T` or a space between them, and
both with an offset from universal time. Every part has to be in its range; a minute may have a
leap second.
-/
set_option autoImplicit false

namespace Typescribe.Toml

def inRange (least greatest : Nat) (digits : List Char) : Bool :=
  (Text.numberOfDigits? 10 digits).any fun number => least ≤ number && number ≤ greatest

def isLeapYear (year : Nat) : Bool := year % 4 = 0 && (year % 100 ≠ 0 || year % 400 = 0)

def daysInMonth (year month : Nat) : Nat :=
  if month = 2 then if isLeapYear year then 29 else 28
  else if month = 4 || month = 6 || month = 9 || month = 11 then 30
  else 31

def isDate : List Char → Bool
  | [y1, y2, y3, y4, '-', m1, m2, '-', d1, d2] =>
    match Text.numberOfDigits? 10 [y1, y2, y3, y4], Text.numberOfDigits? 10 [m1, m2] with
    | some year, some month =>
      1 ≤ month && month ≤ 12 && inRange 1 (daysInMonth year month) [d1, d2]
    | _, _ => false
  | _ => false

def isTimeOfDay : List Char → Bool
  | h1 :: h2 :: ':' :: m1 :: m2 :: ':' :: s1 :: s2 :: fraction =>
    inRange 0 23 [h1, h2] && inRange 0 59 [m1, m2] && inRange 0 60 [s1, s2] &&
      match fraction with
      | [] => true
      | '.' :: digits => !digits.isEmpty && digits.all Char.isDigit
      | _ => false
  | _ => false

/-- The offset may be absent. -/
def isOffset : List Char → Bool
  | [] | ['Z'] | ['z'] => true
  | [sign, h1, h2, ':', m1, m2] =>
    (sign = '+' || sign = '-') && inRange 0 23 [h1, h2] && inRange 0 59 [m1, m2]
  | _ => false

def isTimeWithOffset (text : List Char) : Bool :=
  let inTime (letter : Char) : Bool := letter.isDigit || letter = ':' || letter = '.'
  isTimeOfDay (text.takeWhile inTime) && isOffset (text.dropWhile inTime)

def isMoment (text : List Char) : Bool :=
  isDate text || isTimeOfDay text ||
    (isDate (text.take 10) &&
      match text.drop 10 with
      | between :: time =>
        (between = 'T' || between = 't' || between = ' ') && isTimeWithOffset time
      | [] => false)

end Typescribe.Toml
