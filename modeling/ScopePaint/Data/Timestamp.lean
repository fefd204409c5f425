/-!
Points in time, written like `2020-01-31T12:30:00.5Z`.

A point in time may be written with an offset from universal time; `Timestamp.normalize` writes it
without one, and without needless digits.
-/

set_option autoImplicit false

namespace ScopePaint.Data.Timestamp

/-- Whether a year has a leap day. -/
def isLeap (year : Nat) : Bool := year % 4 == 0 && (year % 100 != 0 || year % 400 == 0)

/-- How many days a month has. -/
def daysOf (year month : Nat) : Nat :=
  match month with
  | 2 => if isLeap year then 29 else 28
  | 4 | 6 | 9 | 11 => 30
  | _ => 31

/-- The number of days before a year, counted from the year 0. -/
def daysBefore (year : Nat) : Nat :=
  year * 365 + (year + 3) / 4 - (year + 99) / 100 + (year + 399) / 400

/-- The number of a day, counted from the year 0. -/
def dayNumber (year month day : Nat) : Nat :=
  daysBefore year + ((List.range (month - 1)).map fun m => daysOf year (m + 1)).foldr (· + ·) 0
    + (day - 1)

/-- The date of a day of a year, by its number in the year. -/
def dateInYear (year : Nat) : Nat → Nat → Nat → Nat × Nat
  | 0, month, day => (month, day + 1)
  | fuel + 1, month, day =>
    if day < daysOf year month then (month, day + 1)
    else dateInYear year fuel (month + 1) (day - daysOf year month)

/-- The year, month and day of the day with a number. -/
def dateOf (number : Nat) : Nat × Nat × Nat :=
  let guess := number * 400 / 146097
  let year := if daysBefore (guess + 1) ≤ number then guess + 1
    else if number < daysBefore guess then guess - 1 else guess
  let (month, day) := dateInYear year 12 1 (number - daysBefore year)
  (year, month, day)

/-- Read a number of exactly `count` digits. -/
def readDigits (count : Nat) (cs : List Char) : Option (Nat × List Char) :=
  let digits := cs.take count
  if digits.length = count ∧ digits.all Char.isDigit then
    some (digits.foldl (fun value c => value * 10 + (c.toNat - '0'.toNat)) 0, cs.drop count)
  else none

/-- Read one of some characters. -/
def readMark (marks : List Char) : List Char → Option (List Char)
  | [] => none
  | c :: rest => if marks.contains c then some rest else none

/-- Read an offset from universal time, in minutes. -/
def readOffset : List Char → Option Int
  | ['Z'] | ['z'] => some 0
  | sign :: rest => do
    let (hours, rest) ← readDigits 2 rest
    let rest ← readMark [':'] rest
    let (minutes, rest) ← readDigits 2 rest
    if rest.isEmpty ∧ hours ≤ 23 ∧ minutes ≤ 59 then
      let offset : Int := hours * 60 + minutes
      if sign = '+' then some offset else if sign = '-' then some (-offset) else none
    else none
  | [] => none

/-- A number with zeros in front. -/
def padded (width n : Nat) : List Char :=
  let digits := Nat.toDigits 10 n
  List.replicate (width - digits.length) '0' ++ digits

/-- The text of a point in time, given by seconds from the start of the year 0 and by the digits of
its fraction. -/
def text (seconds : Nat) (fraction : List Char) : String :=
  let (year, month, day) := dateOf (seconds / 86400)
  let second := seconds % 86400
  let digits := (fraction.take 9).reverse.dropWhile (· == '0') |>.reverse
  String.ofList (padded 4 year ++ '-' :: padded 2 month ++ '-' :: padded 2 day ++ 'T'
    :: padded 2 (second / 3600) ++ ':' :: padded 2 (second / 60 % 60)
    ++ ':' :: padded 2 (second % 60)
    ++ (if digits.isEmpty then [] else '.' :: digits) ++ ['Z'])

/-- Write a point in time in universal time; `none` if the text is none. -/
def normalize (cs : List Char) : Option String := do
  let (year, cs) ← readDigits 4 cs
  let cs ← readMark ['-'] cs
  let (month, cs) ← readDigits 2 cs
  let cs ← readMark ['-'] cs
  let (day, cs) ← readDigits 2 cs
  let cs ← readMark ['T', 't'] cs
  let (hour, cs) ← readDigits 2 cs
  let cs ← readMark [':'] cs
  let (minute, cs) ← readDigits 2 cs
  let cs ← readMark [':'] cs
  let (second, cs) ← readDigits 2 cs
  let (fraction, cs) ← match cs with
    | '.' :: rest =>
      let digits := rest.takeWhile Char.isDigit
      if digits.isEmpty then none else some (digits, rest.drop digits.length)
    | _ => some ([], cs)
  let offset ← readOffset cs
  if 1 ≤ month ∧ month ≤ 12 ∧ 1 ≤ day ∧ day ≤ daysOf year month ∧ hour ≤ 23 ∧ minute ≤ 59
      ∧ second ≤ 59 then
    let local_ : Int := dayNumber year month day * 86400 + hour * 3600 + minute * 60 + second
    let seconds := local_ - offset * 60
    if 0 ≤ seconds then some (text seconds.toNat fraction) else none
  else none

end ScopePaint.Data.Timestamp
