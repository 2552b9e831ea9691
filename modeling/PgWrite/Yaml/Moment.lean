import PgWrite.Text.Scan

/-!
# Moments

A date, perhaps with a time of the day and the distance of that time from world time. Two
moments are the same if their parts are, or if both have a distance from world time and fall
on the same instant.
-/

namespace PgWrite.Yaml

/-- A time of the day. -/
structure Clock where
  hour : Nat
  minute : Nat
  second : Nat
  microsecond : Nat
  /-- The distance from world time in minutes. -/
  zone : Option Int
  deriving DecidableEq, Repr

/-- A date with an optional time, in its parts. -/
structure Moment where
  year : Nat
  month : Nat
  day : Nat
  clock : Option Clock
  deriving DecidableEq, Repr

/-- Text without a line break at its end; a line break alone stays. -/
def withoutLastBreak (text : List Char) : List Char :=
  if 1 < text.length && text.getLast? = some '\n' then text.dropLast else text

/-- Reads from `least` to `most` digits. -/
def readDigitRun? (least most : Nat) (text : List Char) : Option (List Char × List Char) :=
  let digits := (text.take most).takeWhile Char.isDigit
  if digits.length < least then none else some (digits, text.drop digits.length)

/-- Reads a given character. -/
def readMark? (mark : Char) : List Char → Option (List Char)
  | c :: rest => if c = mark then some rest else none
  | [] => none

/-- Drops blanks and tabs. -/
def dropBlanks (text : List Char) : List Char :=
  text.dropWhile fun c => c = ' ' || c = '\t'

/-- The number of microseconds that the digits behind a point stand for. -/
def microseconds (digits : List Char) : Nat :=
  let kept := digits.take 6
  Text.digitsValue (kept ++ List.replicate (6 - kept.length) '0')

namespace Clock

/-- The distance from world time at the end of a moment; a text without one gives none. -/
def readZone? (text : List Char) : Option (Option Int) :=
  match text with
  | [] => some none
  | _ => match dropBlanks text with
    | ['Z'] => some (some 0)
    | sign :: rest => do
      if sign ≠ '+' && sign ≠ '-' then none
      let (hours, rest) ← readDigitRun? 1 2 rest
      let minutes ← match rest with
        | [] => some []
        | ':' :: rest => do
          let (minutes, rest) ← readDigitRun? 2 2 rest
          if rest.isEmpty then some minutes else none
        | _ => none
      let distance : Int := (Text.digitsValue hours * 60 + Text.digitsValue minutes : Nat)
      return some (if sign = '-' then -distance else distance)
    | [] => none

/-- Reads a time up to the end of the text. -/
def read? (text : List Char) : Option Clock := do
  let rest ← match text with
    | c :: rest =>
      if c = 'T' || c = 't' then some rest
      else if c = ' ' || c = '\t' then some (dropBlanks rest)
      else none
    | [] => none
  let (hour, rest) ← readDigitRun? 1 2 rest
  let (minute, rest) ← readDigitRun? 2 2 (← readMark? ':' rest)
  let (second, rest) ← readDigitRun? 2 2 (← readMark? ':' rest)
  let (fraction, rest) := match rest with
    | '.' :: rest => (rest.takeWhile Char.isDigit, rest.dropWhile Char.isDigit)
    | _ => ([], rest)
  let zone ← readZone? rest
  return {
    hour := Text.digitsValue hour, minute := Text.digitsValue minute
    second := Text.digitsValue second, microsecond := microseconds fraction, zone }

/-- The parts of a time are in range. -/
def isValid (c : Clock) : Bool :=
  c.hour < 24 && c.minute < 60 && c.second < 60
    && c.zone.all fun distance => distance.natAbs < 24 * 60

end Clock

namespace Moment

/-- A moment, by its written form. -/
def read? (text : List Char) : Option Moment := do
  let (year, rest) ← readDigitRun? 4 4 text
  let (month, rest) ← readDigitRun? 1 2 (← readMark? '-' rest)
  let (day, rest) ← readDigitRun? 1 2 (← readMark? '-' rest)
  let clock ← match rest with
    | [] => some none
    | _ => (Clock.read? rest).map some
  return {
    year := Text.digitsValue year, month := Text.digitsValue month, day := Text.digitsValue day
    clock }

/-- A year with a day more in February. -/
def isLeap (year : Nat) : Bool :=
  year % 4 = 0 && (year % 100 ≠ 0 || year % 400 = 0)

/-- The days of a month. -/
def daysIn (year month : Nat) : Nat :=
  if month = 2 then if isLeap year then 29 else 28
  else if [4, 6, 9, 11].contains month then 30
  else 31

/-- The parts of a moment are in range. -/
def isValid (m : Moment) : Bool :=
  1 ≤ m.year && 1 ≤ m.month && m.month ≤ 12 && 1 ≤ m.day && m.day ≤ daysIn m.year m.month
    && m.clock.all Clock.isValid

/-- The number of a day, counted from the first day of the first year. -/
def dayNumber (m : Moment) : Nat :=
  let past := m.year - 1
  let months := List.range (m.month - 1)
  past * 365 + past / 4 - past / 100 + past / 400
    + months.foldl (fun days month => days + daysIn m.year (month + 1)) 0 + m.day

/-- The microsecond of world time on which a moment with a distance from it falls. -/
def instant? (m : Moment) : Option Int := do
  let clock ← m.clock
  let zone ← clock.zone
  let minutes : Int := m.dayNumber * 1440 + clock.hour * 60 + clock.minute - zone
  return (minutes * 60 + clock.second) * 1000000 + clock.microsecond

/-- Two moments are the same. -/
def same (m n : Moment) : Bool :=
  m = n || (m.instant?.isSome && m.instant? = n.instant?)

end Moment

end PgWrite.Yaml
