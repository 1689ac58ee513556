import TypedPrefs.Text.Pieces

/-!
# Dates and times

A date, a time, or both with an offset from universal time. Seconds may be left out when a time is
written; they are then zero. Fractions of a second are kept to nine digits.
-/

namespace TypedPrefs.Document

/-- A day of the calendar. -/
structure Date where
  year : Nat
  month : Nat
  day : Nat
  deriving Repr, DecidableEq

/-- A time of the day. -/
structure Time where
  hour : Nat
  minute : Nat
  second : Nat
  nanosecond : Nat
  deriving Repr, DecidableEq

/-- A distance from universal time. -/
inductive Offset where
  /-- Universal time itself. -/
  | zulu
  /-- So many minutes ahead of it. -/
  | minutes (n : Int)
  deriving Repr, DecidableEq

/-- A date, a time, or both. -/
inductive Datetime where
  | date (date : Date)
  | time (time : Time)
  | moment (date : Date) (time : Time) (offset : Option Offset)
  deriving Repr, DecidableEq

/-- Whether a year has a leap day. -/
def isLeapYear (year : Nat) : Bool :=
  year % 4 = 0 && (year % 100 ≠ 0 || year % 400 = 0)

/-- The number of days in a month. -/
def daysInMonth (year month : Nat) : Nat :=
  if month = 2 then if isLeapYear year then 29 else 28
  else if [4, 6, 9, 11].contains month then 30
  else 31

namespace Datetime

/-- The number that digits spell. -/
def number (digits : List Char) : Nat :=
  digits.foldl (fun n c => 10 * n + (c.toNat - 48)) 0

/-- Exactly `n` digits, and what follows them. -/
def digits? (n : Nat) (s : List Char) : Option (Nat × List Char) :=
  let digits := s.take n
  if digits.length = n && digits.all Char.isDigit then some (number digits, s.drop n) else none

/-- What follows one given character. -/
def mark? (c : Char) : List Char → Option (List Char)
  | d :: rest => if d = c then some rest else none
  | [] => none

/-- A date. -/
def date? (s : List Char) : Option (Date × List Char) := do
  let (year, s) ← digits? 4 s
  let (month, s) ← digits? 2 (← mark? '-' s)
  let (day, s) ← digits? 2 (← mark? '-' s)
  if 1 ≤ month && month ≤ 12 && 1 ≤ day && day ≤ daysInMonth year month then
    some (⟨year, month, day⟩, s)
  else none

/-- The nanoseconds that the digits of a fraction amount to. -/
def nanoseconds (digits : List Char) : Nat :=
  let known := digits.take 9
  number known * Nat.pow 10 (9 - known.length)

/-- The fraction of a second, if there is one. -/
def fraction? (s : List Char) : Option (Nat × List Char) :=
  match s with
  | '.' :: rest =>
    let digits := rest.takeWhile Char.isDigit
    if digits.isEmpty then none else some (nanoseconds digits, rest.drop digits.length)
  | _ => some (0, s)

/-- The seconds of a time with their fraction, if they are there. -/
def seconds? (s : List Char) : Option (Nat × Nat × List Char) :=
  match s with
  | ':' :: rest => do
    let (second, rest) ← digits? 2 rest
    let (nanosecond, rest) ← fraction? rest
    some (second, nanosecond, rest)
  | _ => some (0, 0, s)

/-- A time. The sixtieth second exists for leap seconds. -/
def time? (s : List Char) : Option (Time × List Char) := do
  let (hour, s) ← digits? 2 s
  let (minute, s) ← digits? 2 (← mark? ':' s)
  let (second, nanosecond, s) ← seconds? s
  if hour ≤ 23 && minute ≤ 59 && second ≤ 60 then some (⟨hour, minute, second, nanosecond⟩, s)
  else none

/-- An offset, if there is one. -/
def offset? (s : List Char) : Option (Option Offset × List Char) :=
  match s with
  | [] => some (none, [])
  | c :: rest =>
    if c = 'Z' || c = 'z' then some (some .zulu, rest)
    else if c = '+' || c = '-' then do
      let (hours, rest) ← digits? 2 rest
      let (minutes, rest) ← digits? 2 (← mark? ':' rest)
      let total : Int := (60 * hours + minutes : Nat)
      if hours ≤ 23 && minutes ≤ 59 then
        some (some (.minutes (if c = '-' then -total else total)), rest)
      else none
    else some (none, s)

/-- A date and a time with a separator between them. -/
def moment? (s : List Char) : Option (Datetime × List Char) := do
  let (d, s) ← date? s
  match s with
  | c :: rest =>
    if c = 'T' || c = 't' || c = ' ' then do
      let (t, rest) ← time? rest
      let (offset, rest) ← offset? rest
      some (.moment d t offset, rest)
    else none
  | [] => none

/-- The date, time or moment that all of the characters spell. -/
def parse? (s : List Char) : Option Datetime :=
  match moment? s, date? s, time? s with
  | some (t, []), _, _ => some t
  | _, some (d, []), _ => some (.date d)
  | _, _, some (t, []) => some (.time t)
  | _, _, _ => none

/-- A number with zeros in front of it up to the given width. -/
def padded (width n : Nat) : List Char :=
  let digits := Nat.toDigits 10 n
  List.replicate (width - digits.length) '0' ++ digits

/-- A date as text. -/
def dateChars (d : Date) : List Char :=
  padded 4 d.year ++ '-' :: padded 2 d.month ++ '-' :: padded 2 d.day

/-- A fraction of a second as text, without zeros at its end. -/
def fractionChars (nanosecond : Nat) : List Char :=
  if nanosecond = 0 then []
  else '.' :: ((padded 9 nanosecond).reverse.dropWhile (· == '0')).reverse

/-- A time as text. -/
def timeChars (t : Time) : List Char :=
  padded 2 t.hour ++ ':' :: padded 2 t.minute ++ ':' :: padded 2 t.second ++
    fractionChars t.nanosecond

/-- An offset as text. -/
def offsetChars : Offset → List Char
  | .zulu => ['Z']
  | .minutes n =>
    (if n < 0 then '-' else '+') :: padded 2 (n.natAbs / 60) ++ ':' :: padded 2 (n.natAbs % 60)

/-- A date, time or moment as text. -/
def text : Datetime → String
  | .date d => String.ofList (dateChars d)
  | .time t => String.ofList (timeChars t)
  | .moment d t offset =>
    String.ofList (dateChars d ++ 'T' :: timeChars t ++ (offset.map offsetChars).getD [])

end Datetime

end TypedPrefs.Document
