/-! Days of the calendar, and moments of a day with or without a place on the common time scale. -/
namespace Gatekeeper.Number

structure Clock where
  hour : Nat
  minute : Nat
  second : Nat
  microsecond : Nat
  offset : Option Int
deriving DecidableEq, Repr

structure Moment where
  year : Nat
  month : Nat
  day : Nat
  clock : Option Clock
deriving DecidableEq, Repr

namespace Moment

def isLeap (year : Nat) : Bool :=
  year % 4 == 0 && (year % 100 != 0 || year % 400 == 0)

def daysIn (year month : Nat) : Nat :=
  if month = 2 then if isLeap year then 29 else 28
  else if month = 4 ∨ month = 6 ∨ month = 9 ∨ month = 11 then 30
  else 31

def dayNumber (moment : Moment) : Nat :=
  let years := moment.year - 1
  let months := (List.range (moment.month - 1)).map fun month => daysIn moment.year (month + 1)
  365 * years + years / 4 - years / 100 + years / 400 + months.foldl (· + ·) 0 + moment.day

/-- Where a moment lies on the common time scale, in minutes and what is left of one, if its place
on that scale is known. -/
def instant? (moment : Moment) : Option (Int × Nat × Nat) := do
  let clock ← moment.clock
  let offset ← clock.offset
  let minutes := 1440 * moment.dayNumber + 60 * clock.hour + clock.minute
  return (minutes - offset, clock.second, clock.microsecond)

def same (a b : Moment) : Bool :=
  a == b || (a.instant?.isSome && a.instant? == b.instant?)

def padded (width n : Nat) : String :=
  let digits := Nat.toDigits 10 n
  String.ofList (List.replicate (width - digits.length) '0' ++ digits)

end Moment

def Clock.text (clock : Clock) : String :=
  let part := if clock.microsecond = 0 then "" else "." ++ Moment.padded 6 clock.microsecond
  let zone := match clock.offset with
    | none => ""
    | some offset =>
      (if offset < 0 then "-" else "+") ++ Moment.padded 2 (offset.natAbs / 60) ++ ":" ++
        Moment.padded 2 (offset.natAbs % 60)
  let digits := [clock.hour, clock.minute, clock.second].map (Moment.padded 2)
  ":".intercalate digits ++ part ++ zone

namespace Moment

def span (minutes : Int) : String :=
  let days := minutes.fdiv 1440
  let seconds := minutes.fmod 1440 * 60
  let parts := (if days = 0 then [] else ["days=" ++ toString days]) ++
    (if seconds = 0 then [] else ["seconds=" ++ toString seconds])
  "datetime.timedelta(" ++ (if parts.isEmpty then "0" else ", ".intercalate parts) ++ ")"

def fault? (moment : Moment) : Option String :=
  let clockFault := moment.clock.bind fun clock =>
    if 23 < clock.hour then some "hour must be in 0..23"
    else if 59 < clock.minute then some "minute must be in 0..59"
    else if 59 < clock.second then some "second must be in 0..59"
    else none
  match moment.clock.bind Clock.offset with
  | some offset =>
    if 1440 ≤ offset.natAbs then
      some ("offset must be a timedelta strictly between -timedelta(hours=24) and " ++
        "timedelta(hours=24), not " ++ span offset ++ ".")
    else dayFault <|> clockFault
  | none => dayFault <|> clockFault
where
  dayFault : Option String :=
    if moment.year = 0 then some "year 0 is out of range"
    else if moment.month = 0 ∨ 12 < moment.month then some "month must be in 1..12"
    else if moment.day = 0 ∨ daysIn moment.year moment.month < moment.day then
      some "day is out of range for month"
    else none

def text (moment : Moment) : String :=
  let day := padded 4 moment.year ++ "-" ++ padded 2 moment.month ++ "-" ++ padded 2 moment.day
  match moment.clock with
  | none => day
  | some clock => day ++ " " ++ clock.text

def shown (moment : Moment) : String :=
  let day := [moment.year, moment.month, moment.day]
  match moment.clock with
  | none => "datetime.date(" ++ ", ".intercalate (day.map toString) ++ ")"
  | some clock =>
    let time := if clock.microsecond ≠ 0 then [clock.second, clock.microsecond]
      else if clock.second ≠ 0 then [clock.second] else []
    let zone := match clock.offset with
      | none => []
      | some 0 => ["tzinfo=datetime.timezone.utc"]
      | some offset => ["tzinfo=datetime.timezone(" ++ span offset ++ ")"]
    let fields := (day ++ [clock.hour, clock.minute] ++ time).map toString
    "datetime.datetime(" ++ ", ".intercalate (fields ++ zone) ++ ")"

end Moment

end Gatekeeper.Number
