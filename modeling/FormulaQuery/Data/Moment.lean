/-
  FormulaQuery/Data/Moment.lean
  =============================
  **Dates and points in time.**  A moment is a date, or a date with a time of day
  that may tell how far its clock is ahead.  Moments whose clocks are known are
  equal if they are the same instant.
-/

namespace FormulaQuery

structure ClockTime where
  hour : Nat
  minute : Nat
  second : Nat
  /-- Millionths of a second. -/
  part : Nat
  deriving DecidableEq, Repr

structure Moment where
  year : Nat
  month : Nat
  day : Nat
  time : Option ClockTime := none
  /-- The minutes by which the clock is ahead. -/
  zone : Option Int := none
  deriving DecidableEq, Repr

namespace Moment

/-! ### Existence -/

def isLeap (year : Nat) : Bool := year % 4 == 0 && (year % 100 != 0 || year % 400 == 0)

def daysIn (year month : Nat) : Nat :=
  if month = 2 then if isLeap year then 29 else 28
  else if [4, 6, 9, 11].contains month then 30
  else 31

/-- A duration in minutes, in days and seconds; what is zero is left out. -/
def duration (minutes : Int) : String :=
  let days := minutes / 1440
  let seconds := minutes % 1440 * 60
  let parts :=
    (if days = 0 then [] else ["days=" ++ toString days]) ++
    (if seconds = 0 then [] else ["seconds=" ++ toString seconds])
  "datetime.timedelta(" ++ (if parts.isEmpty then "0" else ", ".intercalate parts) ++ ")"

def fault? (m : Moment) : Option String :=
  let t := m.time.getD ⟨0, 0, 0, 0⟩
  let offset := m.zone.getD 0
  if 1440 ≤ offset.natAbs then
    some ("offset must be a timedelta strictly between -timedelta(hours=24) and " ++
      "timedelta(hours=24), not " ++ duration offset ++ ".")
  else if m.year = 0 then some ("year " ++ toString m.year ++ " is out of range")
  else if m.month = 0 ∨ 12 < m.month then some "month must be in 1..12"
  else if m.day = 0 ∨ daysIn m.year m.month < m.day then some "day is out of range for month"
  else if 23 < t.hour then some "hour must be in 0..23"
  else if 59 < t.minute then some "minute must be in 0..59"
  else if 59 < t.second then some "second must be in 0..59"
  else none

/-! ### Equality -/

def dayNumber (m : Moment) : Nat :=
  let y := m.year - 1
  365 * y + y / 4 - y / 100 + y / 400 +
    ((List.range (m.month - 1)).map fun i => daysIn m.year (i + 1)).foldl (· + ·) 0 + m.day

/-- The millionths of a second up to a point in time, by its own clock. -/
def ticks (m : Moment) (t : ClockTime) : Nat :=
  (((m.dayNumber * 24 + t.hour) * 60 + t.minute) * 60 + t.second) * 1000000 + t.part

/-- Whether two moments are equal: points in time are compared as instants if both
    tell how far their clocks are ahead. -/
def same (a b : Moment) : Bool :=
  match a.time, a.zone, b.time, b.zone with
  | some s, some x, some t, some y =>
    Int.ofNat (a.ticks s) - x * 60000000 == Int.ofNat (b.ticks t) - y * 60000000
  | _, _, _, _ => a == b

/-! ### Writing -/

def padded (width n : Nat) : String :=
  let digits := toString n
  String.ofList (List.replicate (width - digits.length) '0') ++ digits

def renderZone (minutes : Int) : String :=
  (if minutes < 0 then "-" else "+") ++ padded 2 (minutes.natAbs / 60) ++ ":" ++
    padded 2 (minutes.natAbs % 60)

def render (m : Moment) : String :=
  padded 4 m.year ++ "-" ++ padded 2 m.month ++ "-" ++ padded 2 m.day ++
  match m.time with
  | none => ""
  | some t =>
    " " ++ padded 2 t.hour ++ ":" ++ padded 2 t.minute ++ ":" ++ padded 2 t.second ++
      (if t.part = 0 then "" else "." ++ padded 6 t.part) ++
      (m.zone.map renderZone).getD ""

/-- The numbers of a time of day, without seconds and millionths that are zero. -/
def clockNumbers (t : ClockTime) : List Nat :=
  if t.part ≠ 0 then [t.hour, t.minute, t.second, t.part]
  else if t.second ≠ 0 then [t.hour, t.minute, t.second]
  else [t.hour, t.minute]

def zonePart (minutes : Int) : String :=
  "tzinfo=datetime.timezone" ++
    (if minutes = 0 then ".utc" else "(" ++ duration minutes ++ ")")

/-- A moment by its parts, as it stands inside a list. -/
def inner (m : Moment) : String :=
  let date := [m.year, m.month, m.day].map (toString : Nat → String)
  match m.time with
  | none => "datetime.date(" ++ ", ".intercalate date ++ ")"
  | some t =>
    "datetime.datetime(" ++
      ", ".intercalate (date ++ (clockNumbers t).map (toString : Nat → String) ++
        (m.zone.map zonePart).toList) ++ ")"

end Moment

end FormulaQuery
