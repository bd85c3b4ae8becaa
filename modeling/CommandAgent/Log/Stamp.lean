/-!
# Time stamps

A moment as the log writes it: date and time in universal time, the fraction of the second in as few
groups of three digits as it needs, and the offset zero. The date comes from the number of days
since the beginning of 1970, counted in eras of 400 years that begin in March, so that a leap day is
the last day of its year.
-/

namespace CommandAgent.Stamp

structure Date where
  year : Nat
  month : Nat
  day : Nat
deriving DecidableEq, Repr

/-- The days from the first of March of the year 0 to the beginning of 1970. -/
def daysBefore1970 : Nat := 719468

/-- The days of an era, which has 400 years. -/
def daysOfEra : Nat := 146097

/-- The date so many days after the beginning of 1970. -/
def Date.ofDays (days : Nat) : Date :=
  let shifted := days + daysBefore1970
  let era := shifted / daysOfEra
  let day := shifted % daysOfEra
  let year := (day - day / 1460 + day / 36524 - day / 146096) / 365
  let dayOfYear := day - (365 * year + year / 4 - year / 100)
  let month := (5 * dayOfYear + 2) / 153
  let dayOfMonth := dayOfYear - (153 * month + 2) / 5 + 1
  { year := era * 400 + year + if month ≥ 10 then 1 else 0
    month := if month < 10 then month + 3 else month - 9
    day := dayOfMonth }

/-- A number with at least so many digits. -/
def digits (width n : Nat) : String :=
  let text := toString n
  String.ofList (List.replicate (width - text.length) '0') ++ text

/-- The fraction of a second, given in billionths. -/
def fraction (nanoseconds : Nat) : String :=
  if nanoseconds = 0 then ""
  else if nanoseconds % 1000000 = 0 then "." ++ digits 3 (nanoseconds / 1000000)
  else if nanoseconds % 1000 = 0 then "." ++ digits 6 (nanoseconds / 1000)
  else "." ++ digits 9 nanoseconds

/-- The text of the moment so many seconds after the beginning of 1970. -/
def text (seconds nanoseconds : Nat) : String :=
  let date := Date.ofDays (seconds / 86400)
  let time := seconds % 86400
  digits 4 date.year ++ "-" ++ digits 2 date.month ++ "-" ++ digits 2 date.day ++ "T"
    ++ digits 2 (time / 3600) ++ ":" ++ digits 2 (time / 60 % 60) ++ ":" ++ digits 2 (time % 60)
    ++ fraction nanoseconds ++ "+00:00"

example : Date.ofDays 0 = ⟨1970, 1, 1⟩ := by decide
example : Date.ofDays 19782 = ⟨2024, 2, 29⟩ := by decide
example : Date.ofDays 11016 = ⟨2000, 2, 29⟩ := by decide

end CommandAgent.Stamp
