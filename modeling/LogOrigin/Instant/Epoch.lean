import LogOrigin.Instant

/-!
# Instants by number

The instant that lies so many nanoseconds after the beginning of 1970. A day is found by counting
400-year periods, each of which has the same number of days, from the first of March of year 0, so
that a leap day is the last day of its year.
-/

namespace LogOrigin

/-- The days of 400 years. -/
def Date.daysInPeriod : Int := 146097

/-- The date that lies `days` days after the beginning of 1970. -/
def Date.ofDays (days : Int) : Date :=
  let fromMarch := days + 719468
  let period := fromMarch / daysInPeriod
  let day := (fromMarch % daysInPeriod).toNat
  let year := (day - day / 1460 + day / 36524 - day / 146096) / 365
  let dayOfYear := day - (365 * year + year / 4 - year / 100)
  let month := (5 * dayOfYear + 2) / 153
  let dayOfMonth := dayOfYear - (153 * month + 2) / 5 + 1
  let y : Int := year + period * 400
  if month < 10 then ⟨y, month + 3, dayOfMonth⟩ else ⟨y + 1, month - 9, dayOfMonth⟩

/-- The instant that lies `nanoseconds` nanoseconds after the beginning of 1970. -/
def Instant.ofNanoseconds (nanoseconds : Int) : Instant :=
  let seconds := nanoseconds / 1000000000
  let nano := (nanoseconds % 1000000000).toNat
  let inDay := (seconds % 86400).toNat
  ⟨Date.ofDays (seconds / 86400), ⟨inDay / 3600, inDay / 60 % 60, inDay % 60, nano⟩⟩

end LogOrigin
