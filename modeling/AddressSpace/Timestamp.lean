import AddressSpace.Text.Digits

namespace AddressSpace

structure Timestamp where
  seconds : Int
  nanoseconds : Nat
  deriving DecidableEq, Inhabited

structure Date where
  year : Int
  month : Nat
  day : Nat
  deriving DecidableEq, Repr

/-- The date that lies a number of days after the first of January 1970.  The count starts anew
every 400 years, and years are taken to begin in March so that a leap day is the last of its
year. -/
def Date.ofDays (days : Int) : Date :=
  let shifted := days + 719468
  let era := shifted.fdiv 146097
  let dayOfEra := (shifted.fmod 146097).toNat
  let yearOfEra :=
    (dayOfEra - dayOfEra / 1460 + dayOfEra / 36524 - dayOfEra / 146096) / 365
  let dayOfYear := dayOfEra - (365 * yearOfEra + yearOfEra / 4 - yearOfEra / 100)
  let shiftedMonth := (5 * dayOfYear + 2) / 153
  let day := dayOfYear - (153 * shiftedMonth + 2) / 5 + 1
  let month := if shiftedMonth < 10 then shiftedMonth + 3 else shiftedMonth - 9
  { year := yearOfEra + era * 400 + (if month ≤ 2 then 1 else 0), month, day }

def Date.yearText (year : Int) : String :=
  if 0 ≤ year ∧ year ≤ 9999 then Text.padded 4 year.toNat
  else (if year < 0 then "-" else "+") ++ Text.padded 4 year.natAbs

instance : ToString Date where
  toString date :=
    Date.yearText date.year ++ "-" ++ Text.padded 2 date.month ++ "-" ++ Text.padded 2 date.day

def Timestamp.fractionText (nanoseconds : Nat) : String :=
  if nanoseconds = 0 then ""
  else if nanoseconds % 1000000 = 0 then "." ++ Text.padded 3 (nanoseconds / 1000000)
  else if nanoseconds % 1000 = 0 then "." ++ Text.padded 6 (nanoseconds / 1000)
  else "." ++ Text.padded 9 nanoseconds

instance : ToString Timestamp where
  toString time :=
    let date := Date.ofDays (time.seconds.fdiv 86400)
    let secondOfDay := (time.seconds.fmod 86400).toNat
    let second := secondOfDay % 60 + time.nanoseconds / 1000000000
    toString date ++ "T" ++ Text.padded 2 (secondOfDay / 3600) ++ ":" ++
      Text.padded 2 (secondOfDay / 60 % 60) ++ ":" ++ Text.padded 2 second ++
      Timestamp.fractionText (time.nanoseconds % 1000000000) ++ "+00:00"

end AddressSpace
