import CohortDesk.Instant.Basic
import CohortDesk.Text.Decimal
/-!
# Written instants

The form with a `T` between date and time and a `Z` at the end, with a fraction of 0, 3, 6 or 9
digits as needed, and the shorter form for table cells, which ends with the minute.
-/
namespace CohortDesk

open Text

/-- Years of four digits stand alone, others carry a sign. -/
def Calendar.yearText (year : Int) : List Char :=
  if 0 ≤ year ∧ year ≤ 9999 then padded 4 year.natAbs
  else (if year < 0 then '-' else '+') :: padded 4 year.natAbs

def Date.text (date : Date) : List Char :=
  Calendar.yearText date.year ++ '-' :: padded 2 date.month ++ '-' :: padded 2 date.day

def TimeOfDay.minuteText (time : TimeOfDay) : List Char :=
  padded 2 time.hour ++ ':' :: padded 2 time.minute

def TimeOfDay.fractionText (time : TimeOfDay) : List Char :=
  let fraction := time.fraction
  if fraction = 0 then []
  else if fraction % 1000000 = 0 then '.' :: padded 3 (fraction / 1000000)
  else if fraction % 1000 = 0 then '.' :: padded 6 (fraction / 1000)
  else '.' :: padded 9 fraction

def TimeOfDay.text (time : TimeOfDay) : List Char :=
  time.minuteText ++ ':' :: padded 2 time.shownSecond ++ time.fractionText

def Instant.text (instant : Instant) : List Char :=
  instant.date.text ++ 'T' :: instant.time.text ++ ['Z']

def Instant.cellText (instant : Instant) : List Char :=
  instant.date.text ++ ' ' :: instant.time.minuteText

end CohortDesk
