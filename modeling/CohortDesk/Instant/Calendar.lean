/-!
# Dates of the Gregorian calendar

Dates between the first and the last year the calendar covers, and the days next to a date.
-/
namespace CohortDesk

namespace Calendar

def firstYear : Int := -262143
def lastYear : Int := 262142

def leapYear (year : Int) : Bool := year % 4 == 0 && (year % 100 != 0 || year % 400 == 0)

def monthLength (year : Int) (month : Nat) : Nat :=
  if month = 2 then if leapYear year then 29 else 28
  else if month = 4 ∨ month = 6 ∨ month = 9 ∨ month = 11 then 30
  else 31

def ValidDate (year : Int) (month day : Nat) : Prop :=
  firstYear ≤ year ∧ year ≤ lastYear ∧ 1 ≤ month ∧ month ≤ 12 ∧
    1 ≤ day ∧ day ≤ monthLength year month

instance (year : Int) (month day : Nat) : Decidable (ValidDate year month day) :=
  inferInstanceAs (Decidable (_ ∧ _ ∧ _ ∧ _ ∧ _ ∧ _))

end Calendar

structure Date where
  year : Int
  month : Nat
  day : Nat
  valid : Calendar.ValidDate year month day
  deriving DecidableEq

namespace Date

def of? (year : Int) (month day : Nat) : Option Date :=
  if valid : Calendar.ValidDate year month day then some ⟨year, month, day, valid⟩ else none

/-- The last date of the calendar has no successor. -/
def next? (date : Date) : Option Date :=
  if date.day < Calendar.monthLength date.year date.month then
    of? date.year date.month (date.day + 1)
  else if date.month < 12 then of? date.year (date.month + 1) 1
  else of? (date.year + 1) 1 1

/-- The first date of the calendar has no predecessor. -/
def previous? (date : Date) : Option Date :=
  if 1 < date.day then of? date.year date.month (date.day - 1)
  else if 1 < date.month then
    of? date.year (date.month - 1) (Calendar.monthLength date.year (date.month - 1))
  else of? (date.year - 1) 12 31

theorem of?_eq (date : Date) : of? date.year date.month date.day = some date := by
  simp [of?, date.valid]

end Date

end CohortDesk
