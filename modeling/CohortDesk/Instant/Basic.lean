import CohortDesk.Instant.Calendar
/-!
# Instants

A moment in UTC as a date and a time of day with nanoseconds. A leap second is kept as second 59
with a second or more of nanoseconds.
-/
namespace CohortDesk

def nanosPerSecond : Nat := 1000000000

structure TimeOfDay where
  hour : Nat
  minute : Nat
  second : Nat
  nanos : Nat
  valid : hour < 24 ∧ minute < 60 ∧ second < 60 ∧
    (nanos < nanosPerSecond ∨ second = 59 ∧ nanos < 2 * nanosPerSecond)
  deriving DecidableEq

namespace TimeOfDay

/-- Second 60 is the leap second after second 59. -/
def of? (hour minute second nanos : Nat) : Option TimeOfDay :=
  let kept := if second = 60 then 59 else second
  let carried := if second = 60 then nanosPerSecond + nanos else nanos
  if valid : hour < 24 ∧ minute < 60 ∧ kept < 60 ∧
      (carried < nanosPerSecond ∨ kept = 59 ∧ carried < 2 * nanosPerSecond) then
    some ⟨hour, minute, kept, carried, valid⟩
  else none

def inLeapSecond (time : TimeOfDay) : Bool := nanosPerSecond ≤ time.nanos

/-- The second as it is written: a leap second counts one up. -/
def shownSecond (time : TimeOfDay) : Nat :=
  if time.inLeapSecond then time.second + 1 else time.second

def fraction (time : TimeOfDay) : Nat := time.nanos % nanosPerSecond

/-- The same seconds and nanoseconds at another minute of the day. -/
def atMinute (time : TimeOfDay) (minuteOfDay : Nat) : TimeOfDay :=
  { hour := minuteOfDay / 60 % 24
    minute := minuteOfDay % 60
    second := time.second
    nanos := time.nanos
    valid := ⟨Nat.mod_lt _ (by decide), Nat.mod_lt _ (by decide), time.valid.2.2⟩ }

end TimeOfDay

structure Instant where
  date : Date
  time : TimeOfDay
  deriving DecidableEq

namespace Instant

def minutesPerDay : Nat := 1440

/-- The instant at which clocks that are `offset` minutes ahead of UTC show `date` and `time`.
There is none when UTC falls outside the calendar. -/
def ofLocal? (date : Date) (time : TimeOfDay) (offset : Int) : Option Instant :=
  let minutes : Int := (time.hour * 60 + time.minute : Nat) - offset
  let shifted := time.atMinute (minutes % minutesPerDay).toNat
  if minutes < 0 then date.previous?.map (⟨·, shifted⟩)
  else if minutesPerDay ≤ minutes then date.next?.map (⟨·, shifted⟩)
  else some ⟨date, shifted⟩

end Instant

end CohortDesk
