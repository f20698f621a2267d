import Mooring.Number.Binary64

/-! Deadlines on a clock that counts milliseconds and is read in seconds, as a double. A deadline
is a double too; `Deadline.after` turns it into the first millisecond whose reading has reached it,
so that waiting compares whole numbers. -/

namespace Mooring.Deadline

/-- The clock's reading in seconds. -/
def reading (milliseconds : Nat) : Binary64 :=
  (Binary64.ofRatio false milliseconds 1000).getD ⟨false, 0, -1074⟩

/-- The first millisecond from `low` on whose reading has reached a limit, or `high` if none before
it has. Readings never fall, so each look at the middle settles one half. -/
def firstReaching (limit : Binary64) (low high : Nat) : Nat :=
  if low < high then
    let middle := (low + high) / 2
    if limit.le (reading middle) then firstReaching limit low middle
    else firstReaching limit (middle + 1) high
  else low
  termination_by high - low

/-- The first whole number of milliseconds not below a time in seconds. -/
def ceilMilliseconds (seconds : Binary64) : Nat :=
  let (num, den) := seconds.signedRatio
  (-((-(num * 1000)) / (den : Int))).toNat

/-- The millisecond at which `timeout` seconds have passed since `now`. -/
def after (now : Nat) (timeout : Binary64) : Nat :=
  match (reading now).add timeout with
  | some limit => firstReaching limit 0 (ceilMilliseconds limit)
  | none => now

end Mooring.Deadline
