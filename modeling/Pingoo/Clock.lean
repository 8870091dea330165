import Mathlib.Tactic.TypeStar

namespace Pingoo

/-!
# Clocks and durations

The clocks and durations of the source have nanosecond resolution.  A reading of
a clock is an `Int`, its nanoseconds since a fixed origin; a `Duration` is a
`Nat`, its nanoseconds.
-/

/-- Nanoseconds in one second. -/
def nanosPerSec : Nat :=
  1000000000

namespace Duration

/-- `Duration::from_secs`. -/
def fromSecs (secs : Nat) : Nat :=
  secs * nanosPerSec

/-- `Duration::MAX`. -/
def max : Nat :=
  fromSecs 18446744073709551615 + 999999999

/-- `Duration::as_secs`: the whole seconds of a duration. -/
def asSecs (duration : Nat) : Nat :=
  duration / nanosPerSec

@[simp] theorem asSecs_fromSecs (secs : Nat) :
    asSecs (fromSecs secs) = secs := by
  simp [asSecs, fromSecs, nanosPerSec]

theorem fromSecs_pos {secs : Nat} (positive : 0 < secs) :
    0 < fromSecs secs :=
  Nat.mul_pos positive (by decide)

end Duration

/-- `Instant - Instant`: zero when the readings are reversed. -/
def Duration.between (earlier later : Int) : Nat :=
  (later - earlier).toNat

namespace Utc

/-- `DateTime::<Utc>::MIN_UTC`. -/
def minUtc : Int :=
  -8334601228800 * nanosPerSec

/-- `DateTime::<Utc>::MAX_UTC`. -/
def maxUtc : Int :=
  8210266876799 * nanosPerSec + 999999999

/-- `DateTime<Utc>`: a reading of the clock in the range of dates. -/
structure DateTime where
  nanos : Int
  inRange : minUtc ≤ nanos ∧ nanos ≤ maxUtc

/-- `DateTime + Duration`; `none` where it panics. -/
def add (time : Int) (duration : Nat) : Option Int :=
  if time + duration ≤ maxUtc then some (time + duration) else none

/-- `DateTime - Duration`; `none` where it panics. -/
def sub (time : Int) (duration : Nat) : Option Int :=
  if minUtc ≤ time - duration then some (time - duration) else none

theorem sub_eq_some_iff {time limit : Int} {duration : Nat} :
    sub time duration = some limit ↔
      limit = time - duration ∧ (sub time duration).isSome = true := by
  unfold sub
  split
  · simp [eq_comm]
  · simp

theorem add_eq_some_iff {time limit : Int} {duration : Nat} :
    add time duration = some limit ↔
      limit = time + duration ∧ (add time duration).isSome = true := by
  unfold add
  split
  · simp [eq_comm]
  · simp

/-- `DateTime::timestamp`: whole seconds, rounded down. -/
def timestamp (time : Int) : Int :=
  time / nanosPerSec

/-- The timestamp of a later date fits the integers it is stored in. -/
theorem toInt_timestamp_of_add
    (now : DateTime)
    {duration : Nat}
    {later : Int}
    (added : add now.nanos duration = some later) :
    (Int64.ofInt (timestamp later)).toInt = timestamp later := by
  have inRange := now.inRange
  simp only [add] at added
  split at added
  · next early =>
      cases added
      apply Int64.toInt_ofInt_of_le <;>
        simp only [timestamp, nanosPerSec, minUtc, maxUtc] at * <;>
        omega
  · cases added

end Utc

end Pingoo
