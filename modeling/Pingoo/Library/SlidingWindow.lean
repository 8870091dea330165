import Mathlib.Logic.Function.Basic

namespace SlidingWindow

/-!
# Sliding-window counters

The sliding-window counter divides time into windows of one period.  It keeps
the counts of the current and of the previous window, and estimates the number
of events of the last period as the current count plus the share of the previous
count that still overlaps it.

Time is counted in ticks; a whole number of ticks makes one unit, and the
estimate only looks at whole units.
-/

variable {κ : Type*}

/-- The start of the current window and the counts of both windows. -/
structure Windows (κ : Type*) where
  start : Int
  previous : κ → Nat
  current : κ → Nat

/-- The parameters of a counter: the period in units, and what counts hold. -/
structure Params where
  limit : Nat
  period : Nat
  unit : Nat
  maxCount : Nat

namespace Params

/-- The length of a window in ticks. -/
def ticks (params : Params) : Int :=
  params.period * params.unit

end Params

/-- Both windows empty, the current one starting at `start`. -/
def empty (start : Int) : Windows κ where
  start :=
    start
  previous _ :=
    0
  current _ :=
    0

/-- Move the windows forward to `now`. -/
def advance (params : Params) (windows : Windows κ) (now : Int) : Windows κ :=
  if now < windows.start + params.ticks then
    windows
  else if now < windows.start + 2 * params.ticks then {
    start := windows.start + params.ticks
    previous := windows.current
    current := fun _ => 0
  }
  else
    empty now

/-- Count one event of a key in the current window; counts saturate. -/
def tally
    [DecidableEq κ]
    (params : Params)
    (windows : Windows κ)
    (key : κ) : Windows κ :=
  { windows with
    current :=
      Function.update windows.current key
        (min (windows.current key + 1) params.maxCount) }

/-- The estimated number of events of a key in the last period. -/
def estimate
    (params : Params)
    (windows : Windows κ)
    (key : κ)
    (now : Int) : Nat :=
  windows.previous key *
      (params.period - (now - windows.start).toNat / params.unit) /
    params.period + windows.current key

/-- Answer one event: move the windows, count it, compare the estimate. -/
def answer [DecidableEq κ]
    (params : Params)
    (windows : Windows κ)
    (key : κ)
    (now : Int) : Bool × Windows κ :=
  let windows := tally params (advance params windows now) key
  (decide (estimate params windows key now ≤ params.limit), windows)

/-- After moving the windows, `now` is less than a window after the start. -/
theorem lt_start_advance
    {params : Params}
    (positive : 0 < params.ticks)
    (windows : Windows κ)
    (now : Int) :
    now < (advance params windows now).start + params.ticks := by
  unfold advance
  split
  · assumption
  · split
    · simp only
      omega
    · simp only [empty]
      omega

end SlidingWindow
