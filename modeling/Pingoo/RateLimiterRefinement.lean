import Mathlib.Tactic.SplitIfs
import Pingoo.Library.SlidingWindow
import Pingoo.Library.StepRun
import Pingoo.RateLimiter

namespace Pingoo

/-!
# The rate limiter as a sliding-window counter

Forgetting which bucket is which turns a limiter into the windows of a
sliding-window counter.  Moving the windows commutes with forgetting, except
when the blue bucket is current and its successor window has begun but not
ended: the test for an idle gap looks at the green bucket, which is then older
than the current one, and both buckets are emptied although the blue counts
should have become the previous ones.
-/

/-- Saturating succession, as a number. -/
theorem toNat_saturatingSucc (value : UInt16) :
    (saturatingSucc value).toNat = min (value.toNat + 1) 65535 := by
  unfold saturatingSucc
  split
  · next saturated =>
      subst saturated
      rfl
  · next free =>
      have below : value.toNat < 65535 := by
        have bound := value.toNat_lt
        have different : value.toNat ≠ 65535 := fun same =>
          free (UInt16.toNat_inj.mp same)
        omega
      rw [UInt16.toNat_add, show (1 : UInt16).toNat = 1 from rfl,
        Nat.mod_eq_of_lt (by omega)]
      omega

namespace RateLimiter

/-- The count of an address in a bucket. -/
def countIn (bucket : RateLimiterBucket) (ip : IpAddr) : Nat :=
  match bucket.inner.get ip with
  | some counter => counter.sum.toNat
  | none => 0

/-- The windows of a limiter, whatever their colours. -/
def windows (limiter : RateLimiter) : SlidingWindow.Windows IpAddr where
  start :=
    limiter.currBucket.startsAt
  previous :=
    countIn limiter.prevBucket
  current :=
    countIn limiter.currBucket

/-- The sliding-window counter that a limiter with a period in seconds is. -/
def params (limiter : RateLimiter) : SlidingWindow.Params where
  limit :=
    limiter.limit.toNat
  period :=
    Duration.asSecs limiter.samplingPeriod
  unit :=
    nanosPerSec
  maxCount :=
    65535

/--
The idle test looks at the current bucket: green is current, or the call is
still in the blue window, or it is past the window after it.
-/
def RotatesSoundly (limiter : RateLimiter) (now : Int) : Prop :=
  limiter.isGreenBucketCurrent ∨
    now < limiter.bucketBlue.startsAt + limiter.samplingPeriod ∨
    limiter.bucketBlue.startsAt + 2 * limiter.samplingPeriod ≤ now

instance (limiter : RateLimiter) (now : Int) :
    Decidable (RotatesSoundly limiter now) :=
  inferInstanceAs (Decidable (_ ∨ _ ∨ _))

section SetCurrInner

variable (limiter : RateLimiter) (inner : CounterMap)

@[simp] theorem setCurrInner_limit :
    (limiter.setCurrInner inner).limit = limiter.limit := by
  unfold setCurrInner
  split <;> rfl

@[simp] theorem setCurrInner_samplingPeriod :
    (limiter.setCurrInner inner).samplingPeriod =
      limiter.samplingPeriod := by
  unfold setCurrInner
  split <;> rfl

/-- Writing counters back moves no start instant, so colours stay. -/
@[simp] theorem setCurrInner_isGreenBucketCurrent :
    (limiter.setCurrInner inner).isGreenBucketCurrent =
      limiter.isGreenBucketCurrent := by
  unfold setCurrInner isGreenBucketCurrent
  split <;> rfl

@[simp] theorem setCurrInner_currBucket :
    (limiter.setCurrInner inner).currBucket =
      { limiter.currBucket with inner := inner } := by
  unfold currBucket
  rw [setCurrInner_isGreenBucketCurrent]
  unfold setCurrInner
  split <;> rfl

@[simp] theorem setCurrInner_prevBucket :
    (limiter.setCurrInner inner).prevBucket = limiter.prevBucket := by
  unfold prevBucket
  rw [setCurrInner_isGreenBucketCurrent]
  unfold setCurrInner
  split <;> rfl

end SetCurrInner

section Rotate

variable (withCapacity : Nat → Nat) (limiter : RateLimiter) (now : Int)

@[simp] theorem rotate_limit :
    (limiter.rotate withCapacity now).limit = limiter.limit := by
  unfold rotate
  dsimp only
  split_ifs <;> rfl

@[simp] theorem rotate_samplingPeriod :
    (limiter.rotate withCapacity now).samplingPeriod =
      limiter.samplingPeriod := by
  unfold rotate
  dsimp only
  split_ifs <;> rfl

@[simp] theorem countIn_new (startsAt : Int) (capacity : Nat) :
    countIn (.new withCapacity startsAt capacity) = fun _ => 0 := by
  funext ip
  simp [countIn, CounterMap.get, RateLimiterBucket.new]

/-- The windows of a limiter whose green bucket is current. -/
theorem windows_of_green
    {limiter : RateLimiter}
    (green : limiter.isGreenBucketCurrent = true) :
    limiter.windows = {
      start := limiter.bucketGreen.startsAt
      previous := countIn limiter.bucketBlue
      current := countIn limiter.bucketGreen
    } := by
  simp [windows, currBucket, prevBucket, green]

/-- The windows of a limiter whose blue bucket is current. -/
theorem windows_of_blue
    {limiter : RateLimiter}
    (blue : limiter.isGreenBucketCurrent = false) :
    limiter.windows = {
      start := limiter.bucketBlue.startsAt
      previous := countIn limiter.bucketGreen
      current := countIn limiter.bucketBlue
    } := by
  simp [windows, currBucket, prevBucket, blue]

/-- A call in the current window moves nothing. -/
theorem rotate_of_within
    (within : now < limiter.currBucket.startsAt + limiter.samplingPeriod) :
    limiter.rotate withCapacity now = limiter := by
  simp [rotate, isWithinCurrBucketWindow, within]

/-- Past its window, the current bucket is not within it. -/
theorem isWithinCurrBucketWindow_eq_false
    (after : limiter.currBucket.startsAt + limiter.samplingPeriod ≤ now) :
    limiter.isWithinCurrBucketWindow now
      limiter.currBucket.startsAt = false := by
  simpa [isWithinCurrBucketWindow] using after

/-- Up to the end of the window after green's, the limiter is busy. -/
theorem isOutsideNextMonothonicWindow_eq_false
    (inside :
      now < limiter.bucketGreen.startsAt + 2 * limiter.samplingPeriod) :
    limiter.isOutsideNextMonothonicWindow now
      limiter.bucketGreen.startsAt = false := by
  simpa [isOutsideNextMonothonicWindow] using inside

/-- Past the window after green's, both buckets start afresh at the call. -/
theorem windows_rotate_of_outside
    (positive : 0 < limiter.samplingPeriod)
    (after : limiter.currBucket.startsAt + limiter.samplingPeriod ≤ now)
    (outside :
      limiter.bucketGreen.startsAt + 2 * limiter.samplingPeriod ≤ now) :
    (limiter.rotate withCapacity now).windows =
      SlidingWindow.empty now := by
  have idle :
      limiter.isOutsideNextMonothonicWindow now
        limiter.bucketGreen.startsAt = true := by
    simpa [isOutsideNextMonothonicWindow] using outside
  simp only [rotate, isWithinCurrBucketWindow_eq_false limiter now after, idle,
    positive, Bool.not_false, decide_true, Bool.and_self, if_true]
  rw [windows_of_green (decide_eq_true (Int.le_refl now))]
  simp only [countIn_new]
  rfl

/-- One window after green's, blue takes over and green is the previous one. -/
theorem windows_rotate_of_green
    (positive : 0 < limiter.samplingPeriod)
    (green : limiter.isGreenBucketCurrent = true)
    (after :
      limiter.bucketGreen.startsAt + limiter.samplingPeriod ≤ now)
    (inside :
      now < limiter.bucketGreen.startsAt + 2 * limiter.samplingPeriod) :
    (limiter.rotate withCapacity now).windows = {
      start := limiter.bucketGreen.startsAt + limiter.samplingPeriod
      previous := countIn limiter.bucketGreen
      current := fun _ => 0
    } := by
  have current : limiter.currBucket = limiter.bucketGreen := by
    simp [currBucket, green]
  have afterCurrent :
      limiter.currBucket.startsAt + limiter.samplingPeriod ≤ now := by
    rw [current]
    exact after
  simp only [rotate, isWithinCurrBucketWindow_eq_false limiter now afterCurrent,
    isOutsideNextMonothonicWindow_eq_false limiter now inside, green, positive,
    Bool.not_false, decide_true, Bool.and_self, if_true, Bool.false_eq_true,
    if_false]
  have later :
      ¬ limiter.bucketGreen.startsAt + limiter.samplingPeriod ≤
        limiter.bucketGreen.startsAt := by
    omega
  rw [windows_of_blue (decide_eq_false later)]
  simp only [countIn_new]
  rfl

/-- One window after blue's, green takes over and blue is the previous one. -/
theorem windows_rotate_of_blue
    (positive : 0 < limiter.samplingPeriod)
    (blue : limiter.isGreenBucketCurrent = false)
    (after :
      limiter.bucketBlue.startsAt + limiter.samplingPeriod ≤ now)
    (inside :
      now < limiter.bucketGreen.startsAt + 2 * limiter.samplingPeriod) :
    (limiter.rotate withCapacity now).windows = {
      start := limiter.bucketBlue.startsAt + limiter.samplingPeriod
      previous := countIn limiter.bucketBlue
      current := fun _ => 0
    } := by
  have current : limiter.currBucket = limiter.bucketBlue := by
    simp [currBucket, blue]
  have afterCurrent :
      limiter.currBucket.startsAt + limiter.samplingPeriod ≤ now := by
    rw [current]
    exact after
  simp only [rotate, isWithinCurrBucketWindow_eq_false limiter now afterCurrent,
    isOutsideNextMonothonicWindow_eq_false limiter now inside, blue, positive,
    Bool.not_false, decide_true, Bool.and_self, if_true, Bool.false_eq_true,
    if_false]
  have later :
      limiter.bucketBlue.startsAt ≤
        limiter.bucketBlue.startsAt + limiter.samplingPeriod := by
    omega
  rw [windows_of_green (decide_eq_true later)]
  simp only [countIn_new]
  rfl

/-- What moving the windows to `now` makes of them. -/
inductive Rotation (period : Nat) (now : Int)
    (before : SlidingWindow.Windows IpAddr) :
    SlidingWindow.Windows IpAddr → Prop
  | kept (within : now < before.start + period) :
      Rotation period now before before
  | shifted
      (begun : before.start + period ≤ now)
      (within : now < before.start + 2 * period) :
      Rotation period now before {
        start := before.start + period
        previous := before.current
        current := fun _ => 0
      }
  | emptied (isOver : before.start + period ≤ now) :
      Rotation period now before (SlidingWindow.empty now)

/-- After the windows are moved the time lies in the current one. -/
theorem Rotation.isCurrent
    {period : Nat}
    {now : Int}
    {before rotated : SlidingWindow.Windows IpAddr}
    (rotation : Rotation period now before rotated)
    (positive : 0 < period)
    (started : before.start ≤ now) :
    rotated.start ≤ now ∧ now < rotated.start + period := by
  cases rotation with
  | kept within =>
      exact ⟨started, within⟩
  | shifted begun within =>
      exact ⟨begun, by simp only; omega⟩
  | emptied isOver =>
      exact ⟨Int.le_refl _, by simp only [SlidingWindow.empty]; omega⟩

/-- A limiter keeps its windows, moves them by one period, or empties both. -/
theorem rotation_rotate (positive : 0 < limiter.samplingPeriod) :
    Rotation limiter.samplingPeriod now limiter.windows
      (limiter.rotate withCapacity now).windows := by
  by_cases within :
      now < limiter.currBucket.startsAt + limiter.samplingPeriod
  · rw [rotate_of_within withCapacity limiter now within]
    exact .kept within
  have after :
      limiter.currBucket.startsAt + limiter.samplingPeriod ≤ now :=
    Int.not_lt.mp within
  by_cases outside :
      limiter.bucketGreen.startsAt + 2 * limiter.samplingPeriod ≤ now
  · rw [windows_rotate_of_outside withCapacity limiter now positive after
      outside]
    exact .emptied after
  rw [Int.not_le] at outside
  cases colour : limiter.isGreenBucketCurrent with
  | true =>
      have current : limiter.currBucket = limiter.bucketGreen := by
        simp [currBucket, colour]
      rw [windows_rotate_of_green withCapacity limiter now positive colour
        (current ▸ after) outside]
      have shifted :
          Rotation limiter.samplingPeriod now limiter.windows _ :=
        .shifted after (show now < limiter.currBucket.startsAt + _ by
          rwa [current])
      simpa only [windows, current] using shifted
  | false =>
      have current : limiter.currBucket = limiter.bucketBlue := by
        simp [currBucket, colour]
      have older :
          limiter.bucketGreen.startsAt < limiter.bucketBlue.startsAt := by
        simpa [isGreenBucketCurrent] using colour
      rw [windows_rotate_of_blue withCapacity limiter now positive colour
        (current ▸ after) outside]
      have shifted :
          Rotation limiter.samplingPeriod now limiter.windows _ :=
        .shifted after (show now < limiter.currBucket.startsAt + _ by
          rw [current]
          omega)
      simpa only [windows, current] using shifted

/-- Where the idle test is sound, rotating is advancing the windows. -/
theorem windows_rotate
    (positive : 0 < limiter.samplingPeriod)
    (wholeSeconds :
      limiter.params.ticks = (limiter.samplingPeriod : Int))
    (sound : RotatesSoundly limiter now) :
    (limiter.rotate withCapacity now).windows =
      SlidingWindow.advance limiter.params limiter.windows now := by
  rw [SlidingWindow.advance, wholeSeconds]
  by_cases within :
      now < limiter.currBucket.startsAt + limiter.samplingPeriod
  · rw [rotate_of_within withCapacity limiter now within]
    exact (if_pos within).symm
  have after :
      limiter.currBucket.startsAt + limiter.samplingPeriod ≤ now :=
    Int.not_lt.mp within
  rw [if_neg (show ¬ now < limiter.windows.start + _ from within)]
  cases colour : limiter.isGreenBucketCurrent with
  | true =>
      have current : limiter.currBucket = limiter.bucketGreen := by
        simp [currBucket, colour]
      have start :
          limiter.windows.start = limiter.bucketGreen.startsAt :=
        congrArg RateLimiterBucket.startsAt current
      rw [start]
      by_cases inside :
          now < limiter.bucketGreen.startsAt + 2 * limiter.samplingPeriod
      · rw [if_pos inside,
          windows_rotate_of_green withCapacity limiter now positive colour
            (current ▸ after) inside]
        simp [windows, current]
      · rw [if_neg inside]
        exact windows_rotate_of_outside withCapacity limiter now positive
          after (Int.not_lt.mp inside)
  | false =>
      have current : limiter.currBucket = limiter.bucketBlue := by
        simp [currBucket, colour]
      have start :
          limiter.windows.start = limiter.bucketBlue.startsAt :=
        congrArg RateLimiterBucket.startsAt current
      have older :
          limiter.bucketGreen.startsAt < limiter.bucketBlue.startsAt := by
        simpa [isGreenBucketCurrent] using colour
      -- the call is neither in the blue window nor in the one after it
      have outsideBlue :
          limiter.bucketBlue.startsAt + 2 * limiter.samplingPeriod ≤
            now := by
        rw [current] at after
        rcases sound with isGreen | inBlue | outside
        · simp [colour] at isGreen
        · exact absurd inBlue (Int.not_lt.mpr after)
        · exact outside
      rw [start, if_neg (Int.not_lt.mpr outsideBlue)]
      exact windows_rotate_of_outside withCapacity limiter now positive
        after (by omega)

end Rotate

section Count

/-- The count of an address after its counter was written. -/
private theorem countIn_insert
    (bucket : RateLimiterBucket)
    (ip : IpAddr)
    (counter : Counter) :
    countIn { bucket with inner := bucket.inner.insert ip counter } =
      Function.update (countIn bucket) ip counter.sum.toNat := by
  funext query
  by_cases same : query = ip
  · subst query
    simp [countIn, CounterMap.get, CounterMap.insert]
  · simp [countIn, CounterMap.get, CounterMap.insert, same]

/-- What a counted call leaves behind: only one counter has changed. -/
theorem count_spec
    {limiter counted : RateLimiter}
    {ip : IpAddr}
    {sum : UInt16}
    (accepted : limiter.count ip = .ok (sum, counted)) :
    counted.limit = limiter.limit ∧
      counted.samplingPeriod = limiter.samplingPeriod ∧
      counted.windows =
        SlidingWindow.tally limiter.params limiter.windows ip ∧
      sum.toNat = counted.windows.current ip := by
  obtain ⟨counter, shape, next, stored⟩ :
      ∃ counter : Counter,
        counted =
          limiter.setCurrInner
            (limiter.currBucket.inner.insert ip counter) ∧
        counter.sum = sum ∧
        counter.sum.toNat =
          min (countIn limiter.currBucket ip + 1) 65535 := by
    unfold count at accepted
    cases found : limiter.currBucket.inner.get ip with
    | some counter =>
        simp only [found, Except.ok.injEq, Prod.mk.injEq] at accepted
        refine ⟨counter.increment, accepted.2.symm, accepted.1, ?_⟩
        simp [countIn, found, Counter.increment, toNat_saturatingSucc]
    | none =>
        simp only [found] at accepted
        split at accepted
        · cases accepted
        · simp only [Except.ok.injEq, Prod.mk.injEq] at accepted
          refine ⟨Counter.new.increment, accepted.2.symm,
            accepted.1, ?_⟩
          simp [countIn, found, Counter.increment, Counter.new,
            toNat_saturatingSucc]
  have tallied :
      counted.windows =
        SlidingWindow.tally limiter.params limiter.windows ip := by
    rw [shape]
    simp only [windows, setCurrInner_currBucket, setCurrInner_prevBucket,
      countIn_insert, SlidingWindow.tally, stored]
    rfl
  refine ⟨by simp [shape], by simp [shape], tallied, ?_⟩
  rw [tallied, ← next, stored]
  simp [SlidingWindow.tally, windows, params]

end Count

section Simulation

variable (withCapacity : Nat → Nat)

/--
A call of a limiter that limits moves the windows, and then either finds no room
for its address or counts it and compares the two counts with the limit.
-/
theorem canResume_cases
    {limiter : RateLimiter}
    (limits : limiter.limit ≠ 0)
    (ip : IpAddr)
    (now readAt : Int) :
    ((limiter.rotate withCapacity now).count ip = .error () ∧
      limiter.canResume withCapacity ip now readAt =
        (.error (), limiter.rotate withCapacity now)) ∨
    ∃ currSum prevSum counted,
      (limiter.rotate withCapacity now).count ip = .ok (currSum, counted) ∧
      prevSum.toNat = counted.windows.previous ip ∧
      limiter.canResume withCapacity ip now readAt =
        (.ok (decide (
          getApprox prevSum
              (Duration.between counted.currBucket.startsAt readAt)
              counted.samplingPeriod +
            currSum.toNat ≤ counted.limit.toNat)), counted) := by
  unfold canResume
  rw [if_neg limits]
  dsimp only
  cases counting : (limiter.rotate withCapacity now).count ip with
  | error refusal =>
      exact Or.inl ⟨rfl, rfl⟩
  | ok result =>
      obtain ⟨currSum, counted⟩ := result
      refine Or.inr ⟨currSum, _, counted, rfl, ?_, rfl⟩
      simp only [windows, countIn]
      cases counted.prevBucket.inner.get ip with
      | none =>
          rfl
      | some counter =>
          rfl

/-- A limiter in whole seconds that limits, with the windows it stands for. -/
structure Simulates
    (params : SlidingWindow.Params)
    (limiter : RateLimiter)
    (windows : SlidingWindow.Windows IpAddr) : Prop where
  limits : limiter.limit ≠ 0
  period : 0 < limiter.samplingPeriod
  wholeSeconds : params.ticks = (limiter.samplingPeriod : Int)
  sameParams : limiter.params = params
  sameWindows : limiter.windows = windows

/-- In the current window, the estimate is the previous share and the count. -/
private theorem getApprox_add_eq_estimate
    {limiter : RateLimiter}
    (ip : IpAddr)
    {now : Int}
    {prevSum currSum : UInt16}
    (wholeSeconds : limiter.params.ticks = (limiter.samplingPeriod : Int))
    (inWindow : now < limiter.windows.start + limiter.params.ticks)
    (positive : 0 < limiter.samplingPeriod)
    (prev : prevSum.toNat = limiter.windows.previous ip)
    (curr : currSum.toNat = limiter.windows.current ip) :
    getApprox prevSum
          (Duration.between limiter.currBucket.startsAt now)
          limiter.samplingPeriod +
        currSum.toNat =
      SlidingWindow.estimate limiter.params limiter.windows ip now := by
  have young :
      ¬ limiter.samplingPeriod ≤
        Duration.between limiter.currBucket.startsAt now := by
    have start :
        limiter.windows.start = limiter.currBucket.startsAt :=
      rfl
    rw [wholeSeconds, start] at inWindow
    unfold Duration.between
    omega
  rw [getApprox, if_neg young, prev, curr]
  rfl

/--
A call that rotates soundly and is not refused for capacity answers as the
sliding-window counter does, and leaves a limiter that stands for its windows.
-/
theorem call_simulates
    {params : SlidingWindow.Params}
    {limiter : RateLimiter}
    {windows : SlidingWindow.Windows IpAddr}
    {made : Call}
    (simulates : Simulates params limiter windows)
    (sound : RotatesSoundly limiter made.time)
    (notRefused : (limiter.call withCapacity made).1 ≠ .error ()) :
    (limiter.call withCapacity made).1 =
        .ok (SlidingWindow.answer params windows made.ip made.time).1 ∧
      Simulates params (limiter.call withCapacity made).2
        (SlidingWindow.answer params windows made.ip made.time).2 := by
  obtain ⟨limits, period, wholeSeconds, rfl, rfl⟩ := simulates
  have rotated :=
    windows_rotate withCapacity limiter made.time period wholeSeconds sound
  have rotatedParams :
      (limiter.rotate withCapacity made.time).params = limiter.params := by
    simp [params]
  unfold call at notRefused ⊢
  obtain ⟨-, answered⟩ |
      ⟨currSum, prevSum, counted, counting, prevCount, answered⟩ :=
    canResume_cases withCapacity limits made.ip made.time made.time
  · rw [answered] at notRefused
    exact absurd rfl notRefused
  · rw [answered]
    obtain ⟨sameLimit, samePeriod, tallied, currCount⟩ :=
      count_spec counting
    have countedParams : counted.params = limiter.params := by
      simp [params, sameLimit, samePeriod]
    have countedPeriod :
        counted.samplingPeriod = limiter.samplingPeriod := by
      rw [samePeriod, rotate_samplingPeriod]
    have countedWindows :
        counted.windows =
          (SlidingWindow.answer limiter.params limiter.windows
            made.ip made.time).2 := by
      rw [tallied, rotated, rotatedParams]
      rfl
    have inWindow :
        made.time < counted.windows.start + counted.params.ticks := by
      have started :
          counted.windows.start =
            (SlidingWindow.advance limiter.params limiter.windows
              made.time).start := by
        rw [countedWindows]
        rfl
      rw [started, countedParams]
      exact SlidingWindow.lt_start_advance (by omega)
        limiter.windows made.time
    refine ⟨?_, ?_⟩
    · dsimp only
      rw [getApprox_add_eq_estimate made.ip
        (by rw [countedParams, countedPeriod, wholeSeconds])
        inWindow (countedPeriod ▸ period) prevCount currCount,
        countedWindows, countedParams]
      have limit : counted.limit.toNat = limiter.params.limit := by
        rw [← countedParams]
        rfl
      rw [limit]
      rfl
    · exact {
        limits := by
          rw [sameLimit, rotate_limit]
          exact limits
        period := by
          rw [countedPeriod]
          exact period
        wholeSeconds := by
          rw [countedPeriod]
          exact wholeSeconds
        sameParams := countedParams
        sameWindows := countedWindows
      }

/-- The sliding-window counter a limiter of this configuration should be. -/
def configured (max : UInt16) (period : Nat) : SlidingWindow.Params where
  limit :=
    (if max = 0xFFFF then max - 1 else max).toNat
  period :=
    period
  unit :=
    nanosPerSec
  maxCount :=
    65535

/-- A limiter counts to one less than its counters can hold, or less. -/
theorem limit_configured (max : UInt16) (period : Nat) :
    (configured max period).limit = min max.toNat 65534 := by
  unfold configured
  dsimp only
  split
  · next isMax =>
      rw [isMax]
      rfl
  · next notMax =>
      have different : max.toNat ≠ 65535 := fun same =>
        notMax (UInt16.toNat_inj.mp same)
      have small := max.toNat_lt
      omega

/-- The reference: a sliding-window counter that refuses nobody. -/
def reference
    (params : SlidingWindow.Params)
    (windows : SlidingWindow.Windows IpAddr)
    (made : Call) :
    Except Unit Bool × SlidingWindow.Windows IpAddr :=
  let (resumes, windows) :=
    SlidingWindow.answer params windows made.ip made.time
  (.ok resumes, windows)

/-- The windows of a new limiter are empty and start when it is made. -/
theorem windows_new
    (max : UInt16)
    (period capacity : Nat)
    (createdAt : Int)
    (elapsed : Nat) :
    (new withCapacity max (Duration.fromSecs period) capacity createdAt
      elapsed).windows = SlidingWindow.empty createdAt := by
  have green :
      createPrevWindow createdAt elapsed (Duration.fromSecs period) ≤
        createdAt := by
    unfold createPrevWindow
    split <;> omega
  rw [windows_of_green (decide_eq_true green)]
  simp only [new, countIn_new]
  rfl

/-- A new limiter stands for empty windows that start when it is made. -/
theorem simulates_new
    {max : UInt16}
    {period : Nat}
    (limits : max ≠ 0)
    (positive : 0 < period)
    (capacity : Nat)
    (createdAt : Int)
    (elapsed : Nat) :
    Simulates (configured max period)
      (new withCapacity max (Duration.fromSecs period) capacity
        createdAt elapsed)
      (SlidingWindow.empty createdAt) where
  limits := by
    unfold new
    dsimp only
    split
    · next saturated =>
        rw [saturated]
        decide
    · exact limits
  period :=
    Duration.fromSecs_pos positive
  wholeSeconds := by
    simp [configured, SlidingWindow.Params.ticks, new, Duration.fromSecs]
  sameParams := by
    simp [params, configured, new]
  sameWindows :=
    windows_new withCapacity max period capacity createdAt elapsed

/--
Every run whose calls all rotate soundly, and in which nobody is refused for
capacity, gives the answers of the sliding-window counter.
-/
theorem outputs_eq_reference_of_rotatesSoundly
    (max : UInt16)
    (period capacity : Nat)
    (createdAt : Int)
    (elapsed : Nat)
    (calls : List Call)
    (limits : max ≠ 0)
    (positive : 0 < period)
    (noneRefused :
      ∀ result ∈
        StepRun.outputs (call withCapacity)
          (new withCapacity max (Duration.fromSecs period) capacity
            createdAt elapsed) calls,
        result ≠ .error ())
    (sound :
      StepRun.Along (call withCapacity)
        (fun limiter made => RotatesSoundly limiter made.time)
        (new withCapacity max (Duration.fromSecs period) capacity
          createdAt elapsed) calls) :
    StepRun.outputs (call withCapacity)
        (new withCapacity max (Duration.fromSecs period) capacity
          createdAt elapsed) calls =
      StepRun.outputs (reference (configured max period))
        (SlidingWindow.empty createdAt) calls := by
  refine @StepRun.outputs_eq_of_simulation _ _ _ _ _ _ _
    (Simulates (configured max period)) ?_ _ _ _
    (simulates_new withCapacity limits positive capacity createdAt elapsed)
    (sound.and (StepRun.along_of_forall_outputs noneRefused))
  intro limiter windows made simulates guarded
  exact call_simulates withCapacity simulates guarded.1 guarded.2

end Simulation

section Runs

private def client : IpAddr :=
  .v4 (.new 1 1 1 1)

/-- One call of the client at each of these whole seconds. -/
private def callsAt (seconds : List Nat) : List Call :=
  seconds.map fun second => ⟨client, second * nanosPerSec⟩

/-- One rotation out of the green bucket: the counts of both windows add up. -/
theorem outputs_eq_reference_one_rotation :
    StepRun.outputs (reference (configured 2 1))
        (SlidingWindow.empty 0) (callsAt [0, 0, 1]) =
      [.ok true, .ok true, .ok false] :=
  (outputs_eq_reference_of_rotatesSoundly id 2 1 8 0 0
    (callsAt [0, 0, 1]) (by decide) (by decide) (by decide)
    (by decide)).symm.trans (by decide)

/--
The second of two rotations in a row forgets the previous window: the client is
let through although it made a call one period before.
-/
theorem outputs_ne_reference_second_rotation :
    ¬ ∀ (withCapacity : Nat → Nat) (max : UInt16) (period capacity : Nat)
        (createdAt : Int) (elapsed : Nat) (calls : List Call),
      max ≠ 0 →
      0 < period →
      (createdAt :: calls.map Call.time).Pairwise (· ≤ ·) →
      (∀ result ∈
        StepRun.outputs (call withCapacity)
          (new withCapacity max (Duration.fromSecs period) capacity
            createdAt elapsed) calls,
        result ≠ .error ()) →
      StepRun.outputs (call withCapacity)
          (new withCapacity max (Duration.fromSecs period) capacity
            createdAt elapsed) calls =
        StepRun.outputs (reference (configured max period))
          (SlidingWindow.empty createdAt) calls := by
  intro refines
  have same :=
    refines id 1 1 8 0 0 (callsAt [0, 1, 2]) (by decide) (by decide)
      (by decide) (by decide)
  have limiter :
      StepRun.outputs (call id) (new id 1 (Duration.fromSecs 1) 8 0 0)
          (callsAt [0, 1, 2]) =
        [.ok true, .ok false, .ok true] := by
    decide
  have sliding :
      StepRun.outputs (reference (configured 1 1)) (SlidingWindow.empty 0)
          (callsAt [0, 1, 2]) =
        [.ok true, .ok false, .ok false] := by
    decide
  rw [limiter, sliding] at same
  exact absurd same (by decide)

end Runs

end RateLimiter

end Pingoo
