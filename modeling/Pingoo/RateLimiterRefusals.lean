import Pingoo.RateLimiterBound

namespace Pingoo.RateLimiter

/-!
# Whom a limiter refuses

The counters of the two buckets never hold more calls of an address than it made
in the windows they stand for.  So an address that is answered `Ok(false)` made
more calls than the limit in the last two periods, whatever the other addresses
did to the windows in the meantime.
-/

/-- How many calls an address made from some time on. -/
def callsSince
    (history : List ClockedCall)
    (ip : IpAddr)
    (since : Int) : Nat :=
  history.countP fun call => decide (call.ip = ip) && decide (since ≤ call.now)

/-- How many calls an address made in the last two periods up to `time`. -/
def callsInTwoPeriods
    (history : List ClockedCall)
    (ip : IpAddr)
    (period : Nat)
    (time : Int) : Nat :=
  history.countP fun call =>
    decide (call.ip = ip) &&
      (decide (time - 2 * period < call.now) && decide (call.now ≤ time))

/-- The state after a call. -/
def answerCall
    (withCapacity : Nat → Nat)
    (limiter : RateLimiter)
    (call : ClockedCall) : Except Unit Bool × RateLimiter :=
  limiter.canResume withCapacity call.ip call.now call.readAt

/-- The counts are of calls made in the windows that they are kept for. -/
structure CountsCalls
    (period : Nat)
    (windows : SlidingWindow.Windows IpAddr)
    (history : List ClockedCall) : Prop where
  current : ∀ ip, windows.current ip ≤ callsSince history ip windows.start
  both :
    ∀ ip, windows.previous ip + windows.current ip ≤
      callsSince history ip (windows.start - period)

section History

variable {period : Nat} {windows : SlidingWindow.Windows IpAddr}
variable {history : List ClockedCall} {call : ClockedCall}

theorem callsSince_concat
    (history : List ClockedCall)
    (call : ClockedCall)
    (ip : IpAddr)
    (since : Int) :
    callsSince (history ++ [call]) ip since =
      callsSince history ip since +
        if call.ip = ip ∧ since ≤ call.now then 1 else 0 := by
  simp [callsSince, List.countP_append, List.countP_cons]

/-- Calls since less than two periods ago are calls of two periods. -/
theorem callsSince_le_callsInTwoPeriods
    {since time : Int}
    (recent : time - 2 * period < since)
    (past : ∀ call ∈ history, call.now ≤ time)
    (ip : IpAddr) :
    callsSince history ip since ≤ callsInTwoPeriods history ip period time := by
  refine List.countP_mono_left fun call member isCounted => ?_
  simp only [Bool.and_eq_true, decide_eq_true_eq] at isCounted ⊢
  have inPast := past call member
  exact ⟨isCounted.1, by omega, inPast⟩

theorem CountsCalls.empty (start : Int) :
    CountsCalls period (SlidingWindow.empty start) history where
  current _ :=
    Nat.zero_le _
  both _ :=
    Nat.zero_le _

/-- Moving the windows keeps counts with the windows they were made in. -/
theorem CountsCalls.rotation
    {now : Int}
    {rotated : SlidingWindow.Windows IpAddr}
    (counts : CountsCalls period windows history)
    (rotates : Rotation period now windows rotated) :
    CountsCalls period rotated history := by
  cases rotates with
  | kept within =>
      exact counts
  | shifted begun within =>
      refine {
        current := fun _ => Nat.zero_le _
        both := fun ip => ?_
      }
      rw [Int.add_sub_cancel]
      exact counts.current ip
  | emptied isOver =>
      exact .empty now

/-- A call that is counted is in the history. -/
theorem CountsCalls.tally
    (counts : CountsCalls period windows history)
    (started : windows.start ≤ call.now)
    (params : SlidingWindow.Params) :
    CountsCalls period (SlidingWindow.tally params windows call.ip)
      (history ++ [call]) := by
  have grows (ip : IpAddr) :
      (SlidingWindow.tally params windows call.ip).current ip ≤
        windows.current ip + if call.ip = ip then 1 else 0 := by
    by_cases same : call.ip = ip
    · subst same
      simp only [SlidingWindow.tally, Function.update_self, if_true]
      omega
    · simp [SlidingWindow.tally, same, Ne.symm same]
  refine {
    current := fun ip => ?_
    both := fun ip => ?_
  }
  · have grown := grows ip
    have counted := counts.current ip
    rw [callsSince_concat]
    simp only [SlidingWindow.tally] at grown ⊢
    simp only [started, and_true]
    omega
  · have grown := grows ip
    have counted := counts.both ip
    have startedBoth : windows.start - period ≤ call.now := by
      omega
    rw [callsSince_concat]
    simp only [SlidingWindow.tally] at grown ⊢
    simp only [startedBoth, and_true]
    omega

/-- A call that is not counted is in the history all the same. -/
theorem CountsCalls.concat
    (counts : CountsCalls period windows history)
    (call : ClockedCall) :
    CountsCalls period windows (history ++ [call]) where
  current ip := by
    rw [callsSince_concat]
    exact Nat.le_add_right_of_le (counts.current ip)
  both ip := by
    rw [callsSince_concat]
    exact Nat.le_add_right_of_le (counts.both ip)

end History

/-- The share of the previous window is at most its count. -/
theorem getApprox_le
    (prevCounter : UInt16)
    (windowNeedle samplingPeriod : Nat) :
    getApprox prevCounter windowNeedle samplingPeriod ≤ prevCounter.toNat := by
  unfold getApprox
  split
  · exact Nat.zero_le _
  · exact Nat.div_le_of_le_mul (by
      rw [Nat.mul_comm]
      exact Nat.mul_le_mul_right _ (Nat.sub_le _ _))

/--
What holds of a limiter after some calls: its configuration has not changed, its
window has started, and its counts are of these calls.
-/
structure HasCounted
    (limit : UInt16)
    (period : Nat)
    (limiter : RateLimiter)
    (history : List ClockedCall) : Prop where
  sameLimit : limiter.limit = limit
  samePeriod : limiter.samplingPeriod = period
  counts : CountsCalls period limiter.windows history

section Step

variable (withCapacity : Nat → Nat)

/--
One call keeps the counts to the calls that were made; when it is refused, its
address has more calls than the limit in the current window and the one before.
-/
theorem HasCounted.answerCall
    {limit : UInt16}
    {period : Nat}
    {limiter : RateLimiter}
    {history : List ClockedCall}
    {call : ClockedCall}
    (counted : HasCounted limit period limiter history)
    (limits : limit ≠ 0)
    (positive : 0 < period)
    (started : limiter.windows.start ≤ call.now) :
    HasCounted limit period (limiter.answerCall withCapacity call).2
        (history ++ [call]) ∧
      (limiter.answerCall withCapacity call).2.windows.start ≤ call.now ∧
      ((limiter.answerCall withCapacity call).1 = .ok false →
        limit.toNat < callsSince (history ++ [call]) call.ip
            ((limiter.answerCall withCapacity call).2.windows.start - period) ∧
          call.now <
            (limiter.answerCall withCapacity call).2.windows.start +
              period) := by
  obtain ⟨rfl, rfl, counts⟩ := counted
  have rotation :=
    rotation_rotate withCapacity limiter call.now positive
  have rotatedCounts := counts.rotation rotation
  have rotatedStart := rotation.isCurrent positive started
  unfold RateLimiter.answerCall
  obtain ⟨-, answered⟩ |
      ⟨currSum, prevSum, next, counting, prevCount, answered⟩ :=
    canResume_cases withCapacity limits call.ip call.now call.readAt
  · rw [answered]
    refine ⟨⟨?_, ?_, ?_⟩, rotatedStart.1, ?_⟩
    · exact rotate_limit withCapacity limiter call.now
    · exact rotate_samplingPeriod withCapacity limiter call.now
    · exact rotatedCounts.concat call
    · intro refused
      cases refused
  · rw [answered]
    obtain ⟨sameLimit, samePeriod, tallied, currCount⟩ :=
      count_spec counting
    have sameStart :
        next.windows.start =
          (limiter.rotate withCapacity call.now).windows.start := by
      rw [tallied]
      rfl
    have nextCounts :
        CountsCalls limiter.samplingPeriod next.windows
          (history ++ [call]) := by
      rw [tallied]
      exact rotatedCounts.tally rotatedStart.1 _
    have nextLimit : next.limit = limiter.limit := by
      rw [sameLimit, rotate_limit]
    dsimp only
    rw [sameStart]
    refine ⟨⟨nextLimit, ?_, nextCounts⟩, rotatedStart.1, ?_⟩
    · rw [samePeriod, rotate_samplingPeriod]
    · intro refused
      refine ⟨?_, rotatedStart.2⟩
      -- the estimate is at most the two counts together
      rw [Except.ok.injEq, decide_eq_false_iff_not, Nat.not_le, nextLimit]
        at refused
      have both := nextCounts.both call.ip
      have share :=
        getApprox_le prevSum
          (Duration.between next.currBucket.startsAt call.readAt)
          next.samplingPeriod
      rw [sameStart] at both
      omega

/-- Every run keeps the counts to the calls that were made. -/
theorem HasCounted.final
    {limit : UInt16}
    {period : Nat}
    (limits : limit ≠ 0)
    (positive : 0 < period)
    {limiter : RateLimiter}
    {history : List ClockedCall}
    (counted : HasCounted limit period limiter history)
    (calls : List ClockedCall)
    (last : Int)
    (ordered :
      (limiter.windows.start :: (calls.map ClockedCall.now ++ [last])).Pairwise
        (· ≤ ·)) :
    HasCounted limit period
        (StepRun.final (RateLimiter.answerCall withCapacity) limiter calls)
        (history ++ calls) ∧
      (StepRun.final (RateLimiter.answerCall withCapacity) limiter
        calls).windows.start ≤ last := by
  induction calls generalizing limiter history with
  | nil =>
      rw [List.append_nil]
      exact ⟨counted, (List.pairwise_cons.mp ordered).1 last
        (List.mem_singleton_self last)⟩
  | cons call rest inductionHypothesis =>
      rw [List.map_cons, List.cons_append, List.pairwise_cons,
        List.pairwise_cons] at ordered
      obtain ⟨fromStart, fromCall, restOrdered⟩ := ordered
      obtain ⟨next, startedBefore, -⟩ :=
        counted.answerCall withCapacity limits positive
          (fromStart call.now List.mem_cons_self)
      have restFinal :=
        inductionHypothesis next (List.pairwise_cons.mpr
          ⟨fun time member =>
            Int.le_trans startedBefore (fromCall time member), restOrdered⟩)
      rwa [List.append_assoc, List.singleton_append] at restFinal

end Step

section Refused

variable
  (withCapacity : Nat → Nat)
  {max : UInt16}
  {period : Nat}
  (capacity : Nat)
  (createdAt : Int)
  (elapsed : Nat)

/--
In every run, an address that is answered `Ok(false)` made more calls than the
limit, this one included, in the last two periods.  The limit is `max`, or 65534
where `max` is 65535.
-/
theorem lt_callsInTwoPeriods_of_refused
    (limits : max ≠ 0)
    (positive : 0 < period)
    {earlier : List ClockedCall}
    {call : ClockedCall}
    (ordered :
      (createdAt :: (earlier ++ [call]).map ClockedCall.now).Pairwise (· ≤ ·))
    (refused :
      ((StepRun.final (answerCall withCapacity)
        (new withCapacity max (Duration.fromSecs period) capacity createdAt
          elapsed) earlier).answerCall withCapacity call).1 = .ok false) :
    min max.toNat 65534 <
      callsInTwoPeriods (earlier ++ [call]) call.ip
        (Duration.fromSecs period) call.now := by
  have isNew :=
    windows_new withCapacity max period capacity createdAt elapsed
  have simulates :=
    simulates_new withCapacity limits positive capacity createdAt elapsed
  have isPositive : 0 < Duration.fromSecs period :=
    simulates.period
  have counted :
      HasCounted _ (Duration.fromSecs period)
        (new withCapacity max (Duration.fromSecs period) capacity createdAt
          elapsed) [] := {
    sameLimit := rfl
    samePeriod := rfl
    counts := by
      rw [isNew]
      exact .empty createdAt
  }
  rw [List.map_append, List.map_singleton] at ordered
  obtain ⟨reached, started⟩ :=
    counted.final withCapacity simulates.limits isPositive earlier
      call.now (by rwa [isNew])
  rw [List.nil_append] at reached
  obtain ⟨-, -, beyond⟩ :=
    reached.answerCall withCapacity simulates.limits isPositive started
  obtain ⟨beyond, recent⟩ := beyond refused
  have limitEq :
      (new withCapacity max (Duration.fromSecs period) capacity createdAt
        elapsed).limit.toNat = min max.toNat 65534 :=
    (congrArg SlidingWindow.Params.limit simulates.sameParams).trans
      (limit_configured max period)
  rw [limitEq] at beyond
  have past :
      ∀ other ∈ earlier ++ [call], other.now ≤ call.now := by
    intro other member
    rcases List.mem_append.mp member with isEarlier | isLast
    · have pairwise := (List.pairwise_cons.mp ordered).2
      rw [List.pairwise_append] at pairwise
      exact pairwise.2.2 other.now (List.mem_map_of_mem isEarlier) call.now
        (List.mem_singleton_self _)
    · rw [List.mem_singleton.mp isLast]
  exact Nat.lt_of_lt_of_le beyond
    (callsSince_le_callsInTwoPeriods (by omega) past call.ip)

/-- A call by one address, at the time the limiter is made. -/
def callAtStart : ClockedCall where
  ip :=
    .v4 (.new 1 1 1 1)
  now :=
    0
  readAt :=
    0

/-- The second of two calls at once is over a limit of one. -/
theorem lt_callsInTwoPeriods_of_refused_second_call :
    min (1 : UInt16).toNat 65534 <
      callsInTwoPeriods ([callAtStart] ++ [callAtStart]) callAtStart.ip
        (Duration.fromSecs 1) callAtStart.now :=
  lt_callsInTwoPeriods_of_refused id 1 0 0 (by decide) (by decide)
    (by decide) (by decide)

/-- The limiter with the highest limit after some calls at its start. -/
def busyLimiter (calls : Nat) : RateLimiter where
  limit :=
    65534
  samplingPeriod :=
    Duration.fromSecs 1
  bucketGreen := {
    startsAt := 0
    inner := {
      entries := AList.singleton callAtStart.ip ⟨UInt16.ofNat calls⟩
      capacity := 1
    }
  }
  bucketBlue :=
    .new id 0 1

theorem answerCall_busyLimiter
    {calls : Nat}
    (free : calls < 65535) :
    (busyLimiter calls).answerCall id callAtStart =
      (.ok (decide (calls + 1 ≤ 65534)), busyLimiter (calls + 1)) := by
  have limits : (busyLimiter calls).limit ≠ 0 :=
    show (65534 : UInt16) ≠ 0 by decide
  have kept :
      (busyLimiter calls).rotate id callAtStart.now = busyLimiter calls :=
    rotate_of_within id (busyLimiter calls) callAtStart.now
      (show (0 : Int) < 0 + Duration.fromSecs 1 by decide)
  have next :
      saturatingSucc (UInt16.ofNat calls) = UInt16.ofNat (calls + 1) := by
    apply UInt16.toNat_inj.mp
    rw [toNat_saturatingSucc, UInt16.toNat_ofNat', UInt16.toNat_ofNat']
    omega
  have counted :
      (busyLimiter calls).count callAtStart.ip =
        .ok (UInt16.ofNat (calls + 1), busyLimiter (calls + 1)) := by
    have entered :
        (busyLimiter calls).count callAtStart.ip =
          .ok (saturatingSucc (UInt16.ofNat calls),
            (busyLimiter calls).setCurrInner
              ((busyLimiter calls).currBucket.inner.insert callAtStart.ip
                ⟨saturatingSucc (UInt16.ofNat calls)⟩)) :=
      rfl
    rw [entered, next]
    rfl
  have fits : (UInt16.ofNat (calls + 1)).toNat = calls + 1 := by
    rw [UInt16.toNat_ofNat']
    omega
  unfold RateLimiter.answerCall canResume
  rw [if_neg limits, kept]
  dsimp only
  rw [counted]
  dsimp only
  rw [fits]
  have nothing :
      (busyLimiter (calls + 1)).prevBucket.inner.get callAtStart.ip = none :=
    rfl
  simp only [nothing]
  rw [Nat.le_zero.mp (getApprox_le 0 _ _), Nat.zero_add]
  rfl

/-- The first call makes a new limiter busy. -/
theorem final_replicate_callAtStart
    {calls : Nat}
    (free : calls < 65535) :
    StepRun.final (answerCall id)
        (new id 0xFFFF (Duration.fromSecs 1) 1 0 0)
        (List.replicate (calls + 1) callAtStart) =
      busyLimiter (calls + 1) := by
  induction calls with
  | zero =>
      rfl
  | succ calls inductionHypothesis =>
      rw [List.replicate_succ', StepRun.final_append,
        inductionHypothesis (by omega)]
      exact congrArg Prod.snd (answerCall_busyLimiter (by omega))

/--
A limit of 65535 is kept as 65534: the 65535th call at once is refused, although
its address made no more calls than the limit.
-/
theorem not_lt_callsInTwoPeriods_highest_limit :
    ¬ ∀ (withCapacity : Nat → Nat) (max : UInt16) (period capacity : Nat)
        (createdAt : Int) (elapsed : Nat) (earlier : List ClockedCall)
        (call : ClockedCall),
      max ≠ 0 →
      0 < period →
      (createdAt :: (earlier ++ [call]).map ClockedCall.now).Pairwise (· ≤ ·) →
      ((StepRun.final (answerCall withCapacity)
        (new withCapacity max (Duration.fromSecs period) capacity createdAt
          elapsed) earlier).answerCall withCapacity call).1 = .ok false →
      max.toNat <
        callsInTwoPeriods (earlier ++ [call]) call.ip
          (Duration.fromSecs period) call.now := by
  intro exceeds
  have calls :
      List.replicate (65533 + 1) callAtStart ++ [callAtStart] =
        List.replicate 65535 callAtStart :=
    List.replicate_succ'.symm
  have ordered :
      (0 :: (List.replicate (65533 + 1) callAtStart ++ [callAtStart]).map
        ClockedCall.now).Pairwise (· ≤ ·) := by
    rw [calls, List.map_replicate]
    exact List.pairwise_replicate_of_refl (n := 65536)
  have refused :
      ((StepRun.final (answerCall id)
        (new id 0xFFFF (Duration.fromSecs 1) 1 0 0)
        (List.replicate (65533 + 1) callAtStart)).answerCall id
          callAtStart).1 = .ok false := by
    rw [final_replicate_callAtStart (by decide),
      answerCall_busyLimiter (by decide)]
    rfl
  have beyond :=
    exceeds id 0xFFFF 1 1 0 0 _ _ (by decide) (by decide) ordered refused
  rw [calls] at beyond
  have most :
      callsInTwoPeriods (List.replicate 65535 callAtStart) callAtStart.ip
          (Duration.fromSecs 1) callAtStart.now ≤ 65535 :=
    Nat.le_trans List.countP_le_length (Nat.le_of_eq List.length_replicate)
  exact absurd beyond (Nat.not_lt.mpr most)

end Refused

end Pingoo.RateLimiter
