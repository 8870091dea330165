import Pingoo.Library.SpacedWindows
import Pingoo.RateLimiterRefinement

namespace Pingoo.RateLimiter

/-!
# How many requests a limiter lets through

A bucket counts every request of an address, so it lets at most `limit` of them
through while it is current.  The buckets that become current start at least a
period apart, so a period sees at most two of them.
-/

/-- One call: the address it is for and the two readings of the clock. -/
structure ClockedCall where
  ip : IpAddr
  now : Int
  readAt : Int
  deriving Repr, DecidableEq

/-- Whether a call makes another bucket current. -/
def replacesCurrent (limiter : RateLimiter) (now : Int) : Bool :=
  decide (limiter.limit ≠ 0) &&
    !limiter.isWithinCurrBucketWindow now limiter.currBucket.startsAt &&
      decide (0 < limiter.samplingPeriod)

/-- A limiter, and how many current buckets it has replaced. -/
structure Tracked where
  limiter : RateLimiter
  replaced : Nat

/--
An answer: for whom and when, in the lifetime of which current bucket, and when
the window of that bucket starts.
-/
structure Answered where
  ip : IpAddr
  time : Int
  lifetime : Nat
  startsAt : Int
  answer : Except Unit Bool

/-- Answer one call, and record which bucket was current. -/
def answerTracked
    (withCapacity : Nat → Nat)
    (tracked : Tracked)
    (call : ClockedCall) : Answered × Tracked :=
  let (answer, limiter) :=
    tracked.limiter.canResume withCapacity call.ip call.now call.readAt
  let replaced :=
    if tracked.limiter.replacesCurrent call.now then
      tracked.replaced + 1
    else
      tracked.replaced
  (⟨call.ip, call.now, replaced, limiter.currBucket.startsAt, answer⟩,
    ⟨limiter, replaced⟩)

/-- The address is answered `Ok(true)`. -/
def grantedTo (ip : IpAddr) (answered : Answered) : Bool :=
  decide (answered.ip = ip) && match answered.answer with
    | .ok true => true
    | _ => false

/-- The answers of the run of a new limiter. -/
def answersOf
    (withCapacity : Nat → Nat)
    (max : UInt16)
    (period capacity : Nat)
    (createdAt : Int)
    (elapsed : Nat)
    (calls : List ClockedCall) : List Answered :=
  StepRun.outputs (answerTracked withCapacity)
    ⟨new withCapacity max (Duration.fromSecs period) capacity createdAt
      elapsed, 0⟩ calls

section Rotate

variable (withCapacity : Nat → Nat) (limiter : RateLimiter) (now : Int)

/-- What replacing the current bucket does to the windows. -/
structure Replaces (before after : SlidingWindow.Windows IpAddr)
    (period : Nat) (now : Int) : Prop where
  spaced : before.start + period ≤ after.start
  started : after.start ≤ now
  within : now < after.start + period
  fresh : after.current = fun _ => 0

/-- A call after the current window starts a new one, a period later or more. -/
theorem replaces_rotate
    (positive : 0 < limiter.samplingPeriod)
    (after : limiter.currBucket.startsAt + limiter.samplingPeriod ≤ now) :
    Replaces limiter.windows (limiter.rotate withCapacity now).windows
      limiter.samplingPeriod now := by
  have rotation := rotation_rotate withCapacity limiter now positive
  generalize (limiter.rotate withCapacity now).windows = rotated at rotation
  cases rotation with
  | kept within =>
      exact absurd within (Int.not_lt.mpr after)
  | shifted begun within =>
      exact {
        spaced := Int.le_refl _
        started := begun
        within := by
          simp only
          omega
        fresh := rfl
      }
  | emptied isOver =>
      exact {
        spaced := isOver
        started := Int.le_refl now
        within := by
          simp only [SlidingWindow.empty]
          omega
        fresh := rfl
      }

end Rotate

/-- The answers for an address in the lifetime of one bucket. -/
abbrev grantedIn
    (answers : List Answered)
    (ip : IpAddr)
    (lifetime : Nat) : Nat :=
  answers.countP fun answered =>
    grantedTo ip answered && decide (answered.lifetime = lifetime)

section Granted

variable {answered : Answered} {answers : List Answered} {ip : IpAddr}

theorem grantedIn_cons_of_granted (granted : grantedTo ip answered = true) :
    grantedIn (answered :: answers) ip answered.lifetime =
      grantedIn answers ip answered.lifetime + 1 :=
  List.countP_cons_of_pos (by simp [granted])

theorem grantedIn_cons_of_not_granted
    (notGranted : ¬ grantedTo ip answered = true)
    (lifetime : Nat) :
    grantedIn (answered :: answers) ip lifetime =
      grantedIn answers ip lifetime :=
  List.countP_cons_of_neg (by simp [notGranted])

theorem grantedIn_cons_of_ne
    {lifetime : Nat}
    (differs : answered.lifetime ≠ lifetime) :
    grantedIn (answered :: answers) ip lifetime =
      grantedIn answers ip lifetime :=
  List.countP_cons_of_neg (by simp [differs])

end Granted

/--
What holds of the answers to come while the current bucket is the one of this
lifetime, with this window.
-/
structure WithinLimits
    (limit period lifetime : Nat)
    (window : SlidingWindow.Windows IpAddr)
    (answers : List Answered) : Prop where
  placed :
    ∀ answered ∈ answers,
      (answered.lifetime = lifetime ∧ answered.startsAt = window.start) ∨
        (lifetime < answered.lifetime ∧
          window.start + period ≤ answered.startsAt ∧ 0 < period)
  remaining :
    ∀ ip, grantedIn answers ip lifetime ≤ limit - window.current ip
  bounded :
    ∀ ip other, grantedIn answers ip other ≤ limit
  spaced :
    0 < period → ∀ ip,
      SpacedWindows.Spaced (grantedTo ip) Answered.lifetime Answered.startsAt
        Answered.time period answers

namespace WithinLimits

variable
  {limit period lifetime : Nat}
  {window : SlidingWindow.Windows IpAddr}

theorem nil : WithinLimits limit period lifetime window [] where
  placed :=
    nofun
  remaining _ :=
    Nat.zero_le _
  bounded _ _ :=
    Nat.zero_le _
  spaced _ _ := {
    within := nofun
    apart := nofun
  }

/-- One more answer of the current bucket, and what its count becomes. -/
theorem cons
    {counted : SlidingWindow.Windows IpAddr}
    {answered : Answered}
    {answers : List Answered}
    (rest : WithinLimits limit period lifetime counted answers)
    (sameStart : counted.start = window.start)
    (inLifetime : answered.lifetime = lifetime)
    (inWindow : answered.startsAt = window.start)
    (counts : ∀ ip, window.current ip ≤ counted.current ip)
    (countsGranted :
      ∀ ip, grantedTo ip answered = true →
        window.current ip + 1 ≤ counted.current ip ∧
          counted.current ip ≤ limit)
    (within :
      ∀ ip, grantedTo ip answered = true → 0 < period →
        window.start ≤ answered.time ∧
          answered.time < window.start + period) :
    WithinLimits limit period lifetime window (answered :: answers) := by
  have remaining :
      ∀ ip, grantedIn (answered :: answers) ip lifetime ≤
        limit - window.current ip := by
    intro ip
    have restRemaining := rest.remaining ip
    have more := counts ip
    by_cases granted : grantedTo ip answered = true
    · have counted := countsGranted ip granted
      rw [← inLifetime] at restRemaining ⊢
      rw [grantedIn_cons_of_granted granted]
      omega
    · rw [grantedIn_cons_of_not_granted granted]
      omega
  have placed :
      ∀ other ∈ answers,
        (other.lifetime = lifetime ∧ other.startsAt = window.start) ∨
          (lifetime < other.lifetime ∧
            window.start + period ≤ other.startsAt ∧ 0 < period) := by
    intro other member
    have isPlaced := rest.placed other member
    rwa [sameStart] at isPlaced
  refine {
    placed :=
      List.forall_mem_cons.mpr ⟨Or.inl ⟨inLifetime, inWindow⟩, placed⟩
    remaining := remaining
    bounded := ?_
    spaced := ?_
  }
  · intro ip other
    by_cases current : other = lifetime
    · subst current
      exact Nat.le_trans (remaining ip) (Nat.sub_le _ _)
    · have notCounted : answered.lifetime ≠ other := by
        rw [inLifetime]
        exact Ne.symm current
      rw [grantedIn_cons_of_ne notCounted]
      exact rest.bounded ip other
  · intro positive ip
    refine (rest.spaced positive ip).cons ?_ ?_
    · intro granted
      rw [inWindow]
      exact within ip granted positive
    · intro other member
      rcases placed other member with now | later
      · exact Or.inl (inLifetime.trans now.1.symm)
      · rw [inWindow]
        exact Or.inr (Or.inl later.2.1)

/-- Another bucket becomes current before the answers to come. -/
theorem of_replaces
    {now : Int}
    {after : SlidingWindow.Windows IpAddr}
    {answers : List Answered}
    (positive : 0 < period)
    (replaces : Replaces window after period now)
    (fromAfter : WithinLimits limit period (lifetime + 1) after answers) :
    WithinLimits limit period lifetime window answers := by
  have apart := replaces.spaced
  have later :
      ∀ answered ∈ answers,
        lifetime < answered.lifetime ∧
          window.start + period ≤ answered.startsAt ∧ 0 < period := by
    intro answered member
    rcases fromAfter.placed answered member with inNext | inLater
    · exact ⟨by omega, by omega, positive⟩
    · exact ⟨by omega, by omega, positive⟩
  refine {
    placed := fun answered member => Or.inr (later answered member)
    remaining := ?_
    bounded := fromAfter.bounded
    spaced := fromAfter.spaced
  }
  intro ip
  have none : grantedIn answers ip lifetime = 0 := by
    rw [grantedIn, List.countP_eq_zero]
    intro answered member granted
    rw [Bool.and_eq_true, decide_eq_true_eq] at granted
    have isLater := (later answered member).1
    omega
  omega

end WithinLimits

section Answer

variable (withCapacity : Nat → Nat)

/-- The limiter that counts a call: one that limits moves its windows first. -/
def atCall (limiter : RateLimiter) (now : Int) : RateLimiter :=
  if limiter.limit = 0 then limiter else limiter.rotate withCapacity now

theorem countIn_le (bucket : RateLimiterBucket) (ip : IpAddr) :
    countIn bucket ip ≤ 65535 := by
  unfold countIn
  split
  · next counter found =>
      have small := counter.sum.toNat_lt
      omega
  · omega

/-- What a call does to the limiter that counts it. -/
structure Resumes
    (limiter counting : RateLimiter)
    (ip : IpAddr)
    (answer : Except Unit Bool)
    (next : RateLimiter) : Prop where
  sameLimit : next.limit = limiter.limit
  samePeriod : next.samplingPeriod = limiter.samplingPeriod
  sameStart : next.windows.start = counting.windows.start
  counts : ∀ other, counting.windows.current other ≤ next.windows.current other
  countsGranted :
    answer = .ok true →
      limiter.limit ≠ 0 ∧
        counting.windows.current ip + 1 ≤ next.windows.current ip ∧
          next.windows.current ip ≤ limiter.limit.toNat

/-- A call counts once, and is granted only below the limit. -/
theorem resumes_canResume
    {limiter : RateLimiter}
    (limits : limiter.limit.toNat < 65535)
    (ip : IpAddr)
    (now readAt : Int) :
    Resumes limiter (limiter.atCall withCapacity now) ip
      (limiter.canResume withCapacity ip now readAt).1
      (limiter.canResume withCapacity ip now readAt).2 := by
  unfold atCall
  by_cases noLimit : limiter.limit = 0
  · rw [canResume, if_pos noLimit, if_pos noLimit]
    exact {
      sameLimit := rfl
      samePeriod := rfl
      sameStart := rfl
      counts := fun _ => Nat.le_refl _
      countsGranted := nofun
    }
  rw [if_neg noLimit]
  have answers := canResume_cases withCapacity noLimit ip now readAt
  generalize rotatedEq : limiter.rotate withCapacity now = rotated at answers ⊢
  have rotatedLimit : rotated.limit = limiter.limit := by
    simp [← rotatedEq]
  have rotatedPeriod : rotated.samplingPeriod = limiter.samplingPeriod := by
    simp [← rotatedEq]
  obtain ⟨-, answered⟩ | ⟨currSum, _, counted, counting, -, answered⟩ :=
    answers
  · rw [answered]
    exact {
      sameLimit := rotatedLimit
      samePeriod := rotatedPeriod
      sameStart := rfl
      counts := fun _ => Nat.le_refl _
      countsGranted := nofun
    }
  · rw [answered]
    dsimp only
    obtain ⟨sameLimit, samePeriod, tallied, currCount⟩ :=
      count_spec counting
    have atIp :
        counted.windows.current ip =
          min (rotated.windows.current ip + 1) 65535 := by
      rw [tallied]
      simp [SlidingWindow.tally, params]
    refine {
      sameLimit := sameLimit.trans rotatedLimit
      samePeriod := samePeriod.trans rotatedPeriod
      sameStart := by
        rw [tallied]
        rfl
      counts := ?_
      countsGranted := ?_
    }
    · intro other
      by_cases same : other = ip
      · subst same
        have small := countIn_le rotated.currBucket other
        simp only [windows] at atIp ⊢
        omega
      · rw [tallied]
        simp [SlidingWindow.tally, same]
    · intro granted
      simp only [Except.ok.injEq, decide_eq_true_eq] at granted
      rw [sameLimit, rotatedLimit, currCount] at granted
      exact ⟨noLimit, by omega, by omega⟩

/-- Whether the current bucket is replaced decides what a call counts in. -/
theorem atCall_spec
    (limiter : RateLimiter)
    (now : Int) :
    if limiter.replacesCurrent now then
      0 < limiter.samplingPeriod ∧
        Replaces limiter.windows (limiter.atCall withCapacity now).windows
          limiter.samplingPeriod now
    else
      limiter.atCall withCapacity now = limiter ∧
        (limiter.limit ≠ 0 → 0 < limiter.samplingPeriod →
          now < limiter.windows.start + limiter.samplingPeriod) := by
  by_cases noLimit : limiter.limit = 0
  · simp [replacesCurrent, atCall, noLimit]
  by_cases positive : 0 < limiter.samplingPeriod
  · by_cases within :
        now < limiter.currBucket.startsAt + limiter.samplingPeriod
    · have stays : limiter.replacesCurrent now = false := by
        simp [replacesCurrent, isWithinCurrBucketWindow, within]
      rw [stays, if_neg Bool.false_ne_true, atCall, if_neg noLimit,
        rotate_of_within withCapacity limiter now within]
      exact ⟨rfl, fun _ _ => within⟩
    · have turns : limiter.replacesCurrent now = true := by
        simp [replacesCurrent, isWithinCurrBucketWindow, noLimit, positive,
          Int.not_lt.mp within]
      rw [if_pos turns, atCall, if_neg noLimit]
      exact ⟨positive, replaces_rotate withCapacity limiter now positive
        (Int.not_lt.mp within)⟩
  · have stays : limiter.replacesCurrent now = false := by
      simp [replacesCurrent, positive]
    rw [stays, if_neg Bool.false_ne_true, atCall, if_neg noLimit]
    exact ⟨by simp [rotate, positive], fun _ isPositive =>
      (positive isPositive).elim⟩

end Answer

section Run

variable (withCapacity : Nat → Nat)

theorem of_grantedTo
    {ip : IpAddr}
    {answered : Answered}
    (granted : grantedTo ip answered = true) :
    answered.ip = ip ∧ answered.answer = .ok true := by
  rw [grantedTo, Bool.and_eq_true, decide_eq_true_eq] at granted
  refine ⟨granted.1, ?_⟩
  have isTrue := granted.2
  split at isTrue
  · assumption
  · cases isTrue

/-- The window that counts a call has started. -/
theorem start_atCall_le
    {limiter : RateLimiter}
    {now : Int}
    (started : limiter.windows.start ≤ now) :
    (limiter.atCall withCapacity now).windows.start ≤ now := by
  have turn := atCall_spec withCapacity limiter now
  split at turn
  · exact turn.2.started
  · rw [turn.1]
    exact started

/-- One call keeps the answers to come within the limits. -/
theorem withinLimits_answerTracked
    {limit period : Nat}
    {tracked : Tracked}
    {call : ClockedCall}
    {answers : List Answered}
    (limitEq : tracked.limiter.limit.toNat = limit)
    (periodEq : tracked.limiter.samplingPeriod = period)
    (limits : limit < 65535)
    (started : tracked.limiter.windows.start ≤ call.now)
    (rest :
      WithinLimits limit period
        (answerTracked withCapacity tracked call).2.replaced
        (answerTracked withCapacity tracked call).2.limiter.windows answers) :
    WithinLimits limit period tracked.replaced tracked.limiter.windows
      ((answerTracked withCapacity tracked call).1 :: answers) := by
  have resumes :=
    resumes_canResume withCapacity (limitEq ▸ limits) call.ip call.now
      call.readAt
  have turn := atCall_spec withCapacity tracked.limiter call.now
  have countingStarted := start_atCall_le withCapacity started
  generalize
    tracked.limiter.atCall withCapacity call.now = counting
    at resumes turn countingStarted
  have counted :
      WithinLimits limit period
        (answerTracked withCapacity tracked call).2.replaced counting.windows
        ((answerTracked withCapacity tracked call).1 :: answers) := by
    refine rest.cons resumes.sameStart rfl resumes.sameStart resumes.counts
      ?_ ?_
    · intro ip granted
      obtain ⟨rfl, answerEq⟩ := of_grantedTo granted
      have counts := resumes.countsGranted answerEq
      exact ⟨counts.2.1, limitEq ▸ counts.2.2⟩
    · intro ip granted positive
      have counts := resumes.countsGranted (of_grantedTo granted).2
      refine ⟨countingStarted, ?_⟩
      split at turn
      · exact periodEq ▸ turn.2.within
      · rw [turn.1, ← periodEq]
        exact turn.2 counts.1 (periodEq ▸ positive)
  -- the answer belongs to the next lifetime when the bucket is replaced
  cases turns : tracked.limiter.replacesCurrent call.now with
  | true =>
      rw [turns, if_pos rfl, periodEq] at turn
      have lifetimeEq :
          (answerTracked withCapacity tracked call).2.replaced =
            tracked.replaced + 1 := by
        simp [answerTracked, turns]
      rw [lifetimeEq] at counted
      exact .of_replaces turn.1 turn.2 counted
  | false =>
      rw [turns, if_neg Bool.false_ne_true] at turn
      have lifetimeEq :
          (answerTracked withCapacity tracked call).2.replaced =
            tracked.replaced := by
        simp [answerTracked, turns]
      rw [lifetimeEq, turn.1] at counted
      exact counted

/-- Every run keeps within the limits, from any state of the limiter. -/
theorem withinLimits_outputs
    {limit period : Nat}
    (tracked : Tracked)
    (limitEq : tracked.limiter.limit.toNat = limit)
    (periodEq : tracked.limiter.samplingPeriod = period)
    (limits : limit < 65535)
    (calls : List ClockedCall)
    (ordered :
      (tracked.limiter.windows.start ::
        calls.map ClockedCall.now).Pairwise (· ≤ ·)) :
    WithinLimits limit period tracked.replaced tracked.limiter.windows
      (StepRun.outputs (answerTracked withCapacity) tracked calls) := by
  induction calls generalizing tracked with
  | nil =>
      exact .nil
  | cons call rest inductionHypothesis =>
      obtain ⟨fromStart, restOrdered⟩ := List.pairwise_cons.mp ordered
      have started : tracked.limiter.windows.start ≤ call.now :=
        fromStart call.now List.mem_cons_self
      have resumes :=
        resumes_canResume withCapacity (limitEq ▸ limits) call.ip call.now
          call.readAt
      refine withinLimits_answerTracked withCapacity limitEq periodEq limits
        started (inductionHypothesis _ ?_ ?_ ?_)
      · exact (congrArg UInt16.toNat resumes.sameLimit).trans limitEq
      · exact resumes.samePeriod.trans periodEq
      · rw [List.map_cons, List.pairwise_cons] at restOrdered
        refine List.pairwise_cons.mpr ⟨?_, restOrdered.2⟩
        intro time member
        exact (Int.le_of_eq resumes.sameStart).trans
          ((start_atCall_le withCapacity started).trans
            (restOrdered.1 time member))

end Run

section New

variable
  (withCapacity : Nat → Nat)
  (max : UInt16)
  (period capacity : Nat)
  (createdAt : Int)
  (elapsed : Nat)

theorem configured_limit_lt : (configured max period).limit < 65535 := by
  rw [limit_configured]
  omega

/--
An address is granted at most `max` requests while one bucket is current, at
most twice as many in any period, and at most `max` at all if the period is
zero.
-/
theorem grantedTo_bounds
    {calls : List ClockedCall}
    (ordered :
      (createdAt :: calls.map ClockedCall.now).Pairwise (· ≤ ·))
    (ip : IpAddr) :
    (∀ lifetime,
      grantedIn
          (answersOf withCapacity max period capacity createdAt elapsed calls)
          ip lifetime ≤
        (configured max period).limit) ∧
      (1 ≤ period → ∀ begin : Int,
        (answersOf withCapacity max period capacity createdAt elapsed
          calls).countP (fun answered => grantedTo ip answered &&
            (decide (begin ≤ answered.time) &&
              decide (answered.time < begin + Duration.fromSecs period))) ≤
          2 * (configured max period).limit) ∧
        (period = 0 →
          (answersOf withCapacity max period capacity createdAt elapsed
            calls).countP (grantedTo ip) ≤
              (configured max period).limit) := by
  have within :
      WithinLimits (configured max period).limit (Duration.fromSecs period) 0
        (SlidingWindow.empty createdAt)
        (answersOf withCapacity max period capacity createdAt elapsed
          calls) := by
    have fromNew :=
      withinLimits_outputs withCapacity
        ⟨new withCapacity max (Duration.fromSecs period) capacity createdAt
          elapsed, 0⟩
        rfl rfl (configured_limit_lt max period) calls
        (by rwa [windows_new])
    rwa [windows_new] at fromNew
  refine ⟨within.bounded ip, ?_, ?_⟩
  · intro positive begin
    exact (within.spaced (Duration.fromSecs_pos positive) ip).countP_interval_le
      (within.bounded ip) begin
  · rintro rfl
    refine Nat.le_trans (List.countP_mono_left ?_) (within.bounded ip 0)
    intro answered member granted
    rcases within.placed answered member with ⟨inFirst, -⟩ | ⟨-, -, positive⟩
    · simp [granted, inFirst]
    · simp [Duration.fromSecs] at positive

/-- The bounds for two requests in one second and one in the next. -/
theorem grantedTo_bounds_three_calls :
    let ip : IpAddr := .v4 (.new 1 1 1 1)
    let answers :=
      answersOf id 1 1 2 0 0
        [⟨ip, 0, 0⟩, ⟨ip, 5, 5⟩, ⟨ip, nanosPerSec, nanosPerSec⟩]
    (∀ lifetime, grantedIn answers ip lifetime ≤ (configured 1 1).limit) ∧
      (1 ≤ 1 → ∀ begin : Int,
        answers.countP (fun answered => grantedTo ip answered &&
            (decide (begin ≤ answered.time) &&
              decide (answered.time < begin + Duration.fromSecs 1))) ≤
          2 * (configured 1 1).limit) ∧
        (1 = 0 → answers.countP (grantedTo ip) ≤ (configured 1 1).limit) :=
  grantedTo_bounds id 1 1 2 0 0 (by decide) (.v4 (.new 1 1 1 1))

end New

end Pingoo.RateLimiter
