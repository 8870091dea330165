import Mathlib.Data.Rat.Floor
import Mathlib.Tactic.FieldSimp
import Pingoo.RateLimiterRefusals

namespace Pingoo

/-!
# The estimate of the previous window

The source computes the estimate with 64-bit integers, and floors the two
durations to whole seconds before it subtracts them, under a guard that compares
them in nanoseconds.  For periods of whole seconds none of the operations
faults, and the estimate is monotone and at least the exact share.
-/

namespace U64

/-- `u64` subtraction; `none` where it underflows. -/
def checkedSub (first second : UInt64) : Option UInt64 :=
  if second ≤ first then some (first - second) else none

/-- `u64` multiplication; `none` where it overflows. -/
def checkedMul (first second : UInt64) : Option UInt64 :=
  if first.toNat * second.toNat < UInt64.size then
    some (first * second)
  else
    none

/-- `u64` division; `none` where it divides by zero. -/
def checkedDiv (first second : UInt64) : Option UInt64 :=
  if second = 0 then none else some (first / second)

/-- A difference that is not negative is exact. -/
theorem exists_checkedSub
    {first second : UInt64}
    (small : second.toNat ≤ first.toNat) :
    ∃ difference,
      checkedSub first second = some difference ∧
        difference.toNat = first.toNat - second.toNat := by
  have isLe : second ≤ first :=
    UInt64.le_iff_toNat_le.mpr small
  exact ⟨first - second, if_pos isLe, UInt64.toNat_sub_of_le _ _ isLe⟩

/-- A product that fits is exact. -/
theorem exists_checkedMul
    {first second : UInt64}
    (fits : first.toNat * second.toNat < UInt64.size) :
    ∃ product,
      checkedMul first second = some product ∧
        product.toNat = first.toNat * second.toNat := by
  refine ⟨first * second, if_pos fits, ?_⟩
  rw [UInt64.toNat_mul]
  exact Nat.mod_eq_of_lt fits

/-- A quotient by anything but zero is exact. -/
theorem exists_checkedDiv
    {first second : UInt64}
    (positive : 0 < second.toNat) :
    ∃ quotient,
      checkedDiv first second = some quotient ∧
        quotient.toNat = first.toNat / second.toNat := by
  have isOther : second ≠ 0 := by
    rintro rfl
    exact Nat.lt_irrefl 0 positive
  exact ⟨first / second, if_neg isOther, UInt64.toNat_div _ _⟩

end U64

namespace Duration

/-- `Duration::as_secs` as the `u64` that it is. -/
def asSecsU64 (duration : Nat) : UInt64 :=
  .ofNat (asSecs duration)

theorem toNat_asSecsU64
    {duration : Nat}
    (fits : asSecs duration < UInt64.size) :
    (asSecsU64 duration).toNat = asSecs duration := by
  rw [asSecsU64, UInt64.toNat_ofNat']
  exact Nat.mod_eq_of_lt fits

/-- A duration has no more whole seconds than a longer one. -/
theorem asSecs_le_asSecs {shorter longer : Nat} (isLe : shorter ≤ longer) :
    asSecs shorter ≤ asSecs longer :=
  Nat.div_le_div_right isLe

end Duration

/--
`get_approx` on `u64`s; `none` where a subtraction underflows, a multiplication
overflows or a division is by zero.
-/
def getApproxU64
    (prevCounter : UInt16)
    (windowNeedle samplingPeriod : Nat) : Option UInt64 := do
  if samplingPeriod ≤ windowNeedle then
    some 0
  else
    let remaining ← U64.checkedSub (Duration.asSecsU64 samplingPeriod)
      (Duration.asSecsU64 windowNeedle)
    let weighted ← U64.checkedMul prevCounter.toUInt64 remaining
    U64.checkedDiv weighted (Duration.asSecsU64 samplingPeriod)

/--
The share of the previous window that still counts, computed exactly: the
elapsed time is taken with its nanoseconds.
-/
def exactShare
    (prevCounter : UInt16)
    (windowNeedle samplingPeriod : Nat) : ℚ :=
  prevCounter.toNat * (samplingPeriod - windowNeedle) / samplingPeriod

section Estimate

variable {prevCounter : UInt16} {windowNeedle period : Nat}

/-- With a period of at most 65535 seconds, no operation faults. -/
theorem exists_getApproxU64
    (prevCounter : UInt16)
    (windowNeedle : Nat)
    {secs : Nat}
    (small : secs < 65536) :
    ∃ approx,
      getApproxU64 prevCounter windowNeedle (Duration.fromSecs secs) =
          some approx ∧
        approx.toNat =
          getApprox prevCounter windowNeedle (Duration.fromSecs secs) := by
  unfold getApproxU64 getApprox
  by_cases past : Duration.fromSecs secs ≤ windowNeedle
  · rw [if_pos past, if_pos past]
    exact ⟨0, rfl, rfl⟩
  rw [if_neg past, if_neg past]
  have notAfter := Duration.asSecs_le_asSecs (Nat.le_of_not_le past)
  have fits : Duration.asSecs (Duration.fromSecs secs) < UInt64.size := by
    rw [Duration.asSecs_fromSecs]
    exact Nat.lt_trans small (by decide)
  have periodSecs := Duration.toNat_asSecsU64 fits
  have elapsedSecs := Duration.toNat_asSecsU64 (Nat.lt_of_le_of_lt notAfter fits)
  have positive : 0 < secs := by
    rcases Nat.eq_zero_or_pos secs with rfl | positive
    · exact absurd (Nat.zero_le _) past
    · exact positive
  have isSmaller :
      (Duration.asSecsU64 windowNeedle).toNat ≤
        (Duration.asSecsU64 (Duration.fromSecs secs)).toNat := by
    rwa [periodSecs, elapsedSecs]
  obtain ⟨remaining, isRemaining, remainingNat⟩ :=
    U64.exists_checkedSub isSmaller
  rw [periodSecs, elapsedSecs, Duration.asSecs_fromSecs] at remainingNat
  have countSmall := prevCounter.toNat_lt
  have productFits :
      prevCounter.toUInt64.toNat * remaining.toNat < UInt64.size := by
    calc prevCounter.toUInt64.toNat * remaining.toNat
        ≤ 65536 * 65536 := by
          rw [UInt16.toNat_toUInt64, remainingNat]
          exact Nat.mul_le_mul (by omega) (by omega)
      _ < UInt64.size := by
          decide
  obtain ⟨weighted, isWeighted, weightedNat⟩ := U64.exists_checkedMul productFits
  have dividesBy :
      0 < (Duration.asSecsU64 (Duration.fromSecs secs)).toNat := by
    rwa [periodSecs, Duration.asSecs_fromSecs]
  obtain ⟨approx, isApprox, approxNat⟩ := U64.exists_checkedDiv dividesBy
  refine ⟨approx, ?_, ?_⟩
  · rw [isRemaining, Option.bind_eq_bind, Option.bind_some, isWeighted,
      Option.bind_some, isApprox]
  · rw [approxNat, weightedNat, remainingNat, periodSecs,
      UInt16.toNat_toUInt64, Duration.asSecs_fromSecs]

/-- Past the period nothing is left of the previous window. -/
theorem getApprox_of_le (past : period ≤ windowNeedle) :
    getApprox prevCounter windowNeedle period = 0 :=
  if_pos past

/-- The estimate does not increase with the elapsed time. -/
theorem getApprox_antitone (prevCounter : UInt16) (period : Nat) :
    Antitone fun windowNeedle => getApprox prevCounter windowNeedle period := by
  intro earlier later isLater
  dsimp only
  by_cases past : period ≤ later
  · rw [getApprox_of_le past]
    exact Nat.zero_le _
  · have stillIn : ¬ period ≤ earlier := fun earlierOver =>
      past (Nat.le_trans earlierOver isLater)
    have lessLeft := Duration.asSecs_le_asSecs isLater
    rw [getApprox, getApprox, if_neg past, if_neg stillIn]
    exact Nat.div_le_div_right
      (Nat.mul_le_mul_left _ (Nat.sub_le_sub_left lessLeft _))

/-- The estimate does not decrease with the count. -/
theorem getApprox_mono
    {fewer more : UInt16}
    (isLe : fewer.toNat ≤ more.toNat)
    (windowNeedle period : Nat) :
    getApprox fewer windowNeedle period ≤ getApprox more windowNeedle period := by
  unfold getApprox
  split
  · exact Nat.le_refl 0
  · exact Nat.div_le_div_right (Nat.mul_le_mul_right _ isLe)

/-- The estimate is not less than the exact share, rounded down. -/
theorem floor_exactShare_le_getApprox
    (prevCounter : UInt16)
    {secs : Nat}
    (stillIn : windowNeedle < Duration.fromSecs secs) :
    ⌊exactShare prevCounter windowNeedle (Duration.fromSecs secs)⌋ ≤
      (getApprox prevCounter windowNeedle (Duration.fromSecs secs) : Int) := by
  have positive : 0 < secs := by
    rcases Nat.eq_zero_or_pos secs with rfl | positive
    · simp [Duration.fromSecs] at stillIn
    · exact positive
  -- the seconds that are left are counted from the floor of the elapsed time
  have floored : Duration.asSecs windowNeedle * nanosPerSec ≤ windowNeedle :=
    Nat.div_mul_le_self _ _
  have notAfter : Duration.asSecs windowNeedle ≤ secs := by
    have atMost := Duration.asSecs_le_asSecs (Nat.le_of_lt stillIn)
    rwa [Duration.asSecs_fromSecs] at atMost
  have leftover :
      ((Duration.fromSecs secs : Nat) : ℚ) - windowNeedle ≤
        ((secs - Duration.asSecs windowNeedle : Nat) : ℚ) * nanosPerSec := by
    rw [sub_le_iff_le_add]
    exact_mod_cast (show Duration.fromSecs secs ≤
        (secs - Duration.asSecs windowNeedle) * nanosPerSec + windowNeedle by
      rw [Duration.fromSecs, Nat.sub_mul]
      omega)
  have scale : (0 : ℚ) < (nanosPerSec : Nat) := by
    norm_num [nanosPerSec]
  have share :
      exactShare prevCounter windowNeedle (Duration.fromSecs secs) ≤
        ((prevCounter.toNat *
          (secs - Duration.asSecs windowNeedle) : Nat) : ℚ) / (secs : Nat) :=
    calc exactShare prevCounter windowNeedle (Duration.fromSecs secs)
        ≤ prevCounter.toNat *
            (((secs - Duration.asSecs windowNeedle : Nat) : ℚ) *
              nanosPerSec) / (Duration.fromSecs secs : Nat) := by
          unfold exactShare
          gcongr
      _ = ((prevCounter.toNat *
            (secs - Duration.asSecs windowNeedle) : Nat) : ℚ) /
              (secs : Nat) := by
          rw [Duration.fromSecs, Nat.cast_mul, Nat.cast_mul, ← mul_assoc,
            mul_div_mul_right _ _ scale.ne']
  rw [getApprox, if_neg (Nat.not_le.mpr stillIn), Duration.asSecs_fromSecs,
    Int.natCast_ediv, ← Rat.floor_natCast_div_natCast]
  exact Int.floor_le_floor share

end Estimate

/-- What the limiter relies on when it estimates the previous window. -/
structure EstimatesSafely (samplingPeriod : Nat) : Prop where
  noFault :
    ∀ prevCounter windowNeedle, ∃ approx,
      getApproxU64 prevCounter windowNeedle samplingPeriod = some approx ∧
        approx.toNat = getApprox prevCounter windowNeedle samplingPeriod
  atMostCount :
    ∀ prevCounter windowNeedle,
      getApprox prevCounter windowNeedle samplingPeriod ≤ prevCounter.toNat
  antitone :
    ∀ prevCounter,
      Antitone fun windowNeedle =>
        getApprox prevCounter windowNeedle samplingPeriod
  monotone :
    ∀ fewer more windowNeedle, fewer.toNat ≤ more.toNat →
      getApprox fewer windowNeedle samplingPeriod ≤
        getApprox more windowNeedle samplingPeriod
  zeroPastPeriod :
    ∀ prevCounter windowNeedle, samplingPeriod ≤ windowNeedle →
      getApprox prevCounter windowNeedle samplingPeriod = 0
  atLeastShare :
    ∀ prevCounter windowNeedle, windowNeedle < samplingPeriod →
      ⌊exactShare prevCounter windowNeedle samplingPeriod⌋ ≤
        (getApprox prevCounter windowNeedle samplingPeriod : Int)

/-- Periods of seconds that fit 16 bits are estimated safely. -/
theorem estimatesSafely_fromSecs {secs : Nat} (small : secs < 65536) :
    EstimatesSafely (Duration.fromSecs secs) where
  noFault prevCounter windowNeedle :=
    exists_getApproxU64 prevCounter windowNeedle small
  atMostCount prevCounter windowNeedle :=
    RateLimiter.getApprox_le prevCounter windowNeedle _
  antitone prevCounter :=
    getApprox_antitone prevCounter _
  monotone _ _ windowNeedle isLe :=
    getApprox_mono isLe windowNeedle _
  zeroPastPeriod _ _ past :=
    getApprox_of_le past
  atLeastShare prevCounter _ stillIn :=
    floor_exactShare_le_getApprox prevCounter stillIn

namespace RateLimiter

variable (withCapacity : Nat → Nat) (limiter : RateLimiter)

/-- A later call finds the windows of the limiter as they are. -/
def StaysInWindow (later : Int) : Prop :=
  limiter.isWithinCurrBucketWindow later limiter.currBucket.startsAt = true ∨
    limiter.samplingPeriod = 0

/--
An address that may go on may also go on when it waits inside the window: the
limiter has moved its windows to `now`, and has the same counts at both times.
-/
def WaitingAdmits : Prop :=
  ∀ ip now readAt later laterReadAt,
    readAt ≤ laterReadAt →
    (limiter.rotate withCapacity now).StaysInWindow later →
    (limiter.canResume withCapacity ip now readAt).1 = .ok true →
      ((limiter.rotate withCapacity now).canResume withCapacity ip later
        laterReadAt).1 = .ok true

theorem rotate_of_staysInWindow
    {limiter : RateLimiter}
    {later : Int}
    (stays : limiter.StaysInWindow later) :
    limiter.rotate withCapacity later = limiter := by
  rcases stays with within | noPeriod
  · exact rotate_of_within withCapacity limiter later (of_decide_eq_true within)
  · simp [rotate, noPeriod]

/-- The later call reads the same counters, and a smaller estimate. -/
theorem waitingAdmits : limiter.WaitingAdmits withCapacity := by
  intro ip now readAt later laterReadAt isLater stays admitted
  by_cases noLimit : limiter.limit = 0
  · rw [canResume, if_pos noLimit] at admitted
    cases admitted
  have limits : (limiter.rotate withCapacity now).limit ≠ 0 := by
    rwa [rotate_limit]
  have kept := rotate_of_staysInWindow withCapacity stays
  rw [canResume, if_neg noLimit] at admitted
  rw [canResume, if_neg limits, kept]
  dsimp only at admitted ⊢
  cases counting : (limiter.rotate withCapacity now).count ip with
  | error refusal =>
      rw [counting] at admitted
      cases admitted
  | ok counted =>
      rw [counting] at admitted
      simp only [Except.ok.injEq, decide_eq_true_eq] at admitted ⊢
      refine Nat.le_trans (Nat.add_le_add_right ?_ _) admitted
      refine getApprox_antitone _ _ ?_
      exact Int.toNat_le_toNat (Int.sub_le_sub_right isLater _)

end RateLimiter

/--
For every period of whole seconds that fits 16 bits, also 0, the estimate of the
previous window is safe and monotone, so waiting in a window never turns an
admitted request into a refused one.
-/
theorem getApprox_safe_and_monotone (period : UInt16) :
    EstimatesSafely (Duration.fromSecs period.toNat) ∧
      ∀ (withCapacity : Nat → Nat) (limiter : RateLimiter),
        limiter.WaitingAdmits withCapacity :=
  ⟨estimatesSafely_fromSecs period.toNat_lt,
    fun withCapacity limiter => limiter.waitingAdmits withCapacity⟩

/-- Fifteen seconds into a window of a minute. -/
example :
    getApprox 42 (Duration.fromSecs 15) (Duration.fromSecs 60) = 31 := by
  decide

end Pingoo
