import Mathlib.Algebra.Group.Nat.Even
import Mathlib.Data.Nat.GCD.Basic
import Mathlib.Data.Nat.Log
import Pingoo.RateLimiterRefusals

namespace Pingoo.RateLimiter

/-!
# How many addresses a limiter counts

A bucket takes new addresses until its map is full by the map's own account, so
the capacity that counts is the one the map reports.  The documented law, that a
bucket holds as many addresses as were asked for, holds exactly when the map
reports what was asked for.
-/

/-- What the capacity law says of a state and of the calls made in it. -/
structure KeepsCapacity
    (withCapacity : Nat → Nat)
    (capacity : Nat)
    (limiter : RateLimiter) : Prop where
  bounded :
    limiter.bucketGreen.inner.len ≤ capacity ∧
      limiter.bucketBlue.inner.len ≤ capacity
  refuses :
    ∀ call : ClockedCall,
      (limiter.answerCall withCapacity call).1 = .error () ↔
        (limiter.rotate withCapacity call.now).currBucket.inner.get call.ip =
            none ∧
          (limiter.rotate withCapacity call.now).currBucket.inner.len =
            capacity
  unchanged :
    ∀ call : ClockedCall,
      (limiter.answerCall withCapacity call).1 = .error () →
      ∀ ip,
        (limiter.answerCall withCapacity call).2.bucketGreen.inner.get ip =
            limiter.bucketGreen.inner.get ip ∧
          (limiter.answerCall withCapacity call).2.bucketBlue.inner.get ip =
            limiter.bucketBlue.inner.get ip

/-- The capacity law: it holds in every state of every run that limits. -/
def CapacityLaw (withCapacity : Nat → Nat) (capacity : Nat) : Prop :=
  ∀ (max : UInt16) (samplingPeriod : Nat) (createdAt : Int) (elapsed : Nat)
    (calls : List ClockedCall),
    max ≠ 0 →
    KeepsCapacity withCapacity capacity
      (StepRun.final (answerCall withCapacity)
        (new withCapacity max samplingPeriod capacity createdAt elapsed) calls)

/-- The documented capacities of a map: three, or 7/8 of a power of two. -/
def SevenEighths (withCapacity : Nat → Nat) : Prop :=
  ∀ capacity, 0 < capacity →
    withCapacity capacity = 3 ∨
      ∃ eighth, eighth.isPowerOfTwo ∧ withCapacity capacity = 7 * eighth

section Map

variable {map : CounterMap} {ip : IpAddr} {counter : Counter}

/-- Writing the counter of an address that has one adds no address. -/
theorem len_insert_of_some
    {present : Counter}
    (found : map.get ip = some present) :
    (map.insert ip counter).len = map.len := by
  have member : ip ∈ map.entries.keys :=
    AList.lookup_isSome.mp (Option.isSome_of_eq_some found)
  have keys :=
    congrArg List.length
      (AList.keys_insert (a := ip) (b := counter) map.entries)
  rw [List.length_cons, List.length_erase_of_mem member] at keys
  have positive := List.length_pos_of_mem member
  simp only [AList.keys, List.keys, List.length_map] at keys positive
  simp only [CounterMap.len, CounterMap.insert]
  omega

/-- Writing the counter of a new address adds one. -/
theorem len_insert_of_none
    (absent : map.get ip = none) :
    (map.insert ip counter).len = map.len + 1 := by
  have notMember : ip ∉ map.entries :=
    AList.lookup_eq_none.mp absent
  simp only [CounterMap.len, CounterMap.insert,
    AList.entries_insert_of_notMem notMember, List.length_cons]

end Map

section Rotate

variable (withCapacity : Nat → Nat) (limiter : RateLimiter) (now : Int)

/-- A bucket is kept when the windows move, or made anew. -/
theorem bucketGreen_rotate :
    (limiter.rotate withCapacity now).bucketGreen = limiter.bucketGreen ∨
      ∃ startsAt, (limiter.rotate withCapacity now).bucketGreen =
        .new withCapacity startsAt limiter.bucketGreen.inner.capacity := by
  unfold rotate
  dsimp only
  split_ifs
  · exact Or.inr ⟨_, rfl⟩
  · exact Or.inl rfl
  · exact Or.inr ⟨_, rfl⟩
  · exact Or.inl rfl

theorem bucketBlue_rotate :
    (limiter.rotate withCapacity now).bucketBlue = limiter.bucketBlue ∨
      ∃ startsAt, (limiter.rotate withCapacity now).bucketBlue =
        .new withCapacity startsAt limiter.bucketGreen.inner.capacity := by
  unfold rotate
  dsimp only
  split_ifs
  · exact Or.inr ⟨_, rfl⟩
  · exact Or.inr ⟨_, rfl⟩
  · exact Or.inl rfl
  · exact Or.inl rfl

/-- When the windows move, the current bucket is a new one. -/
theorem rotate_eq_or_fresh :
    limiter.rotate withCapacity now = limiter ∨
      ∃ startsAt, (limiter.rotate withCapacity now).currBucket =
        .new withCapacity startsAt limiter.bucketGreen.inner.capacity := by
  unfold rotate
  dsimp only
  split_ifs with turns outside green
  · refine Or.inr ⟨now, ?_⟩
    simp [currBucket, isGreenBucketCurrent]
  · have positive : 0 < limiter.samplingPeriod := by
      simpa using (Bool.and_eq_true_iff.mp turns).2
    have later :
        ¬ limiter.bucketGreen.startsAt + limiter.samplingPeriod ≤
          limiter.bucketGreen.startsAt := by
      omega
    refine Or.inr ⟨limiter.bucketGreen.startsAt + limiter.samplingPeriod, ?_⟩
    simp [currBucket, isGreenBucketCurrent, RateLimiterBucket.new, later]
  · have earlier :
        limiter.bucketBlue.startsAt ≤
          limiter.bucketBlue.startsAt + limiter.samplingPeriod := by
      omega
    refine Or.inr ⟨limiter.bucketBlue.startsAt + limiter.samplingPeriod, ?_⟩
    simp [currBucket, isGreenBucketCurrent, RateLimiterBucket.new, earlier]
  · exact Or.inl rfl

end Rotate

/-- A property of the maps of both buckets. -/
structure BothMaps (holds : CounterMap → Prop) (limiter : RateLimiter) :
    Prop where
  green : holds limiter.bucketGreen.inner
  blue : holds limiter.bucketBlue.inner

namespace BothMaps

variable {holds : CounterMap → Prop} {limiter : RateLimiter}

theorem currBucket (both : BothMaps holds limiter) :
    holds limiter.currBucket.inner := by
  unfold RateLimiter.currBucket
  split
  · exact both.green
  · exact both.blue

theorem setCurrInner
    {inner : CounterMap}
    (both : BothMaps holds limiter)
    (isInner : holds inner) :
    BothMaps holds (limiter.setCurrInner inner) := by
  unfold RateLimiter.setCurrInner
  split
  · exact ⟨isInner, both.blue⟩
  · exact ⟨both.green, isInner⟩

end BothMaps

section Call

variable {limiter : RateLimiter}

/-- Counting is refused where a new address meets a full map. -/
theorem count_eq_error_iff {ip : IpAddr} :
    limiter.count ip = .error () ↔
      limiter.currBucket.inner.get ip = none ∧
        limiter.currBucket.inner.capacity = limiter.currBucket.inner.len := by
  unfold count
  dsimp only
  cases limiter.currBucket.inner.get ip with
  | some counter =>
      simp
  | none =>
      simp only [true_and]
      split
      · next full =>
          exact iff_of_true rfl full
      · next free =>
          exact iff_of_false nofun free

/-- A call that is not refused writes one counter of the current bucket. -/
theorem count_eq_ok
    {ip : IpAddr}
    {sum : UInt16}
    {counted : RateLimiter}
    (accepted : limiter.count ip = .ok (sum, counted)) :
    ∃ counter,
      counted =
        limiter.setCurrInner
          (limiter.currBucket.inner.insert ip counter) ∧
      (limiter.currBucket.inner.get ip = none →
        limiter.currBucket.inner.capacity ≠
          limiter.currBucket.inner.len) := by
  unfold count at accepted
  dsimp only at accepted
  cases found : limiter.currBucket.inner.get ip with
  | some counter =>
      simp only [found, Except.ok.injEq, Prod.mk.injEq] at accepted
      exact ⟨_, accepted.2.symm, nofun⟩
  | none =>
      simp only [found] at accepted
      split at accepted
      · cases accepted
      · next free =>
          simp only [Except.ok.injEq, Prod.mk.injEq] at accepted
          exact ⟨_, accepted.2.symm, fun _ => free⟩

/-- What a call of a limiter that limits leaves behind, and when it fails. -/
theorem answerCall_cases
    (withCapacity : Nat → Nat)
    (call : ClockedCall)
    (limits : limiter.limit ≠ 0) :
    ((limiter.answerCall withCapacity call).1 = .error () ∧
      (limiter.rotate withCapacity call.now).count call.ip = .error () ∧
      (limiter.answerCall withCapacity call).2 =
        limiter.rotate withCapacity call.now) ∨
    ∃ sum,
      (limiter.answerCall withCapacity call).1 ≠ .error () ∧
      (limiter.rotate withCapacity call.now).count call.ip =
        .ok (sum, (limiter.answerCall withCapacity call).2) := by
  unfold answerCall
  obtain ⟨counting, answered⟩ | ⟨currSum, _, _, counting, -, answered⟩ :=
    canResume_cases withCapacity limits call.ip call.now call.readAt
  · rw [answered]
    exact Or.inl ⟨rfl, counting, rfl⟩
  · rw [answered]
    exact Or.inr ⟨currSum, nofun, counting⟩

end Call

section Capacity

variable {withCapacity : Nat → Nat} {requested capacity : Nat}

/-- The map reports this capacity and holds no more addresses. -/
structure Within (capacity : Nat) (map : CounterMap) : Prop where
  reported : map.capacity = capacity
  bounded : map.len ≤ capacity

theorem within_new
    {startsAt : Int}
    (reports : withCapacity requested = capacity) :
    Within capacity
      (RateLimiterBucket.new withCapacity startsAt requested).inner :=
  ⟨reports, Nat.zero_le _⟩

/-- A write that the code allows keeps the map within its capacity. -/
theorem Within.insert
    {map : CounterMap}
    {ip : IpAddr}
    {counter : Counter}
    (within : Within capacity map)
    (free : map.get ip = none → map.capacity ≠ map.len) :
    Within capacity (map.insert ip counter) := by
  refine ⟨within.reported, ?_⟩
  cases found : map.get ip with
  | some present =>
      rw [len_insert_of_some found]
      exact within.bounded
  | none =>
      have notFull := free found
      have reported := within.reported
      have bounded := within.bounded
      rw [len_insert_of_none found]
      omega

section Kept

variable {limiter : RateLimiter}

/-- A bucket made while the windows move asks for what the last one reports. -/
theorem BothMaps.rotate
    (stable : withCapacity capacity = capacity)
    (both : BothMaps (Within capacity) limiter)
    (now : Int) :
    BothMaps (Within capacity) (limiter.rotate withCapacity now) := by
  have reported := both.green.reported
  constructor
  · obtain same | ⟨startsAt, fresh⟩ :=
      bucketGreen_rotate withCapacity limiter now
    · rw [same]
      exact both.green
    · rw [fresh, reported]
      exact within_new stable
  · obtain same | ⟨startsAt, fresh⟩ :=
      bucketBlue_rotate withCapacity limiter now
    · rw [same]
      exact both.blue
    · rw [fresh, reported]
      exact within_new stable

theorem BothMaps.answerCall
    {call : ClockedCall}
    (stable : withCapacity capacity = capacity)
    (limits : limiter.limit ≠ 0)
    (both : BothMaps (Within capacity) limiter) :
    BothMaps (Within capacity) (limiter.answerCall withCapacity call).2 := by
  have rotated := both.rotate stable call.now
  obtain ⟨-, -, after⟩ | ⟨sum, -, counted⟩ :=
    answerCall_cases withCapacity call limits
  · rw [after]
    exact rotated
  · obtain ⟨counter, after, free⟩ := count_eq_ok counted
    rw [after]
    exact rotated.setCurrInner (rotated.currBucket.insert free)

/-- A call that is refused for want of room moves no window. -/
theorem rotate_eq_of_error
    {ip : IpAddr}
    {now : Int}
    (stable : withCapacity capacity = capacity)
    (positive : 0 < capacity)
    (both : BothMaps (Within capacity) limiter)
    (refused : (limiter.rotate withCapacity now).count ip = .error ()) :
    limiter.rotate withCapacity now = limiter := by
  obtain same | ⟨startsAt, fresh⟩ := rotate_eq_or_fresh withCapacity limiter now
  · exact same
  · have full := (count_eq_error_iff.mp refused).2
    rw [fresh, both.green.reported] at full
    have empty : withCapacity capacity = 0 :=
      full
    omega

/-- Every state within the capacity obeys the law. -/
theorem BothMaps.keepsCapacity
    (stable : withCapacity capacity = capacity)
    (positive : 0 < capacity)
    (limits : limiter.limit ≠ 0)
    (both : BothMaps (Within capacity) limiter) :
    KeepsCapacity withCapacity capacity limiter where
  bounded :=
    ⟨both.green.bounded, both.blue.bounded⟩
  refuses call := by
    have reported :=
      (both.rotate stable call.now).currBucket.reported
    have full :
        (limiter.rotate withCapacity call.now).count call.ip = .error () ↔ _ :=
      count_eq_error_iff
    rw [reported, eq_comm (a := capacity)] at full
    rw [← full]
    obtain ⟨refused, counting, -⟩ | ⟨sum, accepted, counting⟩ :=
      answerCall_cases withCapacity call limits
    · exact iff_of_true refused counting
    · rw [counting]
      exact iff_of_false accepted nofun
  unchanged call refused ip := by
    obtain ⟨-, counting, after⟩ | ⟨sum, accepted, -⟩ :=
      answerCall_cases withCapacity call limits
    · rw [after, rotate_eq_of_error stable positive both counting]
      exact ⟨rfl, rfl⟩
    · exact absurd refused accepted

end Kept

theorem answerCall_limit {limiter : RateLimiter} {call : ClockedCall} :
    (limiter.answerCall withCapacity call).2.limit = limiter.limit := by
  by_cases limits : limiter.limit = 0
  · simp [RateLimiter.answerCall, canResume, limits]
  · obtain ⟨-, -, after⟩ | ⟨sum, -, counted⟩ :=
      answerCall_cases withCapacity call limits
    · rw [after]
      exact rotate_limit withCapacity limiter call.now
    · obtain ⟨counter, after, -⟩ := count_eq_ok counted
      rw [after, setCurrInner_limit]
      exact rotate_limit withCapacity limiter call.now

/-- The law holds at the end of every run from such a state. -/
theorem BothMaps.keepsCapacity_final
    {limiter : RateLimiter}
    (stable : withCapacity capacity = capacity)
    (positive : 0 < capacity)
    (limits : limiter.limit ≠ 0)
    (both : BothMaps (Within capacity) limiter)
    (calls : List ClockedCall) :
    KeepsCapacity withCapacity capacity
      (StepRun.final (RateLimiter.answerCall withCapacity) limiter calls) := by
  induction calls generalizing limiter with
  | nil =>
      exact both.keepsCapacity stable positive limits
  | cons call rest inductionHypothesis =>
      refine inductionHypothesis ?_ (both.answerCall stable limits)
      rw [answerCall_limit]
      exact limits

/-- A map that reports what it was asked for makes the law hold. -/
theorem capacityLaw_of_stable
    (positive : 0 < capacity)
    (stable : withCapacity capacity = capacity) :
    CapacityLaw withCapacity capacity := by
  intro max samplingPeriod createdAt elapsed calls limits
  have kept :
      (new withCapacity max samplingPeriod capacity createdAt elapsed).limit ≠
        0 := by
    simp only [new]
    split_ifs with highest
    · rw [highest]
      decide
    · exact limits
  exact BothMaps.keepsCapacity_final stable positive kept
    ⟨within_new stable, within_new stable⟩ calls

end Capacity

section Overfull

/-- The address that a number below 2^64 is written as. -/
def numbered (number : Nat) : IpAddr :=
  .v6 (.ofFn fun index => UInt16.ofNat (number >>> (16 * index.val)))

theorem numbered_injective
    {first second : Nat}
    (firstBelow : first < 18446744073709551616)
    (secondBelow : second < 18446744073709551616)
    (same : numbered first = numbered second) :
    first = second := by
  have segments (index : Fin 8) :
      (first >>> (16 * index.val)) % 65536 =
        (second >>> (16 * index.val)) % 65536 := by
    have equal :=
      congrArg (fun segments => (segments[index] : UInt16).toNat)
        (IpAddr.v6.inj same)
    simpa using equal
  have zeroth : first % 65536 = second % 65536 :=
    segments 0
  have next : first / 65536 % 65536 = second / 65536 % 65536 := by
    simpa [Nat.shiftRight_eq_div_pow] using segments 1
  have third :
      first / 4294967296 % 65536 = second / 4294967296 % 65536 := by
    simpa [Nat.shiftRight_eq_div_pow] using segments 2
  have last :
      first / 281474976710656 % 65536 =
        second / 281474976710656 % 65536 := by
    simpa [Nat.shiftRight_eq_div_pow] using segments 3
  omega

/-- One call of each of the first addresses, all at one time. -/
def numberedCalls (count : Nat) : List ClockedCall :=
  (List.range count).map fun number => ⟨numbered number, 0, 0⟩

/-- A map in which each of the first addresses was counted once. -/
def numberedMap (reported : Nat) : Nat → CounterMap
  | 0 =>
      ⟨∅, reported⟩
  | count + 1 =>
      (numberedMap reported count).insert (numbered count)
        Counter.new.increment

@[simp] theorem capacity_numberedMap (reported count : Nat) :
    (numberedMap reported count).capacity = reported := by
  induction count with
  | zero =>
      rfl
  | succ count inductionHypothesis =>
      exact inductionHypothesis

/-- A number that was not reached yet has no counter. -/
theorem get_numberedMap
    {reported count number : Nat}
    (below : number < 18446744073709551616)
    (beyond : count ≤ number) :
    (numberedMap reported count).get (numbered number) = none := by
  induction count with
  | zero =>
      rfl
  | succ count inductionHypothesis =>
      have other : numbered number ≠ numbered count := by
        intro same
        have equal :=
          numbered_injective below (by omega) same
        omega
      exact (AList.lookup_insert_ne other).trans
        (inductionHypothesis (by omega))

theorem len_numberedMap
    {reported count : Nat}
    (below : count ≤ 18446744073709551616) :
    (numberedMap reported count).len = count := by
  induction count with
  | zero =>
      rfl
  | succ count inductionHypothesis =>
      have absent :=
        @get_numberedMap reported count count (by omega) (Nat.le_refl count)
      rw [numberedMap, len_insert_of_none absent,
        inductionHypothesis (by omega)]

variable (withCapacity : Nat → Nat) (capacity : Nat)

/-- A limiter in its first window, with what it counted there. -/
def startedLimiter (inner : CounterMap) : RateLimiter where
  limit :=
    1
  samplingPeriod :=
    Duration.fromSecs 1
  bucketGreen := {
    startsAt := 0
    inner := inner
  }
  bucketBlue :=
    .new withCapacity 0 capacity

/-- A new address that has room is counted. -/
theorem answerCall_startedLimiter
    {inner : CounterMap}
    {ip : IpAddr}
    (absent : inner.get ip = none)
    (free : inner.capacity ≠ inner.len) :
    ((startedLimiter withCapacity capacity inner).answerCall withCapacity
        ⟨ip, 0, 0⟩).2 =
      startedLimiter withCapacity capacity
        (inner.insert ip Counter.new.increment) := by
  have limits : (startedLimiter withCapacity capacity inner).limit ≠ 0 :=
    show (1 : UInt16) ≠ 0 by decide
  have kept :
      (startedLimiter withCapacity capacity inner).rotate withCapacity 0 =
        startedLimiter withCapacity capacity inner :=
    rotate_of_within withCapacity (startedLimiter withCapacity capacity inner) 0
      (show (0 : Int) < 0 + Duration.fromSecs 1 by decide)
  have counted :
      (startedLimiter withCapacity capacity inner).count ip =
        .ok (Counter.new.increment.sum,
          startedLimiter withCapacity capacity
            (inner.insert ip Counter.new.increment)) := by
    have current :
        (startedLimiter withCapacity capacity inner).currBucket.inner =
          inner :=
      rfl
    unfold count
    simp only [current, absent, if_neg free]
    rfl
  unfold RateLimiter.answerCall canResume
  rw [if_neg limits, kept]
  dsimp only
  rw [counted]

/-- While there is room every new address is counted. -/
theorem final_numberedCalls
    {count : Nat}
    (below : count ≤ 18446744073709551616)
    (room : count ≤ withCapacity capacity) :
    StepRun.final (RateLimiter.answerCall withCapacity)
        (new withCapacity 1 (Duration.fromSecs 1) capacity 0 0)
        (numberedCalls count) =
      startedLimiter withCapacity capacity
        (numberedMap (withCapacity capacity) count) := by
  induction count with
  | zero =>
      rfl
  | succ count inductionHypothesis =>
      have free :
          (numberedMap (withCapacity capacity) count).capacity ≠
            (numberedMap (withCapacity capacity) count).len := by
        rw [capacity_numberedMap, len_numberedMap (by omega)]
        omega
      rw [numberedCalls, List.range_succ, List.map_append,
        StepRun.final_append]
      rw [← numberedCalls, inductionHypothesis (by omega) (by omega)]
      exact answerCall_startedLimiter withCapacity capacity
        (get_numberedMap (by omega) (Nat.le_refl count)) free

variable {withCapacity capacity}

/-- A map with more room than was asked for holds too many addresses. -/
theorem not_capacityLaw_of_lt
    (below : capacity < 18446744073709551616)
    (larger : capacity < withCapacity capacity) :
    ¬ CapacityLaw withCapacity capacity := by
  intro law
  have kept :=
    law 1 (Duration.fromSecs 1) 0 0 (numberedCalls (capacity + 1)) (by decide)
  rw [final_numberedCalls withCapacity capacity (by omega) larger] at kept
  have bounded :
      (numberedMap (withCapacity capacity) (capacity + 1)).len ≤ capacity :=
    kept.bounded.1
  rw [len_numberedMap (by omega)] at bounded
  omega

end Overfull

/-- No power of two is three or 7/8 of a power of two. -/
theorem ne_sevenEighths
    {capacity : Nat}
    (isPower : capacity.isPowerOfTwo) :
    capacity ≠ 3 ∧
      ∀ eighth, eighth.isPowerOfTwo → capacity ≠ 7 * eighth := by
  obtain ⟨exponent, rfl⟩ := isPower
  have odd
      (factor : Nat)
      (coprime : Nat.Coprime factor 2)
      (divides : factor ∣ 2 ^ exponent) :
      factor = 1 :=
    Nat.dvd_one.mp ((coprime.pow_right exponent) ▸
      Nat.dvd_gcd (Nat.dvd_refl factor) divides)
  constructor
  · intro three
    have one := odd 3 (by decide) (Dvd.intro_left 1 (by omega))
    omega
  · intro eighth _ seven
    have one := odd 7 (by decide) ⟨eighth, seven⟩
    omega

/--
The capacity law holds exactly when the map reports the capacity it was asked
for, which a map with the documented capacities never does.
-/
theorem capacityLaw_iff_withCapacity_eq
    (withCapacity : Nat → Nat)
    (atLeast : ∀ requested, requested ≤ withCapacity requested)
    (capacity : Nat)
    (isPower : capacity.isPowerOfTwo)
    (isUsize : capacity < 18446744073709551616) :
    (CapacityLaw withCapacity capacity ↔ withCapacity capacity = capacity) ∧
      (SevenEighths withCapacity → ¬ CapacityLaw withCapacity capacity) := by
  have positive : 0 < capacity :=
    Nat.pos_of_isPowerOfTwo isPower
  have exact :
      CapacityLaw withCapacity capacity ↔ withCapacity capacity = capacity := by
    constructor
    · intro law
      by_contra differs
      have larger : capacity < withCapacity capacity :=
        Nat.lt_of_le_of_ne (atLeast capacity) (Ne.symm differs)
      exact not_capacityLaw_of_lt isUsize larger law
    · exact capacityLaw_of_stable positive
  refine ⟨exact, ?_⟩
  intro documented law
  have stable := exact.mp law
  obtain ⟨notThree, notSeven⟩ := ne_sevenEighths isPower
  obtain three | ⟨eighth, power, seven⟩ := documented capacity positive
  · exact notThree (stable.symm.trans three)
  · exact notSeven eighth power (stable.symm.trans seven)

section Table

/-- What a table of the documented sizes reports: three, or 7/8 of its slots. -/
def tableCapacity (requested : Nat) : Nat :=
  if requested = 0 then
    0
  else if requested < 4 then
    3
  else
    7 * (1 <<< Nat.clog 2 ((requested + 6) / 7))

theorem le_one_shiftLeft_clog (number : Nat) :
    number ≤ 1 <<< Nat.clog 2 number := by
  rw [Nat.one_shiftLeft]
  exact Nat.le_pow_clog Nat.one_lt_two number

theorem le_tableCapacity (requested : Nat) :
    requested ≤ tableCapacity requested := by
  have sevenths := le_one_shiftLeft_clog ((requested + 6) / 7)
  unfold tableCapacity
  split_ifs <;> omega

theorem sevenEighths_tableCapacity : SevenEighths tableCapacity := by
  intro capacity positive
  unfold tableCapacity
  rw [if_neg (Nat.ne_of_gt positive)]
  split_ifs
  · exact Or.inl rfl
  · exact Or.inr ⟨_, ⟨_, Nat.one_shiftLeft _⟩, rfl⟩

/-- The condition for the law, for the capacity of the repository's test. -/
theorem capacityLaw_iff_withCapacity_eq_sample :
    (CapacityLaw tableCapacity 8 ↔ tableCapacity 8 = 8) ∧
      (SevenEighths tableCapacity → ¬ CapacityLaw tableCapacity 8) :=
  capacityLaw_iff_withCapacity_eq tableCapacity le_tableCapacity 8 ⟨3, rfl⟩
    (by decide)

/-- A bucket made for eight addresses takes a ninth one. -/
theorem not_capacityLaw_eight :
    (∀ requested, requested ≤ tableCapacity requested) ∧
      SevenEighths tableCapacity ∧
      ¬ CapacityLaw tableCapacity 8 := by
  have larger : 8 < tableCapacity 8 := by
    have two := le_one_shiftLeft_clog 2
    show 8 < 7 * (1 <<< Nat.clog 2 2)
    omega
  exact ⟨le_tableCapacity, sevenEighths_tableCapacity,
    not_capacityLaw_of_lt (by decide) larger⟩

end Table

end Pingoo.RateLimiter
