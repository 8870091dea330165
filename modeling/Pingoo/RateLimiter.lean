import Mathlib.Data.List.AList
import Pingoo.Clock
import Pingoo.Net

namespace Pingoo

/-!
# Rate limiter

Two buckets, green and blue, hold the counters of the current and of the
previous window.  Which of them is current follows from their start instants.  A
call first moves the windows forward, then counts the address it is for, and
answers from the counters of both buckets.

A call reads the clock twice: once to move the windows and once for the age of
the current window.
-/

/-- `u16::saturating_add(1)`. -/
def saturatingSucc (value : UInt16) : UInt16 :=
  if value = 0xFFFF then value else value + 1

/-- The number of calls one address made in one window. -/
structure Counter where
  sum : UInt16
  deriving Repr, DecidableEq

namespace Counter

def new : Counter where
  sum :=
    0

def increment (counter : Counter) : Counter where
  sum :=
    saturatingSucc counter.sum

end Counter

/--
The hash map of a bucket.  `capacity` is what the map itself reports; inserting
below it leaves it as it is, and the limiter never inserts at it.
-/
structure CounterMap where
  entries : AList fun _ : IpAddr => Counter
  capacity : Nat

namespace CounterMap

/-- The number of addresses that have a counter. -/
def len (map : CounterMap) : Nat :=
  map.entries.entries.length

def get (map : CounterMap) (ip : IpAddr) : Option Counter :=
  map.entries.lookup ip

def insert (map : CounterMap) (ip : IpAddr) (counter : Counter) : CounterMap :=
  { map with entries := map.entries.insert ip counter }

end CounterMap

structure RateLimiterBucket where
  startsAt : Int
  inner : CounterMap

structure RateLimiter where
  limit : UInt16
  samplingPeriod : Nat
  bucketGreen : RateLimiterBucket
  bucketBlue : RateLimiterBucket

/-- The start of the window before the one that starts at `instant`. -/
def createPrevWindow
    (instant : Int)
    (elapsed samplingPeriod : Nat) : Int :=
  if elapsed < samplingPeriod then
    instant
  else
    instant - samplingPeriod

/-- The share of the previous window that still counts. -/
def getApprox
    (prevCounter : UInt16)
    (windowNeedle samplingPeriod : Nat) : Nat :=
  if samplingPeriod ≤ windowNeedle then
    0
  else
    prevCounter.toNat *
        (Duration.asSecs samplingPeriod - Duration.asSecs windowNeedle) /
      Duration.asSecs samplingPeriod

section

-- what `capacity()` reports for a map made by `HashMap::with_capacity`
variable (withCapacity : Nat → Nat)

/-- An empty bucket for a requested capacity. -/
def RateLimiterBucket.new
    (startsAt : Int)
    (capacity : Nat) : RateLimiterBucket where
  startsAt :=
    startsAt
  inner := {
    entries := ∅
    capacity := withCapacity capacity
  }

namespace RateLimiter

/--
A limiter made at `now`.  `elapsed` is the time since `now` when the start of
the previous window is chosen.
-/
def new
    (limit : UInt16)
    (samplingPeriod : Nat)
    (capacity : Nat)
    (now : Int)
    (elapsed : Nat) : RateLimiter where
  limit :=
    if limit = 0xFFFF then limit - 1 else limit
  samplingPeriod :=
    samplingPeriod
  bucketGreen :=
    .new withCapacity now capacity
  bucketBlue :=
    .new withCapacity (createPrevWindow now elapsed samplingPeriod) capacity

/-- Green is current unless blue started later. -/
def isGreenBucketCurrent (limiter : RateLimiter) : Bool :=
  limiter.bucketBlue.startsAt ≤ limiter.bucketGreen.startsAt

def currBucket (limiter : RateLimiter) : RateLimiterBucket :=
  if limiter.isGreenBucketCurrent then
    limiter.bucketGreen
  else
    limiter.bucketBlue

def prevBucket (limiter : RateLimiter) : RateLimiterBucket :=
  if limiter.isGreenBucketCurrent then
    limiter.bucketBlue
  else
    limiter.bucketGreen

/-- Write the counters of the current bucket back. -/
def setCurrInner (limiter : RateLimiter) (inner : CounterMap) : RateLimiter :=
  if limiter.isGreenBucketCurrent then
    { limiter with
      bucketGreen := { limiter.bucketGreen with inner := inner } }
  else
    { limiter with
      bucketBlue := { limiter.bucketBlue with inner := inner } }

def isWithinCurrBucketWindow
    (limiter : RateLimiter)
    (now currStartsAt : Int) : Bool :=
  now < currStartsAt + limiter.samplingPeriod

def isOutsideNextMonothonicWindow
    (limiter : RateLimiter)
    (now currStartsAt : Int) : Bool :=
  currStartsAt + 2 * limiter.samplingPeriod ≤ now

/-- Move the windows forward to `now`. -/
def rotate (limiter : RateLimiter) (now : Int) : RateLimiter :=
  let startsAt := limiter.currBucket.startsAt
  if !limiter.isWithinCurrBucketWindow now startsAt &&
      decide (0 < limiter.samplingPeriod) then
    let capacity := limiter.bucketGreen.inner.capacity
    -- the age that is tested is the green bucket's, whichever one is current
    if limiter.isOutsideNextMonothonicWindow now
        limiter.bucketGreen.startsAt then
      { limiter with
        bucketGreen := .new withCapacity now capacity
        bucketBlue := .new withCapacity now capacity }
    else if limiter.isGreenBucketCurrent then
      { limiter with
        bucketBlue :=
          .new withCapacity
            (limiter.bucketGreen.startsAt + limiter.samplingPeriod) capacity }
    else
      { limiter with
        bucketGreen :=
          .new withCapacity
            (limiter.bucketBlue.startsAt + limiter.samplingPeriod) capacity }
  else
    limiter

/--
Count one call in the current bucket and give the new count; a full bucket takes
no new address.
-/
def count (limiter : RateLimiter) (ip : IpAddr) :
    Except Unit (UInt16 × RateLimiter) :=
  let inner := limiter.currBucket.inner
  match inner.get ip with
  | some counter =>
      let counter := counter.increment
      .ok (counter.sum, limiter.setCurrInner (inner.insert ip counter))
  | none =>
      if inner.capacity = inner.len then
        .error ()
      else
        let counter := Counter.new.increment
        .ok (counter.sum, limiter.setCurrInner (inner.insert ip counter))

/-- Whether a request of this address may go on. -/
def canResume
    (limiter : RateLimiter)
    (ip : IpAddr)
    (now readAt : Int) : Except Unit Bool × RateLimiter :=
  if limiter.limit = 0 then
    (.ok false, limiter)
  else
    let limiter := limiter.rotate withCapacity now
    match limiter.count ip with
    | .error () =>
        (.error (), limiter)
    | .ok (currSum, counted) =>
        let prevSum :=
          match counted.prevBucket.inner.get ip with
          | some counter => counter.sum
          | none => 0
        let approx :=
          getApprox prevSum
            (Duration.between counted.currBucket.startsAt readAt)
            counted.samplingPeriod
        (.ok (approx + currSum.toNat ≤ counted.limit.toNat), counted)

/-- One call: the address it is for and the time it is made at. -/
structure Call where
  ip : IpAddr
  time : Int
  deriving Repr, DecidableEq

/-- A call during which the clock does not move. -/
def call (limiter : RateLimiter) (made : Call) :
    Except Unit Bool × RateLimiter :=
  limiter.canResume withCapacity made.ip made.time made.time

end RateLimiter

end

end Pingoo
