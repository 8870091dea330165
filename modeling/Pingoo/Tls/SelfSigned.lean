import Pingoo.Library.Calendar
import Pingoo.Tls.Saving

namespace Pingoo.Tls

/-!
# The validity of a self-signed certificate

The default certificate is made to be valid from the day of its creation to the
same day of the next year.  The library panics when it is given a date that does
not exist, and 29 February has no same day in the next year.
-/

open Calendar Fallible

/-- Nanoseconds in one day. -/
def nanosPerDay : Nat :=
  86400 * nanosPerSec

/-- The day of the Unix epoch. -/
def epochDay : Int :=
  dayNumber 1970 1 1

/-- The date of a reading of the clock: its `year`, `month` and `day`. -/
def dateOf (now : Utc.DateTime) : Date :=
  .ofNumber (now.nanos / nanosPerDay + epochDay)

/--
What `rcgen` makes: the time of a date, `none` where `date_time_ymd` panics, and
the PEM files of a certificate with a validity and of its key.
-/
structure Rcgen where
  dateTimeYmd : Int → UInt8 → UInt8 → Option Int
  selfSigned : Int → Int → List Str → Except Error (Bytes × Bytes)

/--
What `date_time_ymd` is documented to do: it panics on a date that does not
exist, and on no date of the years that it can represent.
-/
structure Rcgen.ChecksDates (rcgen : Rcgen) (years : Int → Prop) : Prop where
  panics :
    ∀ year month day, ¬ IsDate year month.toNat day.toNat →
      rcgen.dateTimeYmd year month day = none
  returns :
    ∀ year month day, years year → IsDate year month.toNat day.toNat →
      (rcgen.dateTimeYmd year month day).isSome = true

section

variable
  (rcgen : Rcgen)
  (library : CertificateLibrary)
  (system : System)

/-- The validity that `generate_self_signed_certificates` starts with. -/
def selfSignedValidity (today : Date) : Except (Failure Error) (Int × Int) := do
  let notBefore ← expect
    (rcgen.dateTimeYmd today.year today.month.toUInt8 today.day.toUInt8)
  let notAfter ← expect
    (rcgen.dateTimeYmd (today.year + 1) today.month.toUInt8 today.day.toUInt8)
  .ok (notBefore, notAfter)

/-- What is done without the clock does not panic. -/
def withoutPanic
    (done : Except Error Certificate × Folder) :
    Except (Failure Error) Certificate × Folder :=
  (attempt done.1, done.2)

/-- `load_or_create_default_certificate`, with the clock that it may read. -/
def loadOrCreateDefaultCertificateAt
    (now : Utc.DateTime)
    (folder : Folder) : Except (Failure Error) Certificate × Folder :=
  if folder.lacksDefault then
    -- the dates come first, before a certificate is made and saved
    match selfSignedValidity rcgen (dateOf now) with
    | .error failure => (.error failure, folder)
    | .ok (notBefore, notAfter) =>
        withoutPanic (loadOrCreateDefaultCertificate
          { library with selfSigned := rcgen.selfSigned notBefore notAfter }
          system folder)
  else
    withoutPanic (loadOrCreateDefaultCertificate library system folder)

end

/--
Both dates that are passed to `date_time_ymd` exist, and the first is before the
second.
-/
def SelfSignedDatesExist (today : Date) : Prop :=
  let month := today.month.toUInt8.toNat
  let day := today.day.toUInt8.toNat
  IsDate today.year month day ∧
    IsDate (today.year + 1) month day ∧
      dayNumber today.year month day < dayNumber (today.year + 1) month day

section Dates

variable {rcgen : Rcgen} {years : Int → Prop}

/-- The year after the one of a date is an `i32`. -/
theorem year_dateOf_lt (now : Utc.DateTime) :
    (dateOf now).year + 1 < 2147483648 := by
  have inRange := now.inRange
  have inYear := (yearOf_spec (now.nanos / nanosPerDay + epochDay)).1
  have epoch : epochDay = 719162 := by
    decide
  simp only [Utc.minUtc, Utc.maxUtc, nanosPerSec] at inRange
  simp only [epoch, daysBeforeYear, nanosPerDay, nanosPerSec] at inYear
  change yearOf _ + 1 < _
  simp only [epoch, nanosPerDay, nanosPerSec]
  omega

/-- A month and a day of a month fit the bytes that they are passed as. -/
theorem toNat_toUInt8_dates (today : Date) :
    today.month.toUInt8.toNat = today.month ∧
      today.day.toUInt8.toNat = today.day := by
  have lastMonth := today.isDate.lastMonth
  have lastDay := today.isDate.lastDay
  have longest : monthLength today.year today.month ≤ 31 := by
    unfold monthLength
    split
    · split <;> decide
    · split <;> decide
  simp only [UInt8.toNat_ofNat']
  omega

theorem selfSignedDatesExist_iff (today : Date) :
    SelfSignedDatesExist today ↔ ¬ IsLeapDay today.month today.day := by
  obtain ⟨sameMonth, sameDay⟩ := toNat_toUInt8_dates today
  unfold SelfSignedDatesExist
  simp only [sameMonth, sameDay]
  rw [← today.isDate.in_next_year_iff]
  constructor
  · rintro ⟨-, nextExists, -⟩
    exact nextExists
  · intro nextExists
    exact ⟨today.isDate, nextExists, dayNumber_lt_next_year _ _ _⟩

/-- The dates are made unless the second one does not exist. -/
theorem noPanic_selfSignedValidity_iff
    (checks : rcgen.ChecksDates years)
    {today : Date}
    (thisYear : years today.year)
    (nextYear : years (today.year + 1)) :
    NoPanic (selfSignedValidity rcgen today) ↔
      ¬ IsLeapDay today.month today.day := by
  obtain ⟨sameMonth, sameDay⟩ := toNat_toUInt8_dates today
  rw [← today.isDate.in_next_year_iff]
  obtain ⟨notBefore, isBefore⟩ := Option.isSome_iff_exists.mp
    (checks.returns today.year today.month.toUInt8 today.day.toUInt8 thisYear
      (by rw [sameMonth, sameDay]; exact today.isDate))
  rw [selfSignedValidity, isBefore, expect, ok_bind, noPanic_bind_iff,
    expect_noPanic_iff]
  constructor
  · rintro ⟨⟨notAfter, isAfter⟩, -⟩
    by_contra missing
    rw [← sameMonth, ← sameDay] at missing
    rw [checks.panics _ _ _ missing] at isAfter
    cases isAfter
  · intro nextExists
    refine ⟨Option.isSome_iff_exists.mp (checks.returns _ _ _ nextYear ?_),
      fun notAfter _ => FailsOnly.ok _ _⟩
    rw [sameMonth, sameDay]
    exact nextExists

/-- A start panics when it makes the certificate without both dates. -/
theorem noPanic_loadOrCreateAt_iff
    (library : CertificateLibrary)
    (system : System)
    (now : Utc.DateTime)
    (folder : Folder) :
    NoPanic (loadOrCreateDefaultCertificateAt rcgen library system now
        folder).1 ↔
      (folder.lacksDefault = true →
        NoPanic (selfSignedValidity rcgen (dateOf now))) := by
  rw [loadOrCreateDefaultCertificateAt]
  split
  · next lacks =>
      cases selfSignedValidity rcgen (dateOf now) with
      | error failure =>
          simp [FailsOnly, lacks]
      | ok validity =>
          exact ⟨fun _ _ => FailsOnly.ok _ _, fun _ => attempt_noPanic _⟩
  · next has =>
      exact ⟨fun _ lacks => absurd lacks has, fun _ => attempt_noPanic _⟩

end Dates

/--
The dates exist and are ordered on every day but 29 February; so a start that
has to make the default certificate panics on that day only.  The year after the
one of the clock is always an `i32`.
-/
theorem selfSignedDates_iff (now : Utc.DateTime) :
    (SelfSignedDatesExist (dateOf now) ↔
      ¬ IsLeapDay (dateOf now).month (dateOf now).day) ∧
    (dateOf now).year + 1 < 2147483648 ∧
    ∀ (rcgen : Rcgen) (years : Int → Prop) (library : CertificateLibrary)
      (system : System) (folder : Folder),
      rcgen.ChecksDates years →
      years (dateOf now).year →
      years ((dateOf now).year + 1) →
      folder.lacksDefault = true →
        (NoPanic (loadOrCreateDefaultCertificateAt rcgen library system now
            folder).1 ↔
          ¬ IsLeapDay (dateOf now).month (dateOf now).day) := by
  refine ⟨selfSignedDatesExist_iff _, year_dateOf_lt now, ?_⟩
  intro rcgen years library system folder checks thisYear nextYear lacks
  rw [noPanic_loadOrCreateAt_iff, ← noPanic_selfSignedValidity_iff checks
    thisYear nextYear]
  exact ⟨fun made => made lacks, fun made _ => made⟩

section Sample

/-- A library that represents the years with up to four digits. -/
def sampleRcgen : Rcgen where
  dateTimeYmd year month day :=
    if (-9999 ≤ year ∧ year ≤ 9999) ∧ IsDate year month.toNat day.toNat then
      some ((dayNumber year month.toNat day.toNat - epochDay) * 86400)
    else
      none
  selfSigned _ _ hostnames :=
    textLibrary.selfSigned hostnames

theorem sampleRcgen_checksDates :
    sampleRcgen.ChecksDates fun year => -9999 ≤ year ∧ year ≤ 9999 where
  panics _ _ _ missing :=
    if_neg fun given => missing given.2
  returns year month day represented isDate := by
    change Option.isSome (ite _ _ _) = true
    rw [if_pos ⟨represented, isDate⟩]
    rfl

/-- The start of 1 March 2024. -/
def firstOfMarch : Utc.DateTime where
  nanos :=
    19783 * 86400 * nanosPerSec
  inRange := by
    decide

theorem dateOf_firstOfMarch :
    (dateOf firstOfMarch).year = 2024 ∧ (dateOf firstOfMarch).month = 3 := by
  decide +kernel

/-- On 1 March 2024 a first start does not panic. -/
theorem selfSignedDates_iff_firstOfMarch :
    NoPanic (loadOrCreateDefaultCertificateAt sampleRcgen textLibrary
      (sampleSystem []) firstOfMarch ∅).1 := by
  obtain ⟨isYear, isMonth⟩ := dateOf_firstOfMarch
  have panicsOnlyOnLeapDay :=
    (selfSignedDates_iff firstOfMarch).2.2 sampleRcgen _ textLibrary
      (sampleSystem []) ∅ sampleRcgen_checksDates
      (by rw [isYear]; decide) (by rw [isYear]; decide) rfl
  refine panicsOnlyOnLeapDay.mpr fun isLeapDay => ?_
  rw [isMonth] at isLeapDay
  exact absurd isLeapDay.1 (by decide)

/-- The start of 29 February 2024. -/
def leapDay : Utc.DateTime where
  nanos :=
    19782 * 86400 * nanosPerSec
  inRange := by
    decide

theorem dateOf_leapDay :
    (dateOf leapDay).year = 2024 ∧ (dateOf leapDay).month = 2 ∧
      (dateOf leapDay).day = 29 := by
  decide +kernel

/-- On 29 February 2024 a first start panics, and leaves the folder empty. -/
theorem not_selfSignedDates_leapDay :
    (¬ ∀ now, SelfSignedDatesExist (dateOf now)) ∧
      loadOrCreateDefaultCertificateAt sampleRcgen textLibrary (sampleSystem [])
        leapDay ∅ = (.error .panic, ∅) := by
  obtain ⟨isYear, isMonth, isDay⟩ := dateOf_leapDay
  constructor
  · intro exist
    exact (selfSignedDatesExist_iff _).mp (exist leapDay) ⟨isMonth, isDay⟩
  · have panics :
        selfSignedValidity sampleRcgen (dateOf leapDay) = .error .panic := by
      rw [selfSignedValidity, isYear, isMonth, isDay]
      rfl
    have lacks : Folder.lacksDefault ∅ = true :=
      rfl
    rw [loadOrCreateDefaultCertificateAt, if_pos lacks, panics]

end Sample

end Pingoo.Tls
