/-
  Feedcast.Polling.Backoff — how long a source waits (`services/scheduler.py`).

  The interval is an instance of `Lib.Backoff`: the floor is the larger of the
  configured interval and the origin's max-age, and it doubles with every
  failure.  `is_due` adds it to a datetime, and that sum may leave the calendar:

    • `effectiveIntervalSeconds_eq` — the exponent without its clamp,
    • `effectiveIntervalSeconds_le` — the interval never falls as failures and
      max-age grow,
    • `isDueChecked_mono`, `isDueChecked_anti` — the check in time, and in
      the interval,
    • `backoff_exact_monotone_bounded` — all of it.
-/
import Feedcast.Schemas.City
import Feedcast.Services.Scheduler
import Feedcast.Lib.Backoff
import Mathlib.Algebra.Order.Ring.Int

namespace Feedcast

open Feedcast.Lib

/-! ## §1. The due check, in the calendar. -/

/-- The two `OverflowError`s of a due check. -/
inductive OverflowError where
  /-- A `timedelta` of more than 999999999 days. -/
  | days
  /-- A date outside the years 1 to 9999. -/
  | date
  deriving Repr, DecidableEq

/-- So many seconds are a timedelta. -/
def IsTimedelta (n : Int) : Prop := -999999999 ≤ n / 86400 ∧ n / 86400 ≤ 999999999

instance (n : Int) : Decidable (IsTimedelta n) :=
  inferInstanceAs (Decidable (-999999999 ≤ n / 86400 ∧ n / 86400 ≤ 999999999))

/-- `timedelta(seconds=n)`. -/
def timedeltaSeconds (n : Int) : Except OverflowError Time :=
  if IsTimedelta n then .ok (seconds n) else .error .days

/-- `datetime.min`. -/
def datetimeMin : Time := seconds (-62135596800)

/-- `datetime.max`. -/
def datetimeMax : Time := seconds 253402300800 - 1

def IsDatetime (t : Time) : Prop := datetimeMin ≤ t ∧ t ≤ datetimeMax

instance (t : Time) : Decidable (IsDatetime t) :=
  inferInstanceAs (Decidable (datetimeMin ≤ t ∧ t ≤ datetimeMax))

/-- The sum of a datetime and a timedelta. -/
def datetimeAdd (t delta : Time) : Except OverflowError Time :=
  if IsDatetime (t + delta) then .ok (t + delta) else .error .date

/-- `is_due`, with what it raises. -/
def isDueChecked (source : Source) (now : Time) (settings : Settings) :
    Except OverflowError Bool :=
  match source.lastFetchedAt with
  | none => .ok true
  | some last => do
      let interval ← timedeltaSeconds (effectiveIntervalSeconds source settings)
      let dueAt ← datetimeAdd last interval
      return decide (now ≥ dueAt)

/-- **When the due check answers, and what.** -/
theorem isDueChecked_iff {source : Source} {last : Time} (hlast : source.lastFetchedAt = some last)
    {now : Time} {settings : Settings} {due : Bool} :
    isDueChecked source now settings = .ok due ↔
      IsTimedelta (effectiveIntervalSeconds source settings)
        ∧ IsDatetime (last + seconds (effectiveIntervalSeconds source settings))
        ∧ decide (now ≥ last + seconds (effectiveIntervalSeconds source settings)) = due := by
  unfold isDueChecked timedeltaSeconds datetimeAdd
  rw [hlast]
  dsimp only
  -- `timedelta` may overflow, and then the sum; the comparison comes last
  by_cases hdelta : IsTimedelta (effectiveIntervalSeconds source settings)
  · rw [if_pos hdelta]
    by_cases hdate : IsDatetime (last + seconds (effectiveIntervalSeconds source settings))
    · simp [hdelta, hdate, bind, Except.bind, pure, Except.pure]
    · simp [hdate, bind, Except.bind]
  · rw [if_neg hdelta]
    simp [hdelta, bind, Except.bind]

/-- **The due check is that of the scheduler**, when it answers. -/
theorem isDueChecked_ok {source : Source} {now : Time} {settings : Settings} {due : Bool}
    (h : isDueChecked source now settings = .ok due) : due = isDue source now settings := by
  unfold isDue
  cases hlast : source.lastFetchedAt with
  | none =>
      unfold isDueChecked at h
      rw [hlast] at h
      exact (Except.ok.inj h).symm
  | some last =>
      obtain ⟨-, -, hdue⟩ := (isDueChecked_iff hlast).mp h
      exact hdue.symm

/-! ## §2. The interval. -/

/-- The larger of the configured interval and the max-age. -/
def Source.baseSeconds (source : Source) : Int :=
  max (source.fetchIntervalMinutes * 60) (source.cacheMaxAgeSeconds.getD 0)

/-- What the base has doubled to after so many failures. -/
def Source.doubled (source : Source) (failures : Nat) : Int := source.baseSeconds * 2 ^ failures

theorem Source.baseSeconds_nonneg (source : Source) : 0 ≤ source.baseSeconds := by
  unfold Source.baseSeconds
  omega

theorem Source.doubled_mono (source : Source) {n n' : Nat} (hle : n ≤ n') :
    source.doubled n ≤ source.doubled n' := by
  have hpow : (2 : Int) ^ n ≤ 2 ^ n' := pow_le_pow_right₀ one_le_two hle
  unfold Source.doubled
  exact Int.mul_le_mul_of_nonneg_left hpow source.baseSeconds_nonneg

/-- **The interval is a backoff**, of the failures clamped to the exponent. -/
theorem effectiveIntervalSeconds_backoff (source : Source) (settings : Settings) :
    effectiveIntervalSeconds source settings
      = backoff source.baseSeconds settings.schedulerMaxBackoffSeconds source.doubled
          (min source.consecutiveFailures maxBackoffExponent) := by
  unfold effectiveIntervalSeconds
  by_cases hfailures : source.consecutiveFailures = 0
  · -- nothing has grown yet
    have hgrown : source.doubled (min source.consecutiveFailures maxBackoffExponent)
        ≤ source.baseSeconds := by
      rw [hfailures, Nat.zero_min]
      unfold Source.doubled
      omega
    rw [backoff_floor hgrown]
    exact if_pos hfailures
  · exact if_neg hfailures

/-- **The clamp on the exponent is never seen**: from a minute up, two to the
thirty-two has passed the ceiling. -/
theorem effectiveIntervalSeconds_eq {source : Source} {settings : Settings}
    (hinterval : 1 ≤ source.fetchIntervalMinutes)
    (hceiling : settings.schedulerMaxBackoffSeconds ≤ 60 * 2 ^ 32) :
    effectiveIntervalSeconds source settings
      = backoff source.baseSeconds settings.schedulerMaxBackoffSeconds source.doubled
          source.consecutiveFailures := by
  have hbase : 60 ≤ source.baseSeconds := by
    unfold Source.baseSeconds
    omega
  -- at the largest exponent the ceiling is reached, so the clamp costs nothing
  have hpassed : settings.schedulerMaxBackoffSeconds ≤ source.doubled maxBackoffExponent := by
    unfold Source.doubled maxBackoffExponent
    omega
  rw [effectiveIntervalSeconds_backoff, backoff_clamped (fun _ _ => source.doubled_mono) hpassed]

/-- **More failures, a larger max-age: no shorter interval.** -/
theorem effectiveIntervalSeconds_le {source source' : Source} (settings : Settings)
    (hbase : source.baseSeconds ≤ source'.baseSeconds)
    (hfailures : source.consecutiveFailures ≤ source'.consecutiveFailures) :
    effectiveIntervalSeconds source settings ≤ effectiveIntervalSeconds source' settings := by
  rw [effectiveIntervalSeconds_backoff, effectiveIntervalSeconds_backoff]
  -- more failures first, then the longer interval
  have hgrown : source.doubled (min source.consecutiveFailures maxBackoffExponent)
      ≤ source'.doubled (min source'.consecutiveFailures maxBackoffExponent) :=
    calc source.doubled (min source.consecutiveFailures maxBackoffExponent)
        ≤ source.doubled (min source'.consecutiveFailures maxBackoffExponent) :=
          source.doubled_mono (min_le_min_right _ hfailures)
      _ ≤ source'.doubled (min source'.consecutiveFailures maxBackoffExponent) :=
          mul_le_mul_of_nonneg_right hbase (by positivity)
  exact backoff_le_backoff hbase hgrown

theorem baseSeconds_le_interval (source : Source) (settings : Settings) :
    source.baseSeconds ≤ effectiveIntervalSeconds source settings := by
  rw [effectiveIntervalSeconds_backoff]
  exact le_backoff _

theorem interval_le_ceiling (source : Source) (settings : Settings) :
    effectiveIntervalSeconds source settings
      ≤ max source.baseSeconds settings.schedulerMaxBackoffSeconds := by
  rw [effectiveIntervalSeconds_backoff]
  exact backoff_le _

/-! ## §3. The due check. -/

theorem seconds_nonneg {n : Int} (h : 0 ≤ n) : 0 ≤ seconds n :=
  Int.mul_nonneg h (by omega)

theorem seconds_mono {n n' : Int} (h : n ≤ n') : seconds n ≤ seconds n' :=
  Int.mul_le_mul_of_nonneg_right h (by omega)

/-- **Once due, due from then on.** -/
theorem isDueChecked_mono {source : Source} {settings : Settings} {now now' : Time}
    (h : now ≤ now') (hdue : isDueChecked source now settings = .ok true) :
    isDueChecked source now' settings = .ok true := by
  cases hlast : source.lastFetchedAt with
  -- never fetched: due at any time
  | none =>
      unfold isDueChecked
      rw [hlast]
  | some last =>
      obtain ⟨hdelta, hdate, hpast⟩ := (isDueChecked_iff hlast).mp hdue
      refine (isDueChecked_iff hlast).mpr ⟨hdelta, hdate, ?_⟩
      have hpast := of_decide_eq_true hpast
      exact decide_eq_true (hpast.trans h)

/-- **A shorter interval is due no later**, and its sum stays in the calendar. -/
theorem isDueChecked_anti {source source' : Source} {settings : Settings} {now : Time}
    (hsame : source.lastFetchedAt = source'.lastFetchedAt)
    (hstamp : ∀ last, source.lastFetchedAt = some last → IsDatetime last)
    (hinterval : effectiveIntervalSeconds source settings
      ≤ effectiveIntervalSeconds source' settings)
    (hdue : isDueChecked source' now settings = .ok true) :
    isDueChecked source now settings = .ok true := by
  cases hlast : source.lastFetchedAt with
  | none =>
      unfold isDueChecked
      rw [hlast]
  | some last =>
      obtain ⟨hdelta, hdate, hpast⟩ := (isDueChecked_iff (hsame.symm.trans hlast)).mp hdue
      have hpast := of_decide_eq_true hpast
      have hnonneg := source.baseSeconds_nonneg.trans (baseSeconds_le_interval source settings)
      -- the sum lies between the stamp and the later sum
      have hfrom : last ≤ last + seconds (effectiveIntervalSeconds source settings) :=
        le_add_of_nonneg_right (seconds_nonneg hnonneg)
      have hupto : last + seconds (effectiveIntervalSeconds source settings)
          ≤ last + seconds (effectiveIntervalSeconds source' settings) :=
        Int.add_le_add_left (seconds_mono hinterval) last
      refine (isDueChecked_iff hlast).mpr
        ⟨?_, ⟨(hstamp last hlast).1.trans hfrom, hupto.trans hdate.2⟩,
          decide_eq_true (hupto.trans hpast)⟩
      unfold IsTimedelta at hdelta ⊢
      omega

/-! ## §4. Every source, every ceiling. -/

/-- The source after so many failures. -/
def Source.afterFailures (source : Source) (failures : Nat) : Source :=
  { source with consecutiveFailures := failures }

/-- The source under another max-age. -/
def Source.underMaxAge (source : Source) (maxAge : Option Nat) : Source :=
  { source with cacheMaxAgeSeconds := maxAge }

/-- **The interval of a source**: exact, monotone, between its bounds. -/
structure IntervalRight (source : Source) (settings : Settings) : Prop where
  fresh : source.consecutiveFailures = 0 →
    effectiveIntervalSeconds source settings = source.baseSeconds
  failing : source.consecutiveFailures ≠ 0 →
    effectiveIntervalSeconds source settings
      = max source.baseSeconds (min (source.baseSeconds * 2 ^ source.consecutiveFailures)
          settings.schedulerMaxBackoffSeconds)
  rising : ∀ failures, source.consecutiveFailures ≤ failures →
    effectiveIntervalSeconds source settings
      ≤ effectiveIntervalSeconds (source.afterFailures failures) settings
  floor : source.baseSeconds ≤ effectiveIntervalSeconds source settings
  ceiling : effectiveIntervalSeconds source settings
    ≤ max source.baseSeconds settings.schedulerMaxBackoffSeconds

/-- **When a source is due**: from a moment on, and no earlier for more failures
or a larger max-age. -/
structure DueRight (source : Source) (settings : Settings) : Prop where
  later : ∀ now now', now ≤ now' → isDueChecked source now settings = .ok true →
    isDueChecked source now' settings = .ok true
  failures : ∀ now failures, source.consecutiveFailures ≤ failures →
    isDueChecked (source.afterFailures failures) now settings = .ok true →
      isDueChecked source now settings = .ok true
  maxAge : ∀ now maxAge, source.cacheMaxAgeSeconds.getD 0 ≤ maxAge →
    isDueChecked (source.underMaxAge (some maxAge)) now settings = .ok true →
      isDueChecked source now settings = .ok true

/-- **THE BACKOFF IS EXACT, MONOTONE AND BOUNDED**, and so is the due check. -/
theorem backoff_exact_monotone_bounded (source : Source) (settings : Settings)
    (hinterval : 1 ≤ source.fetchIntervalMinutes ∧ source.fetchIntervalMinutes ≤ 10080)
    (hceiling : 0 ≤ settings.schedulerMaxBackoffSeconds
      ∧ settings.schedulerMaxBackoffSeconds ≤ 60 * 2 ^ 32)
    (hstamp : ∀ last, source.lastFetchedAt = some last → IsDatetime last) :
    IntervalRight source settings ∧ DueRight source settings := by
  -- below 2³² minutes the clamp at the exponent changes nothing
  have heq := effectiveIntervalSeconds_eq hinterval.1 hceiling.2
  constructor
  · exact {
      fresh := fun hfailures => by
        rw [heq, hfailures]
        exact backoff_floor (le_of_eq (mul_one source.baseSeconds))
      failing := fun _ => heq
      rising := fun failures hle => effectiveIntervalSeconds_le settings (le_refl _) hle
      floor := baseSeconds_le_interval source settings
      ceiling := interval_le_ceiling source settings }
  · exact {
      later := fun now now' hle => isDueChecked_mono hle
      failures := fun now failures hle =>
        isDueChecked_anti rfl hstamp (effectiveIntervalSeconds_le settings (le_refl _) hle)
      maxAge := fun now maxAge hle => by
        -- a longer max-age can only raise the base
        have hbase : source.baseSeconds ≤ (source.underMaxAge (some maxAge)).baseSeconds :=
          max_le_max_left _ (Int.ofNat_le.mpr hle)
        exact isDueChecked_anti rfl hstamp
          (effectiveIntervalSeconds_le settings hbase (le_refl _)) }

/-- A feed that has been dead for forty polls. -/
def deadSource : Source :=
  { testTimes.row 1 1 with consecutiveFailures := 40, lastFetchedAt := some (seconds 1790000000) }

/-- Half an hour has doubled past the six hours of the ceiling. -/
theorem backoff_exact_monotone_bounded_dead :
    effectiveIntervalSeconds deadSource defaultSettings = 21600
      ∧ IntervalRight deadSource defaultSettings ∧ DueRight deadSource defaultSettings := by
  refine ⟨by decide, backoff_exact_monotone_bounded deadSource defaultSettings (by decide)
    (by decide) ?_⟩
  intro last hlast
  cases hlast
  decide

end Feedcast
