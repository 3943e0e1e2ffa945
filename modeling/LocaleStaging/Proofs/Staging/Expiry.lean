import LocaleStaging.Settings.Basic
import Mathlib.Data.UInt

namespace LocaleStaging

theorem toInt_nearestInt64 (value : Int) :
    (nearestInt64 value).toInt = max (-2 ^ 63) (min (2 ^ 63 - 1) value) := by
  unfold nearestInt64
  rw [Int64.toInt_minValue, Int64.toInt_maxValue]
  split
  next below =>
    rw [Int64.toInt_minValue]
    omega
  split
  next above =>
    rw [Int64.toInt_maxValue]
    omega
  next => rw [Int64.toInt_ofInt_of_le] <;> omega

/-- The longest period that is told from longer ones, in milliseconds. -/
def longestPeriod : Int := 2 ^ 63 - 1

/-! ## Spans -/

namespace Span

def nanoseconds (span : Span) : Nat := span.seconds.toNat * 10 ^ 9 + span.nanos.toNat

theorem millis_eq (span : Span) : span.millis = span.nanoseconds / 10 ^ 6 := by
  unfold millis nanoseconds
  omega

theorem toNat_seconds_ofDays (days : UInt64) :
    (ofDays days).seconds.toNat = min (days.toNat * 86400) (2 ^ 64 - 1) := by
  have fits : min (days.toNat * daySeconds) (UInt64.size - 1) < UInt64.size := by
    rw [UInt64.size]
    omega
  rw [ofDays, UInt64.toNat_ofNat_of_lt' fits]
  rfl

theorem min_millis_ofDays (days : UInt64) :
    min ((ofDays days).millis : Int) longestPeriod = min (days.toNat * 86400000 : Int) longestPeriod := by
  have none : (ofDays days).nanos.toNat = 0 := rfl
  simp only [millis, none, toNat_seconds_ofDays, longestPeriod]
  omega

end Span

/-! ## Records -/

namespace StagedRecord

/-- How long a record has waited, in milliseconds. It is negative if the clock was set back. -/
def age (record : StagedRecord) (now : Int64) : Int := now.toInt - record.created.toInt

theorem isExpired_iff (record : StagedRecord) (now : Int64) (retention : Span) :
    record.isExpired now retention = true ↔ min (retention.millis : Int) longestPeriod < record.age now := by
  have created_low := record.created.le_toInt
  have created_high := record.created.toInt_lt
  have now_high := now.toInt_lt
  rw [isExpired, decide_eq_true_iff, Int64.lt_iff_toInt_lt, toInt_nearestInt64, toInt_nearestInt64,
    longestPeriod, age]
  -- A time before the first one that a clock can show is before the creation of every record.
  omega

theorem isExpired_mono {older newer : StagedRecord} {now later : Int64} {shorter longer : Span}
    (created : older.created ≤ newer.created) (passed : now ≤ later)
    (within : shorter.nanoseconds ≤ longer.nanoseconds)
    (expired : newer.isExpired now longer = true) : older.isExpired later shorter = true := by
  have created := Int64.le_iff_toInt_le.1 created
  have passed := Int64.le_iff_toInt_le.1 passed
  have within : shorter.millis ≤ longer.millis := by
    rw [Span.millis_eq, Span.millis_eq]
    exact Nat.div_le_div_right within
  rw [isExpired_iff, age] at expired ⊢
  omega

end StagedRecord

/-- A record is expired just if it has waited longer than the retention period, in unbounded integers
and whole milliseconds, be the period a span or a number of days. So it is fresh at the edge, and what is
expired stays so at later times, for older records and for shorter periods. -/
theorem expiry_exact :
    (∀ (record : StagedRecord) (now : Int64) (retention : Span),
      record.isExpired now retention = true ↔
        min ((retention.nanoseconds / 10 ^ 6 : Nat) : Int) longestPeriod < record.age now) ∧
    (∀ (record : StagedRecord) (now : Int64) (settings : Settings),
      record.isExpired now settings.retention = true ↔
        min (settings.retentionDays.toNat * 86400000 : Int) longestPeriod < record.age now) ∧
    (∀ (record : StagedRecord) (now : Int64) (retention : Span),
      record.age now = min ((retention.nanoseconds / 10 ^ 6 : Nat) : Int) longestPeriod →
        record.isExpired now retention = false) ∧
    (∀ (older newer : StagedRecord) (now later : Int64) (shorter longer : Span),
      older.created ≤ newer.created → now ≤ later → shorter.nanoseconds ≤ longer.nanoseconds →
        newer.isExpired now longer = true → older.isExpired later shorter = true) := by
  have spans (record : StagedRecord) (now : Int64) (retention : Span) :
      record.isExpired now retention = true ↔
        min ((retention.nanoseconds / 10 ^ 6 : Nat) : Int) longestPeriod < record.age now := by
    rw [StagedRecord.isExpired_iff, Span.millis_eq]
  refine ⟨spans, ?_, ?_, ?_⟩
  · intro record now settings
    rw [StagedRecord.isExpired_iff, Settings.retention, Span.min_millis_ofDays]
  · intro record now retention edge
    rw [← Bool.not_eq_true, spans, edge]
    exact Int.lt_irrefl _
  · intro older newer now later shorter longer created passed within expired
    exact StagedRecord.isExpired_mono created passed within expired

def oldestRecord : StagedRecord := ⟨Int64.minValue, ∅⟩

def longestKept : Settings := ⟨none, 2 ^ 64 - 1, "info"⟩

theorem expiry_exact_oldestRecord :
    oldestRecord.age (-1) = longestPeriod ∧
      oldestRecord.isExpired (-1) longestKept.retention = false ∧
      oldestRecord.isExpired 0 longestKept.retention = true ∧
      oldestRecord.isExpired 5 ⟨3, 999999999⟩ = true := by
  have fresh := expiry_exact.2.2.1 oldestRecord (-1) longestKept.retention (by decide +kernel)
  have expired := (expiry_exact.2.1 oldestRecord 0 longestKept).2 (by decide +kernel)
  have later := expiry_exact.2.2.2 oldestRecord oldestRecord 0 5 ⟨3, 999999999⟩ longestKept.retention
    (by decide +kernel) (by decide +kernel) (by decide +kernel) expired
  exact ⟨by decide +kernel, fresh, expired, later⟩

end LocaleStaging
