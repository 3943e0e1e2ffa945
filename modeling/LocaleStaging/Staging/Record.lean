import LocaleStaging.Document.Basic
import LocaleStaging.Span

namespace LocaleStaging

structure StagedRecord where
  /-- When the record was made, in milliseconds since the epoch. -/
  created : Int64
  pending : Preferences
deriving DecidableEq

def nearestInt64 (value : Int) : Int64 :=
  if value < Int64.minValue.toInt then Int64.minValue
  else if Int64.maxValue.toInt < value then Int64.maxValue
  else Int64.ofInt value

namespace StagedRecord

def document (record : StagedRecord) : Document := ⟨some record.created, record.pending⟩

/-- Whether a record is older than a retention period. At its edge a record is still fresh. -/
def isExpired (record : StagedRecord) (now : Int64) (retention : Span) : Bool :=
  record.created < nearestInt64 (now.toInt - (nearestInt64 retention.millis).toInt)

end StagedRecord

def defaultRetentionDays : UInt64 := 3

end LocaleStaging
