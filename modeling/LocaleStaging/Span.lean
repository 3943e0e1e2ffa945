namespace LocaleStaging

structure Span where
  seconds : UInt64
  nanos : UInt32 := 0
deriving DecidableEq, Repr

namespace Span

def daySeconds : Nat := 24 * 60 * 60

/-- A number of days, or the longest span of whole seconds if that is less. -/
def ofDays (days : UInt64) : Span :=
  ⟨UInt64.ofNat (min (days.toNat * daySeconds) (UInt64.size - 1)), 0⟩

/-- A span of seconds and nanoseconds, of which there can be more than a second has. There is none if
the seconds would not fit. -/
def ofParts? (seconds : UInt64) (nanos : UInt32) : Option Span :=
  let whole := seconds.toNat + nanos.toNat / 1000000000
  if whole < UInt64.size then some ⟨UInt64.ofNat whole, nanos % 1000000000⟩ else none

def millis (span : Span) : Nat := span.seconds.toNat * 1000 + span.nanos.toNat / 1000000

def fractionDigits (width value : Nat) : List Char :=
  let digits := Nat.toDigits 10 value
  let padded := List.replicate (width - digits.length) '0' ++ digits
  (padded.reverse.dropWhile (· == '0')).reverse

/-- A count of a unit and of parts of it, of which `10 ^ width` make one. -/
def writeUnit (width whole part : Nat) (unit : String) : String :=
  if part = 0 then toString whole ++ unit
  else toString whole ++ "." ++ String.ofList (fractionDigits width part) ++ unit

def message (span : Span) : String :=
  let nanos := span.nanos.toNat
  if span.seconds ≠ 0 then writeUnit 9 span.seconds.toNat nanos "s"
  else if 1000000 ≤ nanos then writeUnit 6 (nanos / 1000000) (nanos % 1000000) "ms"
  else if 1000 ≤ nanos then writeUnit 3 (nanos / 1000) (nanos % 1000) "µs"
  else writeUnit 0 nanos 0 "ns"

end Span
end LocaleStaging
