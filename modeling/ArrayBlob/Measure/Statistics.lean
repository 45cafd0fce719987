import ArrayBlob.Binary.Double

/-!
# Statistics of single operations and of runs

A `Ratio` tells how a stored size compares with the raw one, as a fraction and as the percentage
saved, where empty data counts as stored at its own size. `Statistics` describes one packing or
unpacking and `Metrics` sums them up over a run. The time of an operation is measured by the caller
who runs it; what the library computes by itself carries the time zero. A counter holds 64 bits, and
a run in which one of them overflows has no metrics.
-/

namespace ArrayBlob

/-- The quotient of two sizes. -/
def sizeQuotient (part whole : Nat) : Double :=
  Double.ofNat part / Double.ofNat whole

/-- A raw and a stored size. -/
structure Ratio where
  raw : Nat
  stored : Nat
  deriving DecidableEq, Repr

namespace Ratio

/-- The stored size as a fraction of the raw one. -/
def fraction (ratio : Ratio) : Double :=
  if ratio.raw = 0 then Double.ofNat 1 else sizeQuotient ratio.stored ratio.raw

/-- The percentage of the raw size that is saved. -/
def percentSaved (ratio : Ratio) : Double :=
  if ratio.raw = 0 then Double.ofNat 0
  else (Double.ofNat 1 - ratio.fraction) * Double.ofNat 100

/-- The stored size is the smaller one. -/
def isSmaller (ratio : Ratio) : Bool :=
  ratio.stored < ratio.raw

end Ratio

/-- The families of codecs. -/
inductive Family
  /-- The payload is stored as it is. -/
  | none
  /-- The payload is restored byte for byte. -/
  | lossless
  /-- Doubles on equal steps. -/
  | linear
  /-- Doubles on equal steps of their logarithm. -/
  | logarithmic
  deriving DecidableEq, Repr

namespace Family

/-- All families. -/
def all : List Family :=
  [none, lossless, linear, logarithmic]

/-- The name of a family. -/
def name : Family → String
  | none => "None"
  | lossless => "Lossless"
  | linear => "LinearQuant"
  | logarithmic => "LogQuant"

/-- Decoding may not restore the input. -/
def isLossy : Family → Bool
  | none | lossless => false
  | linear | logarithmic => true

end Family

/-- What one packing or unpacking did. -/
structure Statistics where
  family : Family
  raw : Nat
  stored : Nat
  microseconds : Nat := 0
  deriving DecidableEq, Repr

namespace Statistics

/-- The statistics of nothing done. -/
def empty : Statistics :=
  ⟨.none, 0, 0, 0⟩

/-- The statistics of a payload that is stored as it is. -/
def uncompressed (size : Nat) : Statistics :=
  ⟨.none, size, size, 0⟩

/-- The two sizes. -/
def ratio (statistics : Statistics) : Ratio :=
  ⟨statistics.raw, statistics.stored⟩

/-- A million, as a double. -/
def million : Double :=
  Double.ofNat 1000000

/-- Raw bytes per second, or zero when no time passed. -/
def bytesPerSecond (statistics : Statistics) : Double :=
  if statistics.microseconds = 0 then Double.ofNat 0
  else
    Double.ofNat statistics.raw * million / Double.ofNat statistics.microseconds

/-- Raw megabytes per second. -/
def megabytesPerSecond (statistics : Statistics) : Double :=
  statistics.bytesPerSecond / million

end Statistics

/-- The sums over a run of operations. -/
structure Metrics where
  operations : Nat := 0
  bytesIn : Nat := 0
  bytesOut : Nat := 0
  microseconds : Nat := 0
  uncompressed : Nat := 0
  errors : Nat := 0
  deriving DecidableEq, Repr

namespace Metrics

/-- The metrics of a run that has not begun. -/
def empty : Metrics := {}

/-- Counts a completed operation. -/
def record (metrics : Metrics) (statistics : Statistics) : Metrics where
  operations := metrics.operations + 1
  bytesIn := metrics.bytesIn + statistics.raw
  bytesOut := metrics.bytesOut + statistics.stored
  microseconds := metrics.microseconds + statistics.microseconds
  uncompressed := metrics.uncompressed + if statistics.family = .none then 1 else 0
  errors := metrics.errors

/-- Counts a failed operation. -/
def recordFailure (metrics : Metrics) : Metrics :=
  { metrics with errors := metrics.errors + 1 }

/-- All stored bytes as a fraction of all raw ones. -/
def overallRatio (metrics : Metrics) : Double :=
  if metrics.bytesIn = 0 then Double.ofNat 1 else sizeQuotient metrics.bytesOut metrics.bytesIn

/-- Raw bytes per microsecond over the whole run, or zero when no time passed. -/
def overallSpeed (metrics : Metrics) : Double :=
  if metrics.microseconds = 0 then Double.ofNat 0
  else sizeQuotient metrics.bytesIn metrics.microseconds

end Metrics

/-- One event of a run. -/
inductive Event
  | completed (statistics : Statistics)
  | failed
  | cleared
  deriving DecidableEq, Repr

namespace Metrics

/-- The metrics after one more event. -/
def after (metrics : Metrics) : Event → Metrics
  | .completed statistics => metrics.record statistics
  | .failed => metrics.recordFailure
  | .cleared => empty

/-- The metrics of a whole run. -/
def ofRun (events : List Event) : Metrics :=
  events.foldl after empty

/-- The numbers of all counters. -/
def counters (metrics : Metrics) : List Nat :=
  [metrics.operations, metrics.bytesIn, metrics.bytesOut, metrics.microseconds,
    metrics.uncompressed, metrics.errors]

/-- The first number that a counter cannot hold. -/
def counterLimit : Nat := 2 ^ 64

/-- Every counter holds its number. -/
def Fits (metrics : Metrics) : Prop :=
  ∀ number ∈ metrics.counters, number < counterLimit

instance (metrics : Metrics) : Decidable metrics.Fits :=
  inferInstanceAs (Decidable (∀ number ∈ metrics.counters, number < counterLimit))

/-- The metrics after one more event, unless a counter overflows. -/
def after? (metrics : Metrics) (event : Event) : Option Metrics :=
  if (metrics.after event).Fits then some (metrics.after event) else none

/-- The metrics of a whole run, unless a counter overflows in its course. -/
def ofRun? (events : List Event) : Option Metrics :=
  events.foldlM after? empty

end Metrics
end ArrayBlob
