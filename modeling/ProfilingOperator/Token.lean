import ProfilingOperator.Duration.Basic

/-!
# Lifetime of collector tokens

A token outlives the profiling window by a minute, and lives ten minutes at least.

    lifetime?_eq_none_iff : lifetime? d = none ↔ Duration.limit ≤ buffer.nanoseconds + d.nanoseconds
-/

namespace ProfilingOperator

namespace Token

/-- What a token's lifetime exceeds the window by. -/
def buffer : Duration := .ofSeconds 60 (by decide)

/-- The shortest lifetime. -/
def shortest : Duration := .ofSeconds 600 (by decide)

/-- The lifetime of a token for a window; there is none when the sum is no duration. -/
def lifetime? (window : Duration) : Option Duration :=
  (buffer.add? window).map fun d => d.longer shortest

/-- What is said of a window that has no lifetime. -/
def overflowMessage : String := "overflow when adding durations"

/-- The seconds of a lifetime as a request carries them, in 64 bits with sign. -/
def requestedSeconds (lifetime : Duration) : Int :=
  Int.bmod lifetime.seconds UInt64.size

/-! ## Lemmas -/

theorem lifetime?_eq_none_iff {d : Duration} :
    lifetime? d = none ↔ Duration.limit ≤ buffer.nanoseconds + d.nanoseconds := by
  simp [lifetime?, Duration.add?_eq_none_iff]

end Token

/-- What a diagnostic container needs to upload its results. -/
structure Collector where
  endpoint : String
  token : String
  deriving DecidableEq

end ProfilingOperator
