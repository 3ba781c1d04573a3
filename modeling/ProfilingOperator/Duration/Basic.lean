/-!
# Durations

A span of time in whole nanoseconds, below `2 ^ 64` seconds.

    add?_eq_none_iff : a.add? b = none ↔ limit ≤ a.nanoseconds + b.nanoseconds
-/

namespace ProfilingOperator

/-- A span of time below `2 ^ 64` seconds. -/
@[ext]
structure Duration where
  /-- Its length in nanoseconds. -/
  nanoseconds : Nat
  /-- Its seconds fit 64 bits. -/
  bounded : nanoseconds < UInt64.size * 1000000000
  deriving DecidableEq

namespace Duration

def perSecond : Nat := 1000000000

/-- The length no span reaches. -/
def limit : Nat := UInt64.size * perSecond

/-- The span of a number of nanoseconds, if it is short enough. -/
def ofNanoseconds? (n : Nat) : Option Duration :=
  if h : n < UInt64.size * 1000000000 then some ⟨n, h⟩ else none

def zero : Duration := ⟨0, by decide⟩

def seconds (d : Duration) : Nat :=
  d.nanoseconds / perSecond

/-- The nanoseconds of a span beyond its whole seconds. -/
def subsecond (d : Duration) : Nat :=
  d.nanoseconds % perSecond

def ofSeconds (s : Nat) (h : s < UInt64.size) : Duration :=
  ⟨s * 1000000000, Nat.mul_lt_mul_of_pos_right h (by decide)⟩

/-- The sum of two spans, unless it is too long. -/
def add? (a b : Duration) : Option Duration :=
  ofNanoseconds? (a.nanoseconds + b.nanoseconds)

/-- The longer of two spans. -/
def longer (a b : Duration) : Duration :=
  if a.nanoseconds < b.nanoseconds then b else a

/-! ## Lemmas -/

theorem ofNanoseconds?_eq_none_iff {n : Nat} : ofNanoseconds? n = none ↔ limit ≤ n := by
  simp [ofNanoseconds?, limit, perSecond]

theorem ofNanoseconds?_eq_some_iff {n : Nat} {d : Duration} :
    ofNanoseconds? n = some d ↔ d.nanoseconds = n := by
  constructor
  · intro h
    simp only [ofNanoseconds?] at h
    split at h
    · exact (congrArg nanoseconds (Option.some.inj h)).symm
    · cases h
  · rintro rfl
    exact dif_pos d.bounded

theorem add?_eq_none_iff {a b : Duration} : a.add? b = none ↔ limit ≤ a.nanoseconds + b.nanoseconds :=
  ofNanoseconds?_eq_none_iff

end Duration

end ProfilingOperator
