namespace Pager

namespace Delay

def nanosPerSecond : Nat := 1000000000

def nanosPerMilli : Nat := 1000000

/-- The number of nanoseconds in the longest delay. -/
def longest : Nat :=
  (Nat.pow 2 64 - 1) * nanosPerSecond + (nanosPerSecond - 1)

end Delay

/-- A whole number of nanoseconds up to the largest that 64 bits of seconds can hold. A sum or
product that would be larger is the longest delay instead. -/
structure Delay where
  nanos : Nat
  bounded : nanos ≤ Delay.longest
  deriving DecidableEq, Repr

namespace Delay

/-- So many nanoseconds, or the longest delay. -/
def saturated (nanos : Nat) : Delay :=
  ⟨min nanos longest, Nat.min_le_right _ _⟩

def ofSeconds (n : Nat) : Delay :=
  saturated (n * nanosPerSecond)

def ofMillis (n : Nat) : Delay :=
  saturated (n * nanosPerMilli)

def seconds (d : Delay) : Nat :=
  d.nanos / nanosPerSecond

def millis (d : Delay) : Nat :=
  d.nanos / nanosPerMilli

def times (d : Delay) (factor : Nat) : Delay :=
  saturated (d.nanos * factor)

def shorter (a b : Delay) : Delay :=
  if a.nanos ≤ b.nanos then a else b

theorem ext {a b : Delay} (same : a.nanos = b.nanos) : a = b := by
  cases a
  cases b
  simp_all

theorem shorter_nanos (a b : Delay) : (a.shorter b).nanos = min a.nanos b.nanos := by
  rw [shorter]
  split <;> omega

theorem times_nanos (d : Delay) (factor : Nat) :
    (d.times factor).nanos = min (d.nanos * factor) longest := rfl

end Delay

end Pager
