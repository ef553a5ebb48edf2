import Mathlib.Algebra.Order.Ring.Int

/-!
# Instants and durations

An instant is its number of nanoseconds since the Unix epoch and a duration a number of
nanoseconds, both plain integers: the instants a service meets are far from the ends of the
machine types. Milliseconds since the epoch are rounded down, as both the Go and the Java clock do.
-/

namespace GcsSaker.Clock

def millisecond : ℤ := 1000000

def second : ℤ := 1000000000

/-- The zero `time.Time` of Go: midnight of January 1st of the year 1. -/
def zeroTime : ℤ := -62135596800 * second

def unixMilli (t : ℤ) : ℤ := t / millisecond

def ofUnixMilli (ms : ℤ) : ℤ := ms * millisecond

/-- `Duration.Milliseconds`, which rounds towards zero. -/
def milliseconds (d : ℤ) : ℤ := Int.tdiv d millisecond

theorem lt_ofUnixMilli_of_unixMilli_lt {t ms : ℤ} (h : unixMilli t < ms) :
    t < ofUnixMilli ms := by
  simp only [ofUnixMilli, unixMilli, millisecond] at h ⊢
  omega

end GcsSaker.Clock
