/-!
Contract: instants and spans in whole milliseconds.

Owns:
- the range of a signed 64-bit count, and arithmetic that stops at its ends;
- the reading of a wall clock, which is never before the epoch;
- clocks, as what they show one reading after the other;
- counters of 32 bits that stop at their greatest value.

Does not own: calendars.
-/

namespace Telemetry.Time

def leastInstant : Int := -0x8000000000000000

/-- The greatest instant, and the greatest span. -/
def greatestInstant : Int := 0x7FFFFFFFFFFFFFFF

/-- The nearest instant in the range. -/
def clampInstant (value : Int) : Int :=
  max leastInstant (min greatestInstant value)

/-- The span from `earlier` to `later`, at most as long as the greatest span. -/
def elapsed (later earlier : Int) : Int := clampInstant (later - earlier)

/-- A span of milliseconds as an instant's distance, at most the greatest. -/
def spanMillis (span : Nat) : Int := min (Int.ofNat span) greatestInstant

/-- What a wall clock answers: milliseconds since the epoch, zero before it, and at most
the greatest instant. -/
def nowMillis (wall : Int) : Int := max 0 (min greatestInstant wall)

/-- A clock, as what it shows when it is read time after time. It may stand still and go back. -/
structure Clock where
  reading : Nat → Int

namespace Clock

/-- The clock that always shows one instant. -/
def still (instant : Int) : Clock := ⟨fun _ => instant⟩

instance : Coe Int Clock := ⟨still⟩

/-- What the clock shows when it is read next. -/
def now (clock : Clock) : Int := clock.reading 0

/-- The clock after a reading. -/
def later (clock : Clock) : Clock := ⟨fun count => clock.reading (count + 1)⟩

theorem now_still (instant : Int) : (still instant).now = instant := rfl

theorem later_still (instant : Int) : (still instant).later = still instant := rfl

end Clock

def greatestCount : Nat := 0xFFFFFFFF

/-- The next value of a counter, which stays at its greatest. -/
def nextCount (count : Nat) : Nat := min (count + 1) greatestCount

theorem nowMillis_nonneg (wall : Int) : 0 ≤ nowMillis wall := Int.le_max_left _ _

theorem nowMillis_le (wall : Int) : nowMillis wall ≤ greatestInstant :=
  Int.max_le.mpr ⟨by decide, Int.min_le_left _ _⟩

end Telemetry.Time
