/-! Instants of time with nanosecond precision, in the range of the proleptic calendar from
-262143-01-01T00:00:00Z to the last nanosecond of 262142-12-31, without leap seconds, and the clock
that only moves when told to. -/
namespace DirectoryAuth

/-- Nanoseconds in a millisecond. -/
def nanosPerMilli : Int := 1000000

/-- Nanoseconds since 1970-01-01T00:00:00Z. -/
structure Instant where
  nanos : Int
  first_le : -8334601228800000000000 ≤ nanos := by omega
  le_last : nanos ≤ 8210266876799999999999 := by omega
  deriving DecidableEq

namespace Instant

def first : Instant := ⟨-8334601228800000000000, by decide, by decide⟩

def last : Instant := ⟨8210266876799999999999, by decide, by decide⟩

/-- The instant at a distance from the epoch, or the end of the range that it passes. -/
def ofNanos (n : Int) : Instant :=
  if h : n < -8334601228800000000000 then first
  else if h' : 8210266876799999999999 < n then last
  else ⟨n, by omega, by omega⟩

def epoch : Instant := ⟨0, by decide, by decide⟩

instance : Inhabited Instant := ⟨epoch⟩

/-- The nanoseconds from `earlier` to `later`, negative if they are the other way round. -/
def since (later earlier : Instant) : Int := later.nanos - earlier.nanos

def plus (t : Instant) (nanos : Int) : Instant := ofNanos (t.nanos + nanos)

theorem nanos_inj {a b : Instant} : a.nanos = b.nanos ↔ a = b := by
  cases a
  cases b
  simp

end Instant

/-- Whole milliseconds, cut off toward zero. -/
def wholeMillis (nanos : Int) : Int := nanos.tdiv nanosPerMilli

/-- A clock that moves by `tick` nanoseconds after every reading and otherwise only when told to. -/
structure ManualClock where
  time : Instant := Instant.epoch
  tick : Int := 0

namespace ManualClock

def read (clock : ManualClock) : Instant × ManualClock :=
  (clock.time, { clock with time := clock.time.plus clock.tick })

def set (clock : ManualClock) (time : Instant) : ManualClock := { clock with time := time }

def advance (clock : ManualClock) (nanos : Int) : ManualClock :=
  { clock with time := clock.time.plus nanos }

end ManualClock

end DirectoryAuth
