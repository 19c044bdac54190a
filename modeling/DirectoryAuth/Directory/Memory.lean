import DirectoryAuth.Coordinator

/-! A directory in memory, which knows its users' passwords and counts how often it is asked. -/
namespace DirectoryAuth

structure MemoryDirectory where
  users : Table String := {}
  /-- Answered instead of a verdict. -/
  failure : Option DirectoryError := none
  /-- How long an answer takes, in nanoseconds. -/
  latency : Int := 0
  calls : Nat := 0
  clock : ManualClock := {}

namespace MemoryDirectory

/-- A blank password is no user's. -/
def verdict (d : MemoryDirectory) (username password : String) : Except DirectoryError Bool :=
  match d.failure with
  | some e => .error e
  | none => .ok (!Text.isBlank password && d.users.get? username == some password)

/-- The world of the directory and its clock. -/
def world : World MemoryDirectory where
  now d :=
    let (t, clock) := d.clock.read
    (t, { d with clock := clock })
  verify username password d :=
    (d.verdict username password,
      { d with calls := d.calls + 1, clock := d.clock.advance d.latency })

end MemoryDirectory

end DirectoryAuth
