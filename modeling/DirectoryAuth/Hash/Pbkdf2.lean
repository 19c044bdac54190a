import DirectoryAuth.Hash.Hmac

/-! Key derivation by PBKDF2 over HMAC-SHA1. -/
namespace DirectoryAuth.Pbkdf2

open Sha1

/-- `n` further iterations from the code `u`, each added to the sum. -/
def iterate (key : Hmac.Key) : Nat → State → State → State
  | 0, _, sum => sum
  | n + 1, u, sum =>
    let v := key.macDigest u
    iterate key n v (sum.xor v)

/-- The derived block with number `index`, counted from one. -/
def block (key : Hmac.Key) (salt : Bytes) (iterations index : Nat) : State :=
  let first := key.mac (salt ++ bytesOfWord index.toUInt32)
  iterate key (iterations - 1) first first

/-- The first `length` derived bytes. -/
def derive (password salt : Bytes) (iterations length : Nat) : Bytes :=
  let key := Hmac.Key.ofBytes password
  ((List.range ((length + 19) / 20)).flatMap fun i =>
    (block key salt iterations (i + 1)).bytes).take length

@[simp] theorem length_derive (password salt : Bytes) (iterations length : Nat) :
    (derive password salt iterations length).length = length := by
  simp only [derive, List.length_take, List.length_flatMap, State.length_bytes, List.map_const',
    List.length_range, List.sum_replicate_nat]
  omega

end DirectoryAuth.Pbkdf2
