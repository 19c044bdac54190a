import DirectoryAuth.Bytes

/-! SHA-1 over byte strings. The compression function keeps its words in arguments, so that a long
iteration of it allocates nothing but the chaining states. -/
namespace DirectoryAuth.Sha1

/-- The chaining state, which is also the digest as five words. -/
structure State where
  a : UInt32
  b : UInt32
  c : UInt32
  d : UInt32
  e : UInt32
  deriving DecidableEq, Repr

def State.initial : State := ⟨0x67452301, 0xEFCDAB89, 0x98BADCFE, 0x10325476, 0xC3D2E1F0⟩

def State.add (s t : State) : State := ⟨s.a + t.a, s.b + t.b, s.c + t.c, s.d + t.d, s.e + t.e⟩

def State.xor (s t : State) : State :=
  ⟨s.a ^^^ t.a, s.b ^^^ t.b, s.c ^^^ t.c, s.d ^^^ t.d, s.e ^^^ t.e⟩

@[inline] def rotate1 (w : UInt32) : UInt32 := (w <<< 1) ||| (w >>> 31)

@[inline] def rotate5 (w : UInt32) : UInt32 := (w <<< 5) ||| (w >>> 27)

@[inline] def rotate30 (w : UInt32) : UInt32 := (w <<< 30) ||| (w >>> 2)

/-- What a round adds besides the state and its word, with `left` rounds to go after it: twenty
rounds each of choice, parity, majority and parity. -/
@[inline] def roundTerm (left : Nat) (b c d : UInt32) : UInt32 :=
  if 60 ≤ left then ((b &&& c) ||| ((~~~b) &&& d)) + 0x5A827999
  else if 40 ≤ left then (b ^^^ c ^^^ d) + 0x6ED9EBA1
  else if 20 ≤ left then ((b &&& c) ||| (b &&& d) ||| (c &&& d)) + 0x8F1BBCDC
  else (b ^^^ c ^^^ d) + 0xCA62C1D6

/-- The last `n` of the eighty rounds; `w0` to `w15` are the next sixteen words of the schedule. -/
def rounds (n : Nat) (a b c d e w0 w1 w2 w3 w4 w5 w6 w7 w8 w9 w10 w11 w12 w13 w14 w15 : UInt32) :
    State :=
  match n with
  | 0 => ⟨a, b, c, d, e⟩
  | left + 1 =>
    rounds left (rotate5 a + roundTerm left b c d + e + w0) a (rotate30 b) c d
      w1 w2 w3 w4 w5 w6 w7 w8 w9 w10 w11 w12 w13 w14 w15
      (rotate1 (w13 ^^^ w8 ^^^ w2 ^^^ w0))

/-- The state after one block of sixteen words. -/
def compress (s : State) (w0 w1 w2 w3 w4 w5 w6 w7 w8 w9 w10 w11 w12 w13 w14 w15 : UInt32) : State :=
  s.add (rounds 80 s.a s.b s.c s.d s.e w0 w1 w2 w3 w4 w5 w6 w7 w8 w9 w10 w11 w12 w13 w14 w15)

def wordOf (a b c d : UInt8) : UInt32 :=
  (a.toUInt32 <<< 24) ||| (b.toUInt32 <<< 16) ||| (c.toUInt32 <<< 8) ||| d.toUInt32

/-- Big-endian words; an incomplete one at the end is dropped. -/
def wordsOf : Bytes → List UInt32
  | a :: b :: c :: d :: rest => wordOf a b c d :: wordsOf rest
  | _ => []

def bytesOfWord (w : UInt32) : Bytes :=
  [(w >>> 24).toUInt8, (w >>> 16).toUInt8, (w >>> 8).toUInt8, w.toUInt8]

def State.bytes (s : State) : Bytes :=
  bytesOfWord s.a ++ bytesOfWord s.b ++ bytesOfWord s.c ++ bytesOfWord s.d ++ bytesOfWord s.e

theorem State.length_bytes (s : State) : s.bytes.length = 20 := rfl

/-- The state after all complete blocks of a list of words. -/
def absorb (s : State) : List UInt32 → State
  | w0 :: w1 :: w2 :: w3 :: w4 :: w5 :: w6 :: w7 :: w8 :: w9 :: w10 :: w11 :: w12 :: w13 :: w14 ::
      w15 :: rest =>
    absorb (compress s w0 w1 w2 w3 w4 w5 w6 w7 w8 w9 w10 w11 w12 w13 w14 w15) rest
  | _ => s

/-- What follows a message of `size` bytes: a set bit, zeros up to eight bytes short of a block,
and the size in bits. -/
def padding (size : Nat) : Bytes :=
  let bits := (8 * size).toUInt64
  (0x80 : UInt8) :: (List.replicate ((119 - size % 64) % 64) (0 : UInt8) ++
    bytesOfWord (bits >>> 32).toUInt32 ++ bytesOfWord bits.toUInt32)

/-- The state after the rest of a message, of which whole blocks of `before` bytes went into
`s`. -/
def finish (s : State) (before : Nat) (rest : Bytes) : State :=
  absorb s (wordsOf (rest ++ padding (before + rest.length)))

def digest (message : Bytes) : State := finish .initial 0 message

end DirectoryAuth.Sha1
