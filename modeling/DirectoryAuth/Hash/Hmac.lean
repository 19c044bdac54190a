import DirectoryAuth.Hash.Sha1

/-! HMAC over SHA-1. A key is kept as the two states that its padded block leads to. -/
namespace DirectoryAuth.Hmac

open Sha1

/-- The block of 64 bytes that stands for a key: a longer key is hashed first, a shorter one is
filled up with zeros. -/
def keyBlock (key : Bytes) : Bytes :=
  let short := if 64 < key.length then (digest key).bytes else key
  short ++ List.replicate (64 - short.length) 0

/-- The states after the key block under the inner and the outer mask. -/
structure Key where
  inner : State
  outer : State

def Key.ofBytes (key : Bytes) : Key where
  inner := absorb .initial (wordsOf ((keyBlock key).map (· ^^^ 0x36)))
  outer := absorb .initial (wordsOf ((keyBlock key).map (· ^^^ 0x5C)))

/-- The state after a digest as the second and last block of a message. -/
def Key.finishDigest (s d : State) : State :=
  compress s d.a d.b d.c d.d d.e 0x80000000 0 0 0 0 0 0 0 0 0 672

def Key.mac (key : Key) (message : Bytes) : State :=
  Key.finishDigest key.outer (finish key.inner 64 message)

/-- The code of a message that is itself a digest. -/
def Key.macDigest (key : Key) (d : State) : State :=
  Key.finishDigest key.outer (Key.finishDigest key.inner d)

end DirectoryAuth.Hmac
