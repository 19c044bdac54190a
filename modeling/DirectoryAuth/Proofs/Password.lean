import DirectoryAuth.Password
import DirectoryAuth.Proofs.Bytes

/-! What a digest shows of a password. The key derivation reads a password only through the block of
64 bytes that stands for it as a key, and zeros fill up the block of a short one. So characters NUL
at the end of a short password are lost, and anything else at its end is lost only where two
different blocks have one digest. -/
namespace DirectoryAuth

namespace Hmac

/-- The states that a block leads to under the two masks. -/
def Key.ofBlock (block : Bytes) : Key where
  inner := Sha1.absorb .initial (Sha1.wordsOf (block.map (· ^^^ 0x36)))
  outer := Sha1.absorb .initial (Sha1.wordsOf (block.map (· ^^^ 0x5C)))

theorem Key.ofBytes_eq (key : Bytes) : Key.ofBytes key = Key.ofBlock (keyBlock key) := rfl

theorem keyBlock_of_length_le {key : Bytes} (h : key.length ≤ 64) :
    keyBlock key = key ++ List.replicate (64 - key.length) 0 := by
  rw [keyBlock, if_neg (Nat.not_lt.mpr h)]

/-- A short key may be followed by zeros, and by nothing else, without a change of its block. -/
theorem keyBlock_append_eq_iff {key more : Bytes} (h : (key ++ more).length ≤ 64) :
    keyBlock (key ++ more) = keyBlock key ↔ ∀ b ∈ more, b = 0 := by
  rw [List.length_append] at h
  have hfill : List.replicate (64 - key.length) (0 : UInt8) =
      List.replicate more.length 0 ++ List.replicate (64 - (key.length + more.length)) 0 := by
    rw [List.replicate_append_replicate]
    congr 1
    omega
  rw [keyBlock_of_length_le (by rwa [List.length_append]), keyBlock_of_length_le (by omega),
    List.length_append, List.append_assoc, List.append_cancel_left_eq, hfill,
    List.append_cancel_right_eq, List.eq_replicate_iff]
  exact and_iff_right rfl

end Hmac

namespace Password
open Hmac (keyBlock)

/-- The digest of every password with a given block. -/
def blockDigest (salt block : Bytes) : Bytes :=
  ((List.range ((digestLength + 19) / 20)).flatMap fun i =>
    (Pbkdf2.block (Hmac.Key.ofBlock block) salt iterations (i + 1)).bytes).take digestLength

/-- Two different blocks with one digest under a salt. -/
def Collide (salt a b : Bytes) : Prop := a ≠ b ∧ blockDigest salt a = blockDigest salt b

variable {salt : Bytes} {password more : String}

theorem digest?_eq_some (h : Text.isBlank password = false) :
    digest? salt password = some (blockDigest salt (keyBlock (utf8 password))) := by
  rw [digest?, h, if_neg Bool.false_ne_true, Pbkdf2.derive, Hmac.Key.ofBytes_eq]
  rfl

theorem digest?_eq_iff {other : String} (h : Text.isBlank password = false)
    (hother : Text.isBlank other = false) : digest? salt password = digest? salt other ↔
      keyBlock (utf8 password) = keyBlock (utf8 other) ∨
        Collide salt (keyBlock (utf8 password)) (keyBlock (utf8 other)) := by
  rw [digest?_eq_some h, digest?_eq_some hother, Option.some_inj]
  by_cases hblock : keyBlock (utf8 password) = keyBlock (utf8 other)
  · simp [hblock]
  · simp [Collide, hblock]

theorem isBlank_append (h : Text.isBlank password = false) :
    Text.isBlank (password ++ more) = false := by
  rw [Text.isBlank] at h ⊢
  rw [String.toList_append, List.all_append, h, Bool.false_and]

/-- What follows a password is lost in the digest: it is NULs, or the blocks with and without it
collide. -/
def LostIn (salt : Bytes) (password more : String) : Prop :=
  (∀ c ∈ more.toList, c = '\x00') ∨
    Collide salt (keyBlock (utf8 (password ++ more))) (keyBlock (utf8 password))

/-- A password that is not too long and a longer one have the same digest only if what is added to
it is lost. -/
theorem digest?_append_eq_iff (salt : Bytes) (h : Text.isBlank password = false)
    (hlength : (utf8 (password ++ more)).length ≤ 64) :
    digest? salt (password ++ more) = digest? salt password ↔ LostIn salt password more := by
  have hzeros : keyBlock (utf8 (password ++ more)) = keyBlock (utf8 password) ↔
      ∀ c ∈ more.toList, c = '\x00' := by
    rw [utf8_append] at hlength ⊢
    rw [Hmac.keyBlock_append_eq_iff hlength, utf8_eq_zeros_iff]
  rw [digest?_eq_iff (isBlank_append h) h, hzeros, LostIn]

end Password

end DirectoryAuth
