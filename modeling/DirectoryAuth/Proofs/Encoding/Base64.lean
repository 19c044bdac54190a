import DirectoryAuth.Encoding.Base64
import DirectoryAuth.Text.Blank
import Mathlib.Data.Option.Basic

/-! Base64 in both directions: reading gives back what was written, and whatever can be read is what
would be written for it. Also the characters that occur in writing. -/
namespace DirectoryAuth.Base64
open Option (guard_eq_some')

theorem decodeGroup?_sextets {s t u v : Nat} (hs : s < 64) (ht : t < 64) (hu : u < 64)
    (hv : v < 64) : decodeGroup? (sextetChar s) (sextetChar t) (sextetChar u) (sextetChar v) =
      some [UInt8.ofNat (s * 4 + t / 16), UInt8.ofNat (t % 16 * 16 + u / 4),
        UInt8.ofNat (u % 4 * 64 + v)] := by
  simp [decodeGroup?, sextetValue?_sextetChar, hs, ht, hu, hv]

/-- A padded group is never read as a full one. -/
theorem decodeGroup?_pad (a b c : Char) : decodeGroup? a b c '=' = none := by
  rw [decodeGroup?, sextetValue?_pad]
  cases sextetValue? a <;> cases sextetValue? b <;> cases sextetValue? c <;> rfl

theorem sextetChar_ne_pad {n : Nat} (h : n < 64) : sextetChar n ≠ '=' := by
  intro e
  have hv := sextetValue?_sextetChar n h
  rw [e, sextetValue?_pad] at hv
  contradiction

theorem decodeLast?_two {s t u : Nat} (hs : s < 64) (ht : t < 64) (hu : u < 64)
    (hzero : u % 4 = 0) : decodeLast? (sextetChar s) (sextetChar t) (sextetChar u) '=' =
      some [UInt8.ofNat (s * 4 + t / 16), UInt8.ofNat (t % 16 * 16 + u / 4)] := by
  rw [decodeLast?, (guard_eq_some' ()).mpr rfl, sextetValue?_sextetChar s hs,
    sextetValue?_sextetChar t ht, sextetValue?_sextetChar u hu]
  change (if sextetChar u = '=' then _ else guard (u % 4 = 0) >>= fun _ => some _) = _
  rw [if_neg (sextetChar_ne_pad hu), (guard_eq_some' ()).mpr hzero]
  rfl

theorem decodeLast?_one {s t : Nat} (hs : s < 64) (ht : t < 64) (hzero : t % 16 = 0) :
    decodeLast? (sextetChar s) (sextetChar t) '=' '=' = some [UInt8.ofNat (s * 4 + t / 16)] := by
  rw [decodeLast?, (guard_eq_some' ()).mpr rfl, sextetValue?_sextetChar s hs,
    sextetValue?_sextetChar t ht]
  change (guard (t % 16 = 0) >>= fun _ => some _) = _
  rw [(guard_eq_some' ()).mpr hzero]
  rfl

theorem ofNat_eq_of_toNat_eq {a : UInt8} {n : Nat} (h : n = a.toNat) : UInt8.ofNat n = a := by
  rw [h, UInt8.ofNat_toNat]

theorem decodeChars?_group {a b c d : Char} {bytes : Bytes} (h : decodeGroup? a b c d = some bytes)
    (rest : List Char) :
    decodeChars? (a :: b :: c :: d :: rest) = (decodeChars? rest).map (bytes ++ ·) := by
  rw [decodeChars?, h]

theorem decodeChars?_last {a b c d : Char} (h : decodeGroup? a b c d = none) :
    decodeChars? [a, b, c, d] = decodeLast? a b c d := by
  rw [decodeChars?, h]
  rfl

/-- Reading gives back every byte string that was written. -/
theorem decodeChars?_encodeChars (bytes : Bytes) :
    decodeChars? (encodeChars bytes) = some bytes := by
  fun_induction encodeChars bytes with
  | case1 a b c rest ih =>
    have ha := a.toNat_lt
    have hb := b.toNat_lt
    have hc := c.toNat_lt
    rw [decodeChars?_group (decodeGroup?_sextets (by omega) (by omega) (by omega) (by omega)), ih]
    simp only [Option.map_some, List.cons_append, List.nil_append]
    rw [ofNat_eq_of_toNat_eq (a := a) (by omega), ofNat_eq_of_toNat_eq (a := b) (by omega),
      ofNat_eq_of_toNat_eq (a := c) (by omega)]
  | case2 a b =>
    have ha := a.toNat_lt
    have hb := b.toNat_lt
    rw [decodeChars?_last (decodeGroup?_pad ..),
      decodeLast?_two (by omega) (by omega) (by omega) (by omega)]
    rw [ofNat_eq_of_toNat_eq (a := a) (by omega), ofNat_eq_of_toNat_eq (a := b) (by omega)]
  | case3 a =>
    have ha := a.toNat_lt
    rw [decodeChars?_last (decodeGroup?_pad ..), decodeLast?_one (by omega) (by omega) (by omega)]
    rw [ofNat_eq_of_toNat_eq (a := a) (by omega)]
  | case4 => rfl

@[simp] theorem toList_encode (bytes : Bytes) : (encode bytes).toList = encodeChars bytes :=
  String.toList_ofList

theorem decode?_encode (bytes : Bytes) : decode? (encode bytes) = some bytes := by
  rw [decode?, toList_encode, decodeChars?_encodeChars]

theorem encodeChars_injective {a b : Bytes} (h : encodeChars a = encodeChars b) : a = b := by
  apply Option.some.inj
  rw [← decodeChars?_encodeChars a, ← decodeChars?_encodeChars b, h]

theorem encode_injective {a b : Bytes} (h : encode a = encode b) : a = b :=
  encodeChars_injective (String.ofList_injective h)

/-- A character has a value only if it is the digit for it. -/
theorem eq_sextetChar_of_sextetValue? {c : Char} {n : Nat} (h : sextetValue? c = some n) :
    n < 64 ∧ c = sextetChar n := by
  have hc : Char.ofNat c.toNat = c := Char.ofNat_toNat c
  unfold sextetValue? at h
  split at h
  · next hupper =>
    obtain rfl := Option.some.inj h
    have hback : c.toNat - 65 + 65 = c.toNat := by omega
    refine ⟨by omega, ?_⟩
    rw [sextetChar, if_pos (by omega), hback, hc]
  split at h
  · next hlower =>
    obtain rfl := Option.some.inj h
    have hback : c.toNat - 71 + 71 = c.toNat := by omega
    refine ⟨by omega, ?_⟩
    rw [sextetChar, if_neg (by omega), if_pos (by omega), hback, hc]
  split at h
  · next hdigit =>
    obtain rfl := Option.some.inj h
    have hback : c.toNat + 4 - 4 = c.toNat := by omega
    refine ⟨by omega, ?_⟩
    rw [sextetChar, if_neg (by omega), if_neg (by omega), if_pos (by omega), hback, hc]
  split at h
  · next hplus =>
    obtain rfl := Option.some.inj h
    exact ⟨by decide, hplus⟩
  split at h
  · next hslash =>
    obtain rfl := Option.some.inj h
    exact ⟨by decide, hslash⟩
  · contradiction

theorem toNat_ofNat_of_lt {n : Nat} (h : n < 256) : (UInt8.ofNat n).toNat = n :=
  UInt8.toNat_ofNat_of_lt' h

/-- The four sextets of three bytes are the ones that the bytes were put together from. -/
theorem encodeChars_sextets {s t u v : Nat} (hs : s < 64) (ht : t < 64) (hu : u < 64)
    (hv : v < 64) (rest : Bytes) :
    encodeChars (UInt8.ofNat (s * 4 + t / 16) :: UInt8.ofNat (t % 16 * 16 + u / 4) ::
        UInt8.ofNat (u % 4 * 64 + v) :: rest) =
      sextetChar s :: sextetChar t :: sextetChar u :: sextetChar v :: encodeChars rest := by
  rw [encodeChars, toNat_ofNat_of_lt (by omega), toNat_ofNat_of_lt (by omega),
    toNat_ofNat_of_lt (by omega)]
  have hfirst : (s * 4 + t / 16) / 4 = s := by omega
  have hsecond : (s * 4 + t / 16) % 4 * 16 + (t % 16 * 16 + u / 4) / 16 = t := by omega
  have hthird : (t % 16 * 16 + u / 4) % 16 * 4 + (u % 4 * 64 + v) / 64 = u := by omega
  have hfourth : (u % 4 * 64 + v) % 64 = v := by omega
  rw [hfirst, hsecond, hthird, hfourth]

theorem encodeChars_two_sextets {s t u : Nat} (hs : s < 64) (ht : t < 64) (hu : u < 64)
    (hzero : u % 4 = 0) :
    encodeChars [UInt8.ofNat (s * 4 + t / 16), UInt8.ofNat (t % 16 * 16 + u / 4)] =
      [sextetChar s, sextetChar t, sextetChar u, '='] := by
  rw [encodeChars, toNat_ofNat_of_lt (by omega), toNat_ofNat_of_lt (by omega)]
  have hfirst : (s * 4 + t / 16) / 4 = s := by omega
  have hsecond : (s * 4 + t / 16) % 4 * 16 + (t % 16 * 16 + u / 4) / 16 = t := by omega
  have hthird : (t % 16 * 16 + u / 4) % 16 * 4 = u := by omega
  rw [hfirst, hsecond, hthird]

theorem encodeChars_one_sextet {s t : Nat} (hs : s < 64) (ht : t < 64) (hzero : t % 16 = 0) :
    encodeChars [UInt8.ofNat (s * 4 + t / 16)] = [sextetChar s, sextetChar t, '=', '='] := by
  rw [encodeChars, toNat_ofNat_of_lt (by omega)]
  have hfirst : (s * 4 + t / 16) / 4 = s := by omega
  have hsecond : (s * 4 + t / 16) % 4 * 16 = t := by omega
  rw [hfirst, hsecond]

theorem encodeChars_of_decodeGroup? {a b c d : Char} {bytes : Bytes}
    (h : decodeGroup? a b c d = some bytes) (rest : Bytes) :
    encodeChars (bytes ++ rest) = a :: b :: c :: d :: encodeChars rest := by
  simp only [decodeGroup?, Option.bind_eq_bind, Option.bind_eq_some_iff] at h
  obtain ⟨s, hs, t, ht, u, hu, v, hv, hbytes⟩ := h
  obtain ⟨hslt, rfl⟩ := eq_sextetChar_of_sextetValue? hs
  obtain ⟨htlt, rfl⟩ := eq_sextetChar_of_sextetValue? ht
  obtain ⟨hult, rfl⟩ := eq_sextetChar_of_sextetValue? hu
  obtain ⟨hvlt, rfl⟩ := eq_sextetChar_of_sextetValue? hv
  rw [← Option.some.inj hbytes]
  exact encodeChars_sextets hslt htlt hult hvlt rest

/-- A padded group is accepted only with its unused bits zero, so it is what is written. -/
theorem encodeChars_of_decodeLast? {a b c d : Char} {bytes : Bytes}
    (h : decodeLast? a b c d = some bytes) : encodeChars bytes = [a, b, c, d] := by
  simp only [decodeLast?, Option.bind_eq_bind, Option.bind_eq_some_iff] at h
  obtain ⟨_, hd, s, hs, t, ht, h⟩ := h
  obtain ⟨hslt, rfl⟩ := eq_sextetChar_of_sextetValue? hs
  obtain ⟨htlt, rfl⟩ := eq_sextetChar_of_sextetValue? ht
  rw [(guard_eq_some' _).mp hd]
  split at h
  · next hc =>
    obtain ⟨_, hzero, hbytes⟩ := Option.bind_eq_some_iff.mp h
    rw [← Option.some.inj hbytes, hc]
    exact encodeChars_one_sextet hslt htlt ((guard_eq_some' _).mp hzero)
  · obtain ⟨u, hu, h⟩ := Option.bind_eq_some_iff.mp h
    obtain ⟨_, hzero, hbytes⟩ := Option.bind_eq_some_iff.mp h
    obtain ⟨hult, rfl⟩ := eq_sextetChar_of_sextetValue? hu
    rw [← Option.some.inj hbytes]
    exact encodeChars_two_sextets hslt htlt hult ((guard_eq_some' _).mp hzero)

/-- Only what is written can be read: a text has no second spelling. -/
theorem encodeChars_of_decodeChars? {cs : List Char} {bytes : Bytes}
    (h : decodeChars? cs = some bytes) : encodeChars bytes = cs := by
  fun_induction decodeChars? cs generalizing bytes with
  | case1 =>
    rw [← Option.some.inj h]
    rfl
  | case2 a b c d rest group hgroup ih =>
    obtain ⟨more, hmore, rfl⟩ := Option.map_eq_some_iff.mp h
    rw [encodeChars_of_decodeGroup? hgroup, ih hmore]
  | case3 a b c d _ => exact encodeChars_of_decodeLast? h
  | case4 => contradiction
  | case5 => contradiction

theorem decode?_eq_some_iff {text : String} {bytes : Bytes} :
    decode? text = some bytes ↔ text = encode bytes := by
  constructor
  · intro h
    rw [encode, encodeChars_of_decodeChars? h, String.ofList_toList]
  · rintro rfl
    exact decode?_encode bytes

@[simp] theorem encode_eq_empty_iff {bytes : Bytes} : encode bytes = "" ↔ bytes = [] := by
  constructor
  · intro h
    exact encode_injective h
  · rintro rfl
    rfl

/-- A text that is not empty is read exactly if it is the written form of some bytes. -/
theorem read_eq_ok_iff {text : String} (hne : text ≠ "") {bytes : Option Bytes} :
    read text = .ok bytes ↔ ∃ b, b ≠ [] ∧ bytes = some b ∧ text = encode b := by
  rw [read, if_neg hne]
  cases hdecode : decode? text with
  | none =>
    have hnone : ∀ b, text ≠ encode b := fun b hb => by simp [decode?_eq_some_iff.mpr hb] at hdecode
    simp [hnone]
  | some b =>
    obtain rfl := decode?_eq_some_iff.mp hdecode
    have hb : b ≠ [] := fun hnil => hne (encode_eq_empty_iff.mpr hnil)
    constructor
    · intro h
      exact ⟨b, hb, (Except.ok.inj h).symm, rfl⟩
    · rintro ⟨b', -, rfl, hb'⟩
      rw [encode_injective hb']

/-- Only digits of the alphabet and padding are ever written. -/
theorem sextet_or_pad_of_mem {c : Char} {bytes : Bytes} (h : c ∈ encodeChars bytes) :
    c = '=' ∨ ∃ n < 64, c = sextetChar n := by
  fun_induction encodeChars bytes with
  | case1 a b c' rest ih =>
    have ha := a.toNat_lt
    have hb := b.toNat_lt
    have hc := c'.toNat_lt
    simp only [List.mem_cons] at h
    rcases h with h | h | h | h | h
    · exact .inr ⟨_, by omega, h⟩
    · exact .inr ⟨_, by omega, h⟩
    · exact .inr ⟨_, by omega, h⟩
    · exact .inr ⟨_, by omega, h⟩
    · exact ih h
  | case2 a b =>
    have ha := a.toNat_lt
    have hb := b.toNat_lt
    simp only [List.mem_cons, List.not_mem_nil, or_false] at h
    rcases h with h | h | h | h
    · exact .inr ⟨_, by omega, h⟩
    · exact .inr ⟨_, by omega, h⟩
    · exact .inr ⟨_, by omega, h⟩
    · exact .inl h
  | case3 a =>
    have ha := a.toNat_lt
    simp only [List.mem_cons, List.not_mem_nil, or_false] at h
    rcases h with h | h | h | h
    · exact .inr ⟨_, by omega, h⟩
    · exact .inr ⟨_, by omega, h⟩
    · exact .inl h
    · exact .inl h
  | case4 => simp at h

theorem sextetChar_ne_colon : ∀ n < 64, sextetChar n ≠ ':' := by decide

theorem colon_not_mem_encodeChars (bytes : Bytes) : ':' ∉ encodeChars bytes := by
  intro h
  rcases sextet_or_pad_of_mem h with h | ⟨n, hn, h⟩
  · simp at h
  · exact sextetChar_ne_colon n hn h.symm

theorem isBlankChar_sextetChar : ∀ n < 64, Text.isBlankChar (sextetChar n) = false := by decide

theorem isBlankChar_of_mem_encodeChars {c : Char} {bytes : Bytes} (h : c ∈ encodeChars bytes) :
    Text.isBlankChar c = false := by
  rcases sextet_or_pad_of_mem h with rfl | ⟨n, hn, rfl⟩
  · rfl
  · exact isBlankChar_sextetChar n hn

end DirectoryAuth.Base64
