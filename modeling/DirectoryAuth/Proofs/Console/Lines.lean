import DirectoryAuth.Console.Prompt
import DirectoryAuth.Proofs.Bytes

/-! Lines of an input that is text. The byte of a line feed stands in UTF-8 for nothing but a line
feed, so an input is cut between characters, and every line of it can be read. -/
namespace DirectoryAuth

/-- The bytes of a longer form have their highest bit set. -/
theorem lineFeed_notMem_utf8EncodeChar {c : Char} (hc : c ≠ '\n') :
    10 ∉ String.utf8EncodeChar c := by
  have hcode : c.val.toNat ≠ 10 := fun h => hc (Char.ext (UInt32.toNat_inj.mp h))
  have hbyte (n : Nat) : (10 : UInt8) = UInt8.ofNat n ↔ n % 256 = 10 := by
    rw [← UInt8.toNat_inj, UInt8.toNat_ofNat', eq_comm]
    rfl
  intro hmem
  simp only [String.utf8EncodeChar] at hmem
  split at hmem
  · simp only [List.mem_singleton, hbyte] at hmem
    omega
  · split at hmem
    · simp only [List.mem_cons, List.not_mem_nil, or_false, hbyte] at hmem
      omega
    · split at hmem <;> simp only [List.mem_cons, List.not_mem_nil, or_false, hbyte] at hmem <;>
        omega

namespace Console

/-- The lines of a text, each with its line end; the last one may lack it. -/
def lineChars : List Char → List (List Char)
  | [] => []
  | c :: rest =>
    if c = '\n' then [c] :: lineChars rest
    else match lineChars rest with
      | [] => [[c]]
      | line :: more => (c :: line) :: more

/-- The lines of a text without their line ends. -/
def textLines (s : String) : List String :=
  (lineChars s.toList).map fun line => String.ofList (line.reverse.dropWhile isLineEnd).reverse

/-- Bytes before the end of a line only make it longer. -/
theorem rawLines_append {bytes : Bytes} (hne : bytes ≠ []) (h : 10 ∉ bytes) (rest : Bytes) :
    rawLines (bytes ++ rest) = match rawLines rest with
      | [] => [bytes]
      | line :: more => (bytes ++ line) :: more := by
  induction bytes with
  | nil => contradiction
  | cons b bytes ih =>
    rw [List.mem_cons, not_or] at h
    obtain ⟨hb, hbytes⟩ := h
    rw [List.cons_append, rawLines, if_neg (Ne.symm hb)]
    cases bytes with
    | nil =>
      rw [List.nil_append]
      cases rawLines rest <;> rfl
    | cons b' bytes =>
      rw [ih (List.cons_ne_nil _ _) hbytes]
      cases rawLines rest <;> rfl

theorem rawLines_flatMap (cs : List Char) : rawLines (cs.flatMap String.utf8EncodeChar) =
    (lineChars cs).map (·.flatMap String.utf8EncodeChar) := by
  induction cs with
  | nil => rfl
  | cons c rest ih =>
    rw [List.flatMap_cons, lineChars]
    by_cases hc : c = '\n'
    · subst hc
      have hfeed : String.utf8EncodeChar '\n' = [10] := rfl
      rw [hfeed, List.singleton_append, rawLines, if_pos rfl, if_pos rfl, ih]
      rfl
    · rw [rawLines_append String.utf8EncodeChar_ne_nil (lineFeed_notMem_utf8EncodeChar hc), ih,
        if_neg hc]
      cases lineChars rest <;> simp

/-- Every line of a text is read, without its line end. -/
theorem map_lineText_rawLines (s : String) :
    (rawLines (utf8 s)).map lineText = (textLines s).map .ok := by
  rw [utf8_eq_flatMap, rawLines_flatMap, textLines, List.map_map, List.map_map]
  apply List.map_congr_left
  intro line _
  simp only [Function.comp_apply, lineText, ofUtf8?_flatMap, String.toList_ofList]

example : textLines "a\r\n\nb\r" = ["a", "", "b"] := by decide +kernel

end Console

end DirectoryAuth
