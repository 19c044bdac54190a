import DirectoryAuth.Ldap.Filter
import DirectoryAuth.Proofs.Text.Split

/-! Whether a filter can be read is decided by its name. The value is escaped, so that it ends no
filter, begins none and is never the reason that one is refused. -/
namespace DirectoryAuth.Ldap.Filter

/-- A character stands for itself if it is plain, and is written with two digits if it is not. -/
theorem escapeChar_cases (c : Char) : (isPlain c = true ∧ escapeChar c = [c]) ∨
    ∃ a b, escapeChar c = ['\\', a, b] ∧ Text.isHexDigit a = true ∧
      Text.isHexDigit b = true := by
  by_cases hstar : c = '*'
  · exact .inr ⟨'2', 'a', by simp [escapeChar, hstar], rfl, rfl⟩
  by_cases hopen : c = '('
  · exact .inr ⟨'2', '8', by simp [escapeChar, hopen], rfl, rfl⟩
  by_cases hclose : c = ')'
  · exact .inr ⟨'2', '9', by simp [escapeChar, hclose], rfl, rfl⟩
  by_cases hslash : c = '\\'
  · exact .inr ⟨'5', 'c', by simp [escapeChar, hslash], rfl, rfl⟩
  by_cases hnul : c = '\x00'
  · exact .inr ⟨'0', '0', by simp [escapeChar, hnul], rfl, rfl⟩
  · exact .inl ⟨by simp [isPlain, hstar, hopen, hclose, hslash, hnul],
      by simp [escapeChar, hstar, hopen, hclose, hslash, hnul]⟩

theorem isValue_cons {c : Char} (h : c ≠ '\\') (rest : List Char) :
    isValue (c :: rest) = (isPlain c && isValue rest) := by
  rw [isValue]
  intro a b rest' heq
  exact fun _ => h heq

/-- An escaped character reads as one character of a value. -/
theorem isValue_escapeChar_append (c : Char) (rest : List Char) :
    isValue (escapeChar c ++ rest) = isValue rest := by
  rcases escapeChar_cases c with ⟨hplain, hself⟩ | ⟨a, b, hescape, ha, hb⟩
  · have hslash : c ≠ '\\' := by
      rintro rfl
      contradiction
    rw [hself, List.singleton_append, isValue_cons hslash, hplain, Bool.true_and]
  · simp [hescape, isValue, ha, hb]

theorem isValue_escaped (value : List Char) : isValue (value.flatMap escapeChar) = true := by
  induction value with
  | nil => rfl
  | cons c rest ih => rw [List.flatMap_cons, isValue_escapeChar_append, ih]

theorem star_not_mem_escaped (value : List Char) :
    ∀ c ∈ value.flatMap escapeChar, (c == '*') = false := by
  intro c hc
  rw [beq_eq_false_iff_ne]
  rintro rfl
  obtain ⟨d, -, hd⟩ := List.mem_flatMap.mp hc
  rcases escapeChar_cases d with ⟨hplain, hself⟩ | ⟨a, b, hescape, ha, hb⟩
  · rw [hself] at hd
    rw [← List.mem_singleton.mp hd] at hplain
    contradiction
  · rw [hescape] at hd
    simp only [List.mem_cons, List.not_mem_nil, or_false] at hd
    rcases hd with heq | rfl | rfl <;> contradiction

/-- An equals sign ends no escape, so that the text before it is a value of its own. -/
theorem isValue_append_equals (before after : List Char) :
    isValue (before ++ '=' :: after) = (isValue before && isValue after) := by
  fun_induction isValue before with
  | case1 => rfl
  | case2 a b rest ih =>
    simp only [List.cons_append, isValue, ih, Bool.and_assoc]
  | case3 c rest h ih =>
    by_cases hslash : c = '\\'
    · subst hslash
      -- an escape that the text breaks off is not completed by what follows
      match rest with
      | [] => cases after <;> rfl
      | [a] => simp [isValue, Text.isHexDigit, isPlain]
      | a :: b :: rest' => exact absurd rfl (h a b rest' rfl)
    · rw [List.cons_append, isValue_cons hslash, ih, Bool.and_assoc]

/-- A value at the end of a pattern makes no difference to it. -/
theorem isPattern_append_equals (before : List Char) {after : List Char}
    (hvalue : isValue after = true) (hstar : ∀ c ∈ after, (c == '*') = false) :
    isPattern (before ++ '=' :: after) = isPattern (before ++ ['=']) := by
  obtain ⟨init, last, hpieces⟩ := Text.pieces_append_of_forall_not (· == '*') before
  have hafter := hpieces ('=' :: after) (List.forall_mem_cons.mpr ⟨rfl, hstar⟩)
  have hsign := hpieces ['='] (List.forall_mem_singleton.mpr rfl)
  have hlast : isValue (last ++ '=' :: after) = isValue (last ++ ['=']) := by
    rw [isValue_append_equals, isValue_append_equals, hvalue, isValue]
  have hmiddle : ∀ part : List Char, (init ++ [part]).tail.dropLast = init.tail := by
    intro part
    cases init <;> simp
  simp only [isPattern, hafter, hsign, hmiddle, List.all_append, List.all_cons, hlast]

theorem isPattern_escaped (value : List Char) : isPattern (value.flatMap escapeChar) = true := by
  have hpieces := Text.pieces_of_forall_not (p := (· == '*')) (star_not_mem_escaped value)
  simp [isPattern, hpieces, isValue_escaped]

theorem isComparison_congr (left : List Char) {right right' : List Char}
    (hvalue : isValue right = isValue right') (hpattern : isPattern right = isPattern right') :
    isComparison left right = isComparison left right' := by
  rw [isComparison, isComparison, hvalue, hpattern]

theorem isItem_append {left : List Char} (h : '=' ∉ left) (right : List Char) :
    isItem (left ++ '=' :: right) = isComparison left right := by
  rw [isItem, Text.cutAt?_append '=' h]

/-- No value makes a filter that can be read of one that cannot, or the other way round. -/
theorem wellFormed_value (name value value' : String) :
    wellFormed ⟨name, value⟩ = wellFormed ⟨name, value'⟩ := by
  have hvalue : ∀ value : String, isValue (value.toList.flatMap escapeChar) = true :=
    fun value => isValue_escaped _
  have hstar : ∀ value : String, ∀ c ∈ value.toList.flatMap escapeChar, (c == '*') = false :=
    fun value => star_not_mem_escaped _
  simp only [wellFormed, item]
  cases hcut : Text.cutAt? '=' name.toList with
  | none =>
    have hname := Text.cutAt?_eq_none_iff.mp hcut
    rw [isItem_append hname, isItem_append hname]
    apply isComparison_congr
    · rw [hvalue, hvalue]
    · rw [isPattern_escaped, isPattern_escaped]
  | some parts =>
    obtain ⟨hname, hleft⟩ := Text.cutAt?_eq_some_iff.mp hcut
    rw [hname, List.append_assoc, List.append_assoc, List.cons_append, List.cons_append,
      isItem_append hleft, isItem_append hleft]
    apply isComparison_congr
    · rw [isValue_append_equals, isValue_append_equals, hvalue, hvalue]
    · rw [isPattern_append_equals _ (hvalue _) (hstar _),
        isPattern_append_equals _ (hvalue _) (hstar _)]

/-- Two names that are no description, a matching rule on an attribute and the name of its entry,
and a comparison by parts. -/
example : (["a b", "cn=(", "cn:dn:caseExactMatch:", "cn=a*"].map fun name =>
    wellFormed ⟨name, "*)(cn=\\"⟩) = [false, false, true, true] := by decide

/-! ### Descriptions of attributes -/

/-- The signs of a comparison. -/
def isSign (c : Char) : Bool := ['=', ':', '>', '<', '~'].contains c

theorem not_sign_of_alphanum {c : Char} (h : (c.isAlphanum || c == '-') = true) :
    isSign c = false := by
  cases hsign : isSign c with
  | false => rfl
  | true =>
    simp only [isSign, List.contains_eq_mem, List.mem_cons, List.not_mem_nil, or_false,
      decide_eq_true_eq] at hsign
    rcases hsign with rfl | rfl | rfl | rfl | rfl <;> contradiction

theorem not_sign_of_isObjectName {cs : List Char} (h : isObjectName cs = true) {c : Char}
    (hc : c ∈ cs) : isSign c = false := by
  rcases Bool.or_eq_true_iff.mp h with h | h
  · match cs, h with
    | d :: rest, h =>
      obtain ⟨hd, hrest⟩ := Bool.and_eq_true_iff.mp h
      apply not_sign_of_alphanum
      rcases List.mem_cons.mp hc with rfl | hc
      · simp [Char.isAlphanum, hd]
      · exact List.all_eq_true.mp hrest c hc
  · rcases Text.mem_pieces (p := (· == '.')) hc with hdot | ⟨number, hnumber, hc⟩
    · rw [beq_iff_eq.mp hdot]
      rfl
    · have hdigits : number.all Char.isDigit = true := by
        have hnumber := List.all_eq_true.mp h number hnumber
        simp only [isNumber, Bool.and_eq_true] at hnumber
        exact hnumber.1.2
      apply not_sign_of_alphanum
      simp [Char.isAlphanum, List.all_eq_true.mp hdigits c hc]

theorem not_sign_of_isAttributeDescription {cs : List Char} (h : isAttributeDescription cs = true)
    {c : Char} (hc : c ∈ cs) : isSign c = false := by
  obtain ⟨name, options, hpieces⟩ :=
    List.exists_cons_of_ne_nil (Text.pieces_ne_nil (· == ';') cs)
  rw [isAttributeDescription, hpieces, Bool.and_eq_true] at h
  rcases Text.mem_pieces (p := (· == ';')) hc with hsemicolon | ⟨piece, hpiece, hc⟩
  · rw [beq_iff_eq.mp hsemicolon]
    rfl
  · rw [hpieces] at hpiece
    rcases List.mem_cons.mp hpiece with rfl | hpiece
    · exact not_sign_of_isObjectName h.1 hc
    · have hoption := List.all_eq_true.mp h.2 piece hpiece
      exact not_sign_of_alphanum
        (List.all_eq_true.mp (Bool.and_eq_true_iff.mp hoption).2 c hc)

/-- Every value can be searched for in an attribute whose name is a description. -/
theorem wellFormed_of_isAttributeDescription {name : String}
    (h : isAttributeDescription name.toList = true) (value : String) :
    wellFormed ⟨name, value⟩ = true := by
  have hsign : ∀ c ∈ name.toList, isSign c = false :=
    fun c hc => not_sign_of_isAttributeDescription h hc
  have hequals : '=' ∉ name.toList := fun hc => absurd (hsign _ hc) (by decide)
  have hpattern := isPattern_escaped value.toList
  rw [wellFormed, item, isItem_append hequals, isComparison]
  split
  · next hlast => exact absurd (hsign _ (List.mem_of_getLast? hlast)) (by decide)
  · next hlast => exact absurd (hsign _ (List.mem_of_getLast? hlast)) (by decide)
  · next hlast => exact absurd (hsign _ (List.mem_of_getLast? hlast)) (by decide)
  · next hlast => exact absurd (hsign _ (List.mem_of_getLast? hlast)) (by decide)
  · rw [h, hpattern, Bool.true_and]

end DirectoryAuth.Ldap.Filter
