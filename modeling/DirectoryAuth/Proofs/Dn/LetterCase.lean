import DirectoryAuth.Proofs.Dn.Equality
import DirectoryAuth.Proofs.Text.AsciiCase

/-! Reading a distinguished name without regard to the case of ASCII letters. Every stage of the
reading commutes with the change of case: tokens, names, values without escapes, and the entry that
is put together from them; so the readings of two texts that differ in case differ in case too. -/
namespace DirectoryAuth

open Text (asciiLower asciiLowerChar asciiLowerChar_eq_iff)

namespace Dn

theorem asciiLowerChar_backslash_iff (c : Char) : asciiLowerChar c = '\\' ↔ c = '\\' :=
  asciiLowerChar_eq_iff (by decide) c

theorem asciiLowerChar_comma_iff (c : Char) : asciiLowerChar c = ',' ↔ c = ',' :=
  asciiLowerChar_eq_iff (by decide) c

theorem asciiLowerChar_equals_iff (c : Char) : asciiLowerChar c = '=' ↔ c = '=' :=
  asciiLowerChar_eq_iff (by decide) c

theorem prependToken_map (f : Char → Char) (cs : List Char) (list : List (List Char)) :
    prependToken (cs.map f) (list.map (List.map f)) = (prependToken cs list).map (List.map f) := by
  cases list with
  | nil => rfl
  | cons token more => rw [List.map_cons, prependToken, prependToken, ← List.map_append]; rfl

/-- Commas and escapes stand at the same places. -/
theorem tokens_map_asciiLowerChar (cs : List Char) :
    tokens (cs.map asciiLowerChar) = (tokens cs).map (List.map asciiLowerChar) := by
  induction cs using tokens.induct with
  | case1 c rest ih =>
    have hescape : asciiLowerChar '\\' = '\\' := by decide
    rw [List.map_cons, List.map_cons, hescape, tokens, tokens, ih, ← prependToken_map]
    rfl
  | case2 rest ih =>
    have hcomma : asciiLowerChar ',' = ',' := by decide
    rw [List.map_cons, hcomma, tokens, tokens, ih]
    rfl
  | case3 c rest hescape hcomma ih =>
    by_cases hc : c = '\\'
    · subst hc
      cases rest with
      | nil => rfl
      | cons d rest => exact absurd rfl (hescape d rest rfl)
    · rw [List.map_cons, tokens_cons (mt (asciiLowerChar_backslash_iff c).mp hc)
        (mt (asciiLowerChar_comma_iff c).mp hcomma), tokens_cons hc hcomma, ih, ← prependToken_map]
      rfl
  | case4 => rfl

theorem unescape_cons {c : Char} (hc : c ≠ '\\') (rest : List Char) :
    unescape (c :: rest) = c :: unescape rest := by
  rw [unescape]
  exact fun _ _ h _ => hc h

theorem unescape_map_asciiLowerChar (cs : List Char) :
    unescape (cs.map asciiLowerChar) = (unescape cs).map asciiLowerChar := by
  induction cs using unescape.induct with
  | case1 c rest ih =>
    have hescape : asciiLowerChar '\\' = '\\' := by decide
    rw [List.map_cons, List.map_cons, hescape, unescape, unescape, ih]
    rfl
  | case2 c rest hescape ih =>
    by_cases hc : c = '\\'
    · subst hc
      cases rest with
      | nil => rfl
      | cons d rest => exact absurd rfl (hescape d rest rfl)
    · rw [List.map_cons, unescape_cons (mt (asciiLowerChar_backslash_iff c).mp hc),
        unescape_cons hc, ih]
      rfl
  | case3 => rfl

/-- The component with the ASCII letters of name and value in lower case. -/
def Component.asciiLower (component : Component) : Component :=
  ⟨Text.asciiLower component.name, Text.asciiLower component.value⟩

theorem componentOfToken?_map_asciiLowerChar (token : List Char) :
    componentOfToken? (token.map asciiLowerChar) =
      (componentOfToken? token).map Component.asciiLower := by
  rw [componentOfToken?, Text.cutAt?_map_asciiLowerChar asciiLowerChar_equals_iff,
    componentOfToken?, Option.map_map, Option.map_map]
  congr 1
  funext r
  simp only [Function.comp_apply, Component.asciiLower, Text.trimChars_map_asciiLowerChar,
    unescape_map_asciiLowerChar, Text.asciiLower_ofList]

theorem readComponents_asciiLower (s : String) : readComponents (asciiLower s) =
    (readComponents s).map (List.map Component.asciiLower) := by
  rw [readComponents, readComponents]
  by_cases hs : s = ""
  · rw [if_pos hs, if_pos (Text.asciiLower_eq_empty_iff.mpr hs)]
    rfl
  · have hcomponents : componentOfToken? ∘ List.map asciiLowerChar =
        fun token => (componentOfToken? token).map Component.asciiLower :=
      funext componentOfToken?_map_asciiLowerChar
    rw [if_neg hs, if_neg (mt Text.asciiLower_eq_empty_iff.mp hs), Text.toList_asciiLower,
      tokens_map_asciiLowerChar, List.filterMap_map, hcomponents, ← List.map_filterMap]
    rfl

end Dn

def DistinguishedName.asciiLower (dn : DistinguishedName) : DistinguishedName :=
  ⟨dn.commonName.map Text.asciiLower, dn.organizationalUnits.map Text.asciiLower,
    dn.domainComponents.map Text.asciiLower⟩

/-- The account with the ASCII letters of all that is read from a text in lower case. -/
def Account.asciiLower (account : Account) : Account :=
  { account with
    name := account.name.asciiLower
    accountName := account.accountName.map Text.asciiLower
    email := account.email.map Text.asciiLower }

namespace AttributeNames

open Dn (Component)

variable (names : AttributeNames)

/-- Which part a component is does not depend on the case of its name. -/
theorem applyComponent_asciiLower (dn : DistinguishedName) (component : Component) :
    names.applyComponent dn.asciiLower component.asciiLower =
      (names.applyComponent dn component).asciiLower := by
  simp only [applyComponent, Component.asciiLower, Text.eqIgnoreAsciiCase_asciiLower]
  split
  · rfl
  · split
    · simp [DistinguishedName.asciiLower, DistinguishedName.addOrganizationalUnit]
    · split
      · simp [DistinguishedName.asciiLower, DistinguishedName.addDomainComponent]
      · rfl

theorem applyAccountComponent_asciiLower (account : Account) (component : Component) :
    names.applyAccountComponent account.asciiLower component.asciiLower =
      (names.applyAccountComponent account component).asciiLower := by
  have hname := names.applyComponent_asciiLower account.name component
  simp only [applyAccountComponent, Component.asciiLower, Text.eqIgnoreAsciiCase_asciiLower]
    at hname ⊢
  split
  · rfl
  · split
    · rfl
    · simp only [Account.asciiLower, hname]

theorem foldl_applyComponent_asciiLower (components : List Component) (dn : DistinguishedName) :
    (components.map Component.asciiLower).foldl names.applyComponent dn.asciiLower =
      (components.foldl names.applyComponent dn).asciiLower := by
  rw [List.foldl_map]
  exact List.foldl_hom _ names.applyComponent_asciiLower

theorem foldl_applyAccountComponent_asciiLower (components : List Component) (account : Account) :
    (components.map Component.asciiLower).foldl names.applyAccountComponent account.asciiLower =
      (components.foldl names.applyAccountComponent account).asciiLower := by
  rw [List.foldl_map]
  exact List.foldl_hom _ names.applyAccountComponent_asciiLower

theorem parseDn_asciiLower (s : String) :
    names.parseDn (Text.asciiLower s) = (names.parseDn s).map DistinguishedName.asciiLower := by
  rw [parseDn_eq, parseDn_eq, Dn.readComponents_asciiLower]
  cases Dn.readComponents s with
  | error e => rfl
  | ok components => exact congrArg _ (names.foldl_applyComponent_asciiLower components {})

theorem parseAccount_asciiLower (s : String) :
    names.parseAccount (Text.asciiLower s) = (names.parseAccount s).map Account.asciiLower := by
  rw [parseAccount_eq, parseAccount_eq, Dn.readComponents_asciiLower]
  cases Dn.readComponents s with
  | error e => rfl
  | ok components => exact congrArg _ (names.foldl_applyAccountComponent_asciiLower components {})

end AttributeNames

/-- Two texts are refused for the same reason, or both are read, with entries that are related. -/
inductive BothRead {α : Type} (R : α → α → Prop) :
    Except DirectoryError α → Except DirectoryError α → Prop
  | refused (e : DirectoryError) : BothRead R (.error e) (.error e)
  | read (a b : α) (h : R a b) : BothRead R (.ok a) (.ok b)

theorem BothRead.mono {α : Type} {R S : α → α → Prop} (hle : ∀ a b, R a b → S a b)
    {x y : Except DirectoryError α} (h : BothRead R x y) : BothRead S x y := by
  cases h with
  | refused e => exact .refused e
  | read a b h => exact .read a b (hle a b h)

theorem BothRead.map {α β : Type} {S : β → β → Prop} {f : α → β} {x y : Except DirectoryError α}
    (h : BothRead (fun a b => S (f a) (f b)) x y) : BothRead S (x.map f) (y.map f) := by
  cases h with
  | refused e => exact .refused e
  | read a b h => exact .read (f a) (f b) h

/-- Readings that agree after a map are both there or neither. -/
theorem bothRead_of_map_eq {α β : Type} {f : α → β} {x y : Except DirectoryError α}
    (h : x.map f = y.map f) : BothRead (fun a b => f a = f b) x y := by
  cases x with
  | error e =>
    cases y with
    | error e' =>
      obtain rfl := Except.error.inj h
      exact .refused e
    | ok b => cases h
  | ok a =>
    cases y with
    | error e' => cases h
    | ok b => exact .read a b (Except.ok.inj h)

/-- As many places of either kind, and a common name in both or in neither. -/
structure DistinguishedName.SameShape (a b : DistinguishedName) : Prop where
  organizationalUnits : a.organizationalUnits.length = b.organizationalUnits.length
  domainComponents : a.domainComponents.length = b.domainComponents.length
  commonName : a.commonName.isSome = b.commonName.isSome

/-- Names of the same shape, and account name and e-mail address in both or in neither. -/
structure Account.SameShape (a b : Account) : Prop where
  name : a.name.SameShape b.name
  accountName : a.accountName.isSome = b.accountName.isSome
  email : a.email.isSome = b.email.isSome

theorem isSome_eq_of_map_eq {α β : Type} {f : α → β} {a b : Option α} (h : a.map f = b.map f) :
    a.isSome = b.isSome := by
  rw [← Option.isSome_map (f := f), h, Option.isSome_map]

theorem Text.map_lowercase_of_map_asciiLower {a b : List String}
    (h : a.map asciiLower = b.map asciiLower) : a.map lowercase = b.map lowercase := by
  have hlower : lowercase = lowercase ∘ asciiLower := funext fun s => (lowercase_asciiLower s).symm
  rw [hlower, ← List.map_map, h, List.map_map]

theorem Text.lowercase_getD_of_map_asciiLower {a b : Option String}
    (h : a.map asciiLower = b.map asciiLower) :
    lowercase (a.getD "") = lowercase (b.getD "") := by
  have hlower : ∀ value : Option String,
      lowercase (value.getD "") = lowercase ((value.map asciiLower).getD "") := by
    intro value
    cases value with
    | none => rfl
    | some s => exact (lowercase_asciiLower s).symm
  rw [hlower, h, ← hlower]

/-- Names that differ in the case of ASCII letters agree part by part. -/
theorem DistinguishedName.agreesWith_of_asciiLower {a b : DistinguishedName}
    (h : a.asciiLower = b.asciiLower) : a.AgreesWith b ∧ a.SameShape b := by
  obtain ⟨hcommon, hunits, hdomain⟩ := DistinguishedName.mk.inj h
  refine ⟨⟨?_, ?_, ?_⟩, ⟨?_, ?_, ?_⟩⟩
  · exact Text.lowercase_getD_of_map_asciiLower hcommon
  · exact Text.map_lowercase_of_map_asciiLower hunits
  · exact Text.map_lowercase_of_map_asciiLower hdomain
  · simpa using congrArg List.length hunits
  · simpa using congrArg List.length hdomain
  · exact isSome_eq_of_map_eq hcommon

theorem DistinguishedName.same_of_asciiLower {a b : DistinguishedName}
    (h : a.asciiLower = b.asciiLower) : a.same b = true ∧ a.SameShape b :=
  (agreesWith_of_asciiLower h).imp_left DistinguishedName.same_eq_true_iff.mpr

theorem Account.same_of_asciiLower {a b : Account} (h : a.asciiLower = b.asciiLower) :
    a.same b = true ∧ a.SameShape b := by
  obtain ⟨hname, haccount, hemail, -⟩ := Account.mk.inj h
  obtain ⟨hagrees, hshape⟩ := DistinguishedName.agreesWith_of_asciiLower hname
  refine ⟨Account.same_eq_true_iff.mpr ⟨?_, hagrees⟩, hshape, ?_, ?_⟩
  · exact Text.lowercase_getD_of_map_asciiLower haccount
  · exact isSome_eq_of_map_eq haccount
  · exact isSome_eq_of_map_eq hemail

namespace AttributeNames

theorem parseUser_eq_map (names : AttributeNames) (s : String) :
    names.parseUser s = (names.parseAccount s).map fun account => { account := account } := by
  rw [parseUser]
  cases names.parseAccount s <;> rfl

theorem parseGroup_eq_map (names : AttributeNames) (s : String) :
    names.parseGroup s = (names.parseDn s).map fun name => { name := name } := by
  rw [parseGroup]
  cases names.parseDn s <;> rfl

/-- Texts that differ in the case of ASCII letters only, in names or in values, are read alike,
whatever the names of the attributes: both are refused, or both are read and give the same name,
user or group, with the same number of places and the same parts present. -/
theorem read_alike_of_eqIgnoreAsciiCase (names : AttributeNames) {s t : String}
    (h : Text.eqIgnoreAsciiCase s t = true) :
    BothRead (fun a b => a.same b = true ∧ a.SameShape b) (names.parseDn s) (names.parseDn t) ∧
    BothRead (fun a b : User => a.same b = true ∧ a.account.SameShape b.account)
      (names.parseUser s) (names.parseUser t) ∧
    BothRead (fun a b : Group => a.same b = true ∧ a.name.SameShape b.name)
      (names.parseGroup s) (names.parseGroup t) := by
  rw [Text.eqIgnoreAsciiCase_iff_asciiLower] at h
  have hnames : BothRead (fun a b => a.asciiLower = b.asciiLower) (names.parseDn s)
      (names.parseDn t) :=
    bothRead_of_map_eq (by rw [← parseDn_asciiLower, h, parseDn_asciiLower])
  have haccounts : BothRead (fun a b => a.asciiLower = b.asciiLower) (names.parseAccount s)
      (names.parseAccount t) :=
    bothRead_of_map_eq (by rw [← parseAccount_asciiLower, h, parseAccount_asciiLower])
  refine ⟨?_, ?_, ?_⟩
  · exact hnames.mono fun _ _ => DistinguishedName.same_of_asciiLower
  · rw [parseUser_eq_map, parseUser_eq_map]
    exact (haccounts.mono fun _ _ => Account.same_of_asciiLower).map
  · rw [parseGroup_eq_map, parseGroup_eq_map]
    exact (hnames.mono fun _ _ => DistinguishedName.same_of_asciiLower).map

/-- An escaped letter, a sigma whose form depends on the letter after it, and a `K` that is no ASCII
letter. -/
theorem read_alike_of_eqIgnoreAsciiCase_sigma :
    let names : AttributeNames := {}
    Text.eqIgnoreAsciiCase "CN=ΑΣ\\X,ou=\u212A,DC=a\\" "cn=ΑΣ\\x,OU=\u212A,dc=A\\" = true ∧
    BothRead (fun a b => a.same b = true ∧ a.SameShape b)
      (names.parseDn "CN=ΑΣ\\X,ou=\u212A,DC=a\\") (names.parseDn "cn=ΑΣ\\x,OU=\u212A,dc=A\\") :=
  ⟨by decide, (read_alike_of_eqIgnoreAsciiCase {} (by decide)).1⟩

end AttributeNames

end DirectoryAuth
