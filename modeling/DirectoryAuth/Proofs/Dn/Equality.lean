import DirectoryAuth.Proofs.Dn.RoundTrip
import DirectoryAuth.Proofs.Text.Lowercase

/-! Equality of entries, component by component. Writing an entry and mapping the text to lower case
is the same as mapping the components and writing those, since names, values and escapes are kept
apart by characters that end words; and what has been written can be told apart again. -/
namespace DirectoryAuth

namespace Dn

open Text (IsDelimiter isDelimiter_backslash isDelimiter_comma isDelimiter_equals lowercaseAfter
  lowercaseAfter_congr lowercaseBetween lowercaseChars seesCased seesCased_cons)

theorem escape_cons (c : Char) (rest : List Char) :
    escape (c :: rest) = escapeChar c ++ escape rest := rfl

theorem escape_append (a b : List Char) : escape (a ++ b) = escape a ++ escape b :=
  List.flatMap_append

theorem escape_eq_self {cs : List Char} (h : ∀ c ∈ cs, ¬(c = '\\' ∨ c = ',')) : escape cs = cs := by
  induction cs with
  | nil => rfl
  | cons c rest ih =>
    obtain ⟨hc, hrest⟩ := List.forall_mem_cons.mp h
    rw [escape_cons, escapeChar, if_neg hc, ih hrest]
    rfl

theorem isDelimiter_of_escaped {c : Char} (h : c = '\\' ∨ c = ',') : IsDelimiter c := by
  rcases h with rfl | rfl
  · exact isDelimiter_backslash
  · exact isDelimiter_comma

/-- The rule of the sigma sees as much of an escaped value as of the value itself. -/
theorem seesCased_escape (cs : List Char) : seesCased (escape cs) = seesCased cs := by
  induction cs with
  | nil => rfl
  | cons c rest ih =>
    rw [escape_cons, escapeChar]
    split
    · next hc =>
      rw [(isDelimiter_of_escaped hc).seesCased_cons]
      exact isDelimiter_backslash.seesCased_cons _
    · rw [List.singleton_append, seesCased_cons, seesCased_cons, ih]

/-- Escapes are neither made nor undone by lower case. -/
theorem lowercaseAfter_escape (before cs : List Char) :
    lowercaseAfter before (escape cs) = escape (lowercaseAfter before cs) := by
  induction cs generalizing before with
  | nil => rfl
  | cons c rest ih =>
    rw [escape_cons, escapeChar]
    split
    · next hc =>
      have hd := isDelimiter_of_escaped hc
      rw [List.cons_append, isDelimiter_backslash.lowercaseAfter_cons, List.singleton_append,
        lowercaseChars, hd.lowercaseAfter_cons, hd.lowercaseAfter_cons, lowercaseChars, ih,
        escape_cons, escapeChar, if_pos hc]
      rfl
    · next hc =>
      have hbetween : escape (lowercaseBetween before c rest) = lowercaseBetween before c rest := by
        apply escape_eq_self
        intro x hx hspecial
        have hself := (isDelimiter_of_escaped hspecial).eq_of_mem_lowercaseBetween hx
        exact hc (hself ▸ hspecial)
      rw [List.singleton_append, Text.lowercaseAfter_cons, ih, Text.lowercaseAfter_cons,
        escape_append, hbetween, lowercaseBetween, seesCased_escape, ← lowercaseBetween]

theorem lowercaseChars_escape (cs : List Char) :
    lowercaseChars (escape cs) = escape (lowercaseChars cs) := lowercaseAfter_escape [] cs

/-- The component with name and value in lower case. -/
def Component.lowercase (component : Component) : Component :=
  ⟨Text.lowercase component.name, Text.lowercase component.value⟩

theorem lowercaseChars_chars (component : Component) :
    lowercaseChars component.chars = component.lowercase.chars := by
  rw [Component.chars, isDelimiter_equals.lowercaseChars_append, lowercaseChars_escape]
  simp [Component.chars, Component.lowercase, Text.lowercase]

theorem lowercaseChars_joinTokens (list : List (List Char)) :
    lowercaseChars (joinTokens list) = joinTokens (list.map lowercaseChars) := by
  induction list with
  | nil => rfl
  | cons token more ih =>
    cases more with
    | nil => rfl
    | cons next rest =>
      rw [joinTokens, isDelimiter_comma.lowercaseChars_append, ih]
      · rfl
      · exact fun h => List.cons_ne_nil _ _ h

theorem lowercase_textOf (components : List Component) :
    Text.lowercase (textOf components) = textOf (components.map Component.lowercase) := by
  have hchars : lowercaseChars ∘ Component.chars = Component.chars ∘ Component.lowercase :=
    funext lowercaseChars_chars
  rw [textOf, textOf, Text.lowercase, String.toList_ofList, lowercaseChars_joinTokens, List.map_map,
    List.map_map, hchars]

/-- Components that are written alike are the same. -/
theorem textOf_inj {a b : List Component} (ha : ∀ component ∈ a, Readable component.name)
    (hb : ∀ component ∈ b, Readable component.name) : textOf a = textOf b ↔ a = b := by
  constructor
  · intro h
    by_cases hempty : textOf a = ""
    · have hempty' : textOf b = "" := h ▸ hempty
      rw [textOf_eq_empty_iff.mp hempty, textOf_eq_empty_iff.mp hempty']
    · have hempty' : textOf b ≠ "" := h ▸ hempty
      have hread := readComponents_textOf (mt textOf_eq_empty_iff.mpr hempty) ha
      rw [h, readComponents_textOf (mt textOf_eq_empty_iff.mpr hempty') hb] at hread
      exact (Except.ok.inj hread).symm
  · rintro rfl
    rfl

end Dn

theorem nonempty?_eq_ite (value : Option String) :
    nonempty? value = if value.getD "" = "" then none else some (value.getD "") := by
  cases value with
  | none => rfl
  | some s => by_cases hs : s = "" <;> simp [nonempty?, Option.filter, hs]

/-- An absent value is written like an empty one, and like no other. -/
theorem nonempty?_eq_iff {a b : Option String} :
    nonempty? a = nonempty? b ↔ a.getD "" = b.getD "" := by
  rw [nonempty?_eq_ite, nonempty?_eq_ite]
  constructor
  · intro h
    split at h <;> split at h <;> simp_all
  · intro h
    rw [h]

theorem nonempty?_eq_none_iff {value : Option String} :
    nonempty? value = none ↔ ∀ s, value = some s → s = "" := by
  simp [nonempty?, Option.filter_eq_none_iff]

theorem nonempty?_of_hasText {value : Option String} (h : hasText value = true) :
    nonempty? value = value := by
  cases value with
  | none => rfl
  | some s =>
    have hs : s ≠ "" := by
      rintro rfl
      contradiction
    simp [nonempty?, hs]

theorem nonempty?_map_lowercase (value : Option String) :
    nonempty? (value.map Text.lowercase) = (nonempty? value).map Text.lowercase := by
  cases value with
  | none => rfl
  | some s => by_cases hs : s = "" <;> simp [nonempty?, Option.filter, hs]

theorem getD_map_lowercase (value : Option String) :
    (value.map Text.lowercase).getD "" = Text.lowercase (value.getD "") := by
  cases value <;> rfl

def DistinguishedName.lowercase (dn : DistinguishedName) : DistinguishedName :=
  ⟨dn.commonName.map Text.lowercase, dn.organizationalUnits.map Text.lowercase,
    dn.domainComponents.map Text.lowercase⟩

/-- The account with everything that is written of it in lower case. -/
def Account.lowercase (account : Account) : Account :=
  { account with
    name := account.name.lowercase, accountName := account.accountName.map Text.lowercase }

namespace AttributeNames

open Dn (Component Readable)

/-- The names with those that components are written or recognised by in lower case. -/
def lowercase (names : AttributeNames) : AttributeNames :=
  { names with
    accountName := Text.lowercase names.accountName
    commonName := Text.lowercase names.commonName
    email := Text.lowercase names.email
    organizationalUnit := Text.lowercase names.organizationalUnit
    domainComponent := Text.lowercase names.domainComponent }

theorem wellFormed_default_lowercase : (lowercase {}).WellFormed := by decide +kernel

variable (names : AttributeNames)

theorem map_lowercase_optionalComponent (name : String) (value : Option String) :
    (optionalComponent name value).map Component.lowercase =
      optionalComponent (Text.lowercase name) (value.map Text.lowercase) := by
  rw [optionalComponent, optionalComponent, nonempty?_map_lowercase]
  cases nonempty? value <;> rfl

theorem map_lowercase_dnComponents (dn : DistinguishedName) :
    (names.dnComponents dn).map Component.lowercase =
      names.lowercase.dnComponents dn.lowercase := by
  rw [dnComponents, placeComponents, List.map_append, map_lowercase_optionalComponent]
  simp [dnComponents, placeComponents, lowercase, DistinguishedName.lowercase, Component.lowercase,
    Function.comp_def]

theorem lowercase_formatDn (dn : DistinguishedName) :
    Text.lowercase (names.formatDn dn) = names.lowercase.formatDn dn.lowercase := by
  rw [formatDn, Dn.lowercase_textOf, map_lowercase_dnComponents, formatDn]

theorem lowercase_formatAccount (account : Account) :
    Text.lowercase (names.formatAccount account) =
      names.lowercase.formatAccount account.lowercase := by
  rw [formatAccount, Dn.lowercase_textOf, accountComponents, List.map_append,
    map_lowercase_optionalComponent, map_lowercase_dnComponents, formatAccount, accountComponents]
  rfl

section
variable {names} (h : names.WellFormed)
include h

theorem WellFormed.readable_dnComponents {dn : DistinguishedName} :
    ∀ component ∈ names.dnComponents dn, Readable component.name :=
  fun _ hc => h.readable_of_mem_partNames (name_mem_of_mem_dnComponents hc)

theorem WellFormed.readable_accountComponents {account : Account} :
    ∀ component ∈ names.accountComponents account, Readable component.name := by
  intro component hc
  rcases name_eq_or_mem_of_mem_accountComponents hc with hname | hname
  · rw [hname]
    exact h.readable _ List.mem_cons_self
  · exact h.readable_of_mem_partNames hname

/-- Names are written alike if they have the same parts. -/
theorem WellFormed.formatDn_eq_iff {a b : DistinguishedName} :
    names.formatDn a = names.formatDn b ↔ nonempty? a.commonName = nonempty? b.commonName ∧
      a.organizationalUnits = b.organizationalUnits ∧ a.domainComponents = b.domainComponents := by
  rw [formatDn, formatDn, Dn.textOf_inj h.readable_dnComponents h.readable_dnComponents]
  constructor
  · intro hcomponents
    have hread := h.foldl_dnComponents a
    rw [hcomponents, h.foldl_dnComponents b, DistinguishedName.mk.injEq] at hread
    obtain ⟨hcommon, hunits, hdomain⟩ := hread
    exact ⟨hcommon.symm, hunits.symm, hdomain.symm⟩
  · rintro ⟨hcommon, hunits, hdomain⟩
    rw [dnComponents, dnComponents, optionalComponent, optionalComponent, placeComponents,
      placeComponents, hcommon, hunits, hdomain]

/-- Accounts are written alike if they have the same account name and the same name. -/
theorem WellFormed.formatAccount_eq_iff {a b : Account} :
    names.formatAccount a = names.formatAccount b ↔
      nonempty? a.accountName = nonempty? b.accountName ∧
        names.formatDn a.name = names.formatDn b.name := by
  rw [formatAccount, formatAccount,
    Dn.textOf_inj h.readable_accountComponents h.readable_accountComponents]
  constructor
  · intro hcomponents
    have hread := h.foldl_accountComponents a
    rw [hcomponents, h.foldl_accountComponents b, Account.mk.injEq, DistinguishedName.mk.injEq]
      at hread
    obtain ⟨⟨hcommon, hunits, hdomain⟩, haccount, -, -⟩ := hread
    exact ⟨haccount.symm, h.formatDn_eq_iff.mpr ⟨hcommon.symm, hunits.symm, hdomain.symm⟩⟩
  · rintro ⟨haccount, hname⟩
    rw [formatDn, formatDn, Dn.textOf_inj h.readable_dnComponents h.readable_dnComponents] at hname
    rw [accountComponents, accountComponents, optionalComponent, optionalComponent, haccount, hname]

end

end AttributeNames

/-- Names whose parts agree in lower case, one by one; an absent common name counts as empty. -/
structure DistinguishedName.AgreesWith (a b : DistinguishedName) : Prop where
  commonName : Text.lowercase (a.commonName.getD "") = Text.lowercase (b.commonName.getD "")
  organizationalUnits :
    a.organizationalUnits.map Text.lowercase = b.organizationalUnits.map Text.lowercase
  domainComponents : a.domainComponents.map Text.lowercase = b.domainComponents.map Text.lowercase

theorem DistinguishedName.formatDn_lowercase_eq_iff {a b : DistinguishedName} :
    (AttributeNames.lowercase {}).formatDn a.lowercase =
      (AttributeNames.lowercase {}).formatDn b.lowercase ↔ a.AgreesWith b := by
  rw [AttributeNames.wellFormed_default_lowercase.formatDn_eq_iff, nonempty?_eq_iff]
  simp only [DistinguishedName.lowercase, getD_map_lowercase]
  exact ⟨fun ⟨hc, hu, hd⟩ => ⟨hc, hu, hd⟩, fun ⟨hc, hu, hd⟩ => ⟨hc, hu, hd⟩⟩

theorem Text.sameLowercase_eq_true_iff {s t : String} :
    Text.sameLowercase s t = true ↔ Text.lowercase s = Text.lowercase t := by
  rw [Text.sameLowercase, beq_iff_eq]

theorem DistinguishedName.same_eq_true_iff {a b : DistinguishedName} :
    a.same b = true ↔ a.AgreesWith b := by
  rw [same, Text.sameLowercase_eq_true_iff, ← DistinguishedName.formatDn_lowercase_eq_iff,
    ← AttributeNames.lowercase_formatDn, ← AttributeNames.lowercase_formatDn]
  rfl

theorem Account.same_eq_true_iff {a b : Account} : a.same b = true ↔
    Text.lowercase (a.accountName.getD "") = Text.lowercase (b.accountName.getD "") ∧
      a.name.AgreesWith b.name := by
  have hwritten : a.same b = true ↔ (AttributeNames.lowercase {}).formatAccount a.lowercase =
      (AttributeNames.lowercase {}).formatAccount b.lowercase := by
    rw [same, Text.sameLowercase_eq_true_iff, ← AttributeNames.lowercase_formatAccount,
      ← AttributeNames.lowercase_formatAccount]
    rfl
  rw [hwritten, AttributeNames.wellFormed_default_lowercase.formatAccount_eq_iff, nonempty?_eq_iff]
  simp only [Account.lowercase, getD_map_lowercase]
  rw [DistinguishedName.formatDn_lowercase_eq_iff]

/-- Entries are the same exactly if their parts agree in lower case, one by one: of a name or a
group the parts of the name, of a user those and the account name, and nothing else. -/
theorem same_iff_parts_agree :
    (∀ a b : DistinguishedName, a.same b = true ↔ a.AgreesWith b) ∧
    (∀ a b : Group, a.same b = true ↔ a.name.AgreesWith b.name) ∧
    ∀ a b : User, a.same b = true ↔
      Text.lowercase (a.account.accountName.getD "") =
        Text.lowercase (b.account.accountName.getD "") ∧
      a.account.name.AgreesWith b.account.name :=
  ⟨fun _ _ => DistinguishedName.same_eq_true_iff, fun _ _ => DistinguishedName.same_eq_true_iff,
    fun _ _ => Account.same_eq_true_iff⟩

/-- A common name that reads like two components is not taken for two. -/
example : (⟨some "a,ou=b", [], []⟩ : DistinguishedName).same ⟨some "A", ["B"], []⟩ = false := by
  decide +kernel

end DirectoryAuth
