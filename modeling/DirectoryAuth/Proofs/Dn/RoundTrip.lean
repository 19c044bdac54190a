import DirectoryAuth.Directory.Entry
import DirectoryAuth.Proofs.Dn.Tokens

/-! Written entries read back. Every component comes back as it was written, whatever its value, if
the names of the attributes can be told apart and have no character that means something else. -/
namespace DirectoryAuth

namespace Dn

/-- A name of an attribute that is read as it is written. -/
structure Readable (name : String) : Prop where
  no_equals : '=' ∉ name.toList
  no_comma : ',' ∉ name.toList
  no_backslash : '\\' ∉ name.toList
  trim_eq : Text.trim name = name

instance (name : String) : Decidable (Readable name) :=
  decidable_of_iff ('=' ∉ name.toList ∧ ',' ∉ name.toList ∧ '\\' ∉ name.toList ∧
    Text.trim name = name)
    ⟨fun ⟨h, h', h'', ht⟩ => ⟨h, h', h'', ht⟩, fun ⟨h, h', h'', ht⟩ => ⟨h, h', h'', ht⟩⟩

theorem isToken_chars {component : Component} (h : Readable component.name) :
    IsToken component.chars := by
  have hvalue : IsToken ('=' :: escape component.value.toList) :=
    (isToken_escape component.value.toList).cons (by decide) (by decide)
  exact hvalue.append h.no_backslash h.no_comma

theorem chars_ne_nil (component : Component) : component.chars ≠ [] :=
  List.append_ne_nil_of_right_ne_nil _ (List.cons_ne_nil _ _)

/-- The first `=` is the one that stands between name and value. -/
theorem componentOfToken?_chars {component : Component} (h : Readable component.name) :
    componentOfToken? component.chars = some component := by
  obtain ⟨name, value⟩ := component
  have htrim : String.ofList (Text.trimChars name.toList) = name := h.trim_eq
  rw [componentOfToken?, Component.chars, Text.cutAt?_append '=' h.no_equals, Option.map_some,
    unescape_escape, htrim, String.ofList_toList]

theorem textOf_eq_empty_iff {components : List Component} :
    textOf components = "" ↔ components = [] := by
  have hchars : ∀ token ∈ components.map Component.chars, token ≠ [] := by
    intro token htoken
    obtain ⟨component, -, rfl⟩ := List.mem_map.mp htoken
    exact chars_ne_nil component
  rw [textOf, String.ofList_eq_empty_iff, joinTokens_eq_nil_iff hchars, List.map_eq_nil_iff]

/-- A written name has a sign between name and value for each of its components. -/
theorem isBlank_textOf_iff {components : List Component} :
    Text.isBlank (textOf components) = true ↔ components = [] := by
  have hequals : Text.isBlankChar '=' = false := by decide
  rw [textOf, Text.isBlank, String.toList_ofList]
  cases components with
  | nil => simp [joinTokens]
  | cons component rest =>
    cases rest <;> simp [joinTokens, Component.chars, hequals]

theorem filterMap_componentOfToken? {components : List Component}
    (h : ∀ component ∈ components, Readable component.name) :
    (components.map Component.chars).filterMap componentOfToken? = components := by
  induction components with
  | nil => rfl
  | cons component rest ih =>
    rw [List.map_cons, List.filterMap_cons_some
      (componentOfToken?_chars (h component List.mem_cons_self)),
      ih fun other hother => h other (List.mem_cons_of_mem _ hother)]

/-- Components that have been written are read again. -/
theorem readComponents_textOf {components : List Component} (hne : components ≠ [])
    (h : ∀ component ∈ components, Readable component.name) :
    readComponents (textOf components) = .ok components := by
  have htokens : ∀ token ∈ components.map Component.chars, IsToken token := by
    intro token htoken
    obtain ⟨component, hcomponent, rfl⟩ := List.mem_map.mp htoken
    exact isToken_chars (h component hcomponent)
  rw [readComponents, if_neg (mt textOf_eq_empty_iff.mp hne), textOf, String.toList_ofList,
    tokens_joinTokens (by simpa using hne) htokens, filterMap_componentOfToken? h]

/-- An empty text is no name. -/
theorem readComponents_textOf_nil :
    readComponents (textOf []) = .error (.invalidDn "DN must not be empty") := rfl

end Dn

namespace DistinguishedName

theorem foldl_addOrganizationalUnit (values : List String) (dn : DistinguishedName) :
    values.foldl addOrganizationalUnit dn =
      { dn with organizationalUnits := dn.organizationalUnits ++ values } := by
  induction values generalizing dn with
  | nil => simp
  | cons value rest ih =>
    rw [List.foldl_cons, ih]
    simp [addOrganizationalUnit]

theorem foldl_addDomainComponent (values : List String) (dn : DistinguishedName) :
    values.foldl addDomainComponent dn =
      { dn with domainComponents := dn.domainComponents ++ values } := by
  induction values generalizing dn with
  | nil => simp
  | cons value rest ih =>
    rw [List.foldl_cons, ih]
    simp [addDomainComponent]

end DistinguishedName

namespace AttributeNames
open Dn (Component Readable)
open Text (eqIgnoreAsciiCase eqIgnoreAsciiCase_comm eqIgnoreAsciiCase_refl)

/-- The names that components are written with or recognised by. -/
def componentNames (names : AttributeNames) : List String :=
  [names.accountName, names.email, names.commonName, names.organizationalUnit,
    names.domainComponent]

/-- Names with which every entry can be written and read back. -/
structure WellFormed (names : AttributeNames) : Prop where
  readable : ∀ name ∈ names.componentNames, Readable name
  distinct : names.componentNames.Pairwise fun a b => eqIgnoreAsciiCase a b = false

instance (names : AttributeNames) : Decidable names.WellFormed :=
  decidable_of_iff ((∀ name ∈ names.componentNames, Readable name) ∧
    names.componentNames.Pairwise fun a b => eqIgnoreAsciiCase a b = false)
    ⟨fun ⟨h, h'⟩ => ⟨h, h'⟩, fun ⟨h, h'⟩ => ⟨h, h'⟩⟩

theorem wellFormed_default : WellFormed {} := by decide

theorem wellFormed_openLdap : openLdap.WellFormed := by decide

/-- The names of the components of a distinguished name. -/
def partNames (names : AttributeNames) : List String :=
  [names.commonName, names.organizationalUnit, names.domainComponent]

variable {names : AttributeNames}

theorem name_eq_of_mem_optionalComponent {name : String} {value : Option String}
    {component : Component} (h : component ∈ optionalComponent name value) :
    component.name = name := by
  rw [optionalComponent, Option.mem_toList, Option.map_eq_some_iff] at h
  obtain ⟨_, -, rfl⟩ := h
  rfl

theorem name_mem_of_mem_dnComponents {dn : DistinguishedName} {component : Component}
    (h : component ∈ names.dnComponents dn) : component.name ∈ names.partNames := by
  rw [dnComponents, placeComponents, List.mem_append, List.mem_append] at h
  rcases h with h | h | h
  · rw [name_eq_of_mem_optionalComponent h]
    exact List.mem_cons_self
  · obtain ⟨_, -, rfl⟩ := List.mem_map.mp h
    exact List.mem_cons_of_mem _ List.mem_cons_self
  · obtain ⟨_, -, rfl⟩ := List.mem_map.mp h
    exact List.mem_cons_of_mem _ (List.mem_cons_of_mem _ List.mem_cons_self)

theorem name_eq_or_mem_of_mem_accountComponents {account : Account} {component : Component}
    (h : component ∈ names.accountComponents account) :
    component.name = names.accountName ∨ component.name ∈ names.partNames := by
  rw [accountComponents, List.mem_append] at h
  exact h.imp name_eq_of_mem_optionalComponent name_mem_of_mem_dnComponents

theorem optionalComponent_eq_nil_iff {name : String} {value : Option String} :
    optionalComponent name value = [] ↔ nonempty? value = none := by
  rw [optionalComponent]
  cases nonempty? value <;> simp

theorem dnComponents_eq_nil_iff {dn : DistinguishedName} : names.dnComponents dn = [] ↔
    nonempty? dn.commonName = none ∧ dn.organizationalUnits = [] ∧ dn.domainComponents = [] := by
  rw [dnComponents, placeComponents, List.append_eq_nil_iff, List.append_eq_nil_iff,
    optionalComponent_eq_nil_iff, List.map_eq_nil_iff, List.map_eq_nil_iff]

theorem accountComponents_eq_nil_iff {account : Account} : names.accountComponents account = [] ↔
    nonempty? account.accountName = none ∧ names.dnComponents account.name = [] := by
  rw [accountComponents, List.append_eq_nil_iff, optionalComponent_eq_nil_iff]

theorem applyComponent_commonName (dn : DistinguishedName) (value : String) :
    names.applyComponent dn ⟨names.commonName, value⟩ = { dn with commonName := some value } := by
  rw [applyComponent, if_pos (eqIgnoreAsciiCase_refl _)]

section
variable (h : names.WellFormed)
include h

theorem WellFormed.readable_of_mem_partNames {name : String} (hname : name ∈ names.partNames) :
    Readable name :=
  h.readable name (List.mem_cons_of_mem _ (List.mem_cons_of_mem _ hname))

/-- A part of the name is told apart from account name and e-mail address. -/
theorem WellFormed.part_ne {name : String} (hname : name ∈ names.partNames) :
    eqIgnoreAsciiCase name names.accountName = false ∧
      eqIgnoreAsciiCase name names.email = false := by
  obtain ⟨haccount, hrest⟩ := List.pairwise_cons.mp h.distinct
  obtain ⟨hemail, -⟩ := List.pairwise_cons.mp hrest
  rw [eqIgnoreAsciiCase_comm name, eqIgnoreAsciiCase_comm name]
  exact ⟨haccount name (List.mem_cons_of_mem _ hname), hemail name hname⟩

theorem WellFormed.distinct_partNames :
    names.partNames.Pairwise fun a b => eqIgnoreAsciiCase a b = false :=
  (List.pairwise_cons.mp (List.pairwise_cons.mp h.distinct).2).2

theorem WellFormed.applyComponent_organizationalUnit (dn : DistinguishedName) (value : String) :
    names.applyComponent dn ⟨names.organizationalUnit, value⟩ = dn.addOrganizationalUnit value := by
  obtain ⟨hcommon, -⟩ := List.pairwise_cons.mp h.distinct_partNames
  have hne := hcommon names.organizationalUnit List.mem_cons_self
  rw [eqIgnoreAsciiCase_comm] at hne
  simp [applyComponent, hne, eqIgnoreAsciiCase_refl]

theorem WellFormed.applyComponent_domainComponent (dn : DistinguishedName) (value : String) :
    names.applyComponent dn ⟨names.domainComponent, value⟩ = dn.addDomainComponent value := by
  obtain ⟨hcommon, hrest⟩ := List.pairwise_cons.mp h.distinct_partNames
  obtain ⟨hunit, -⟩ := List.pairwise_cons.mp hrest
  have hne := hcommon names.domainComponent (List.mem_cons_of_mem _ List.mem_cons_self)
  have hne' := hunit names.domainComponent List.mem_cons_self
  rw [eqIgnoreAsciiCase_comm] at hne hne'
  simp [applyComponent, hne, hne', eqIgnoreAsciiCase_refl]

/-- Places are read into the lists that they were written from, in order. -/
theorem WellFormed.foldl_placeComponents (start dn : DistinguishedName) :
    (names.placeComponents dn).foldl names.applyComponent start =
      { start with
        organizationalUnits := start.organizationalUnits ++ dn.organizationalUnits
        domainComponents := start.domainComponents ++ dn.domainComponents } := by
  rw [placeComponents, List.foldl_append, List.foldl_map, List.foldl_map]
  simp only [h.applyComponent_organizationalUnit, h.applyComponent_domainComponent]
  rw [DistinguishedName.foldl_addOrganizationalUnit, DistinguishedName.foldl_addDomainComponent]

theorem WellFormed.foldl_dnComponents (dn : DistinguishedName) :
    (names.dnComponents dn).foldl names.applyComponent {} =
      { dn with commonName := nonempty? dn.commonName } := by
  rw [dnComponents, List.foldl_append, h.foldl_placeComponents, optionalComponent]
  cases nonempty? dn.commonName with
  | none => rfl
  | some value =>
    rw [Option.map_some, Option.toList_some, List.foldl_cons, List.foldl_nil,
      applyComponent_commonName]
    rfl

/-- Parts of the name go to the name of the account. -/
theorem WellFormed.foldl_applyAccountComponent {components : List Component}
    (hparts : ∀ component ∈ components, component.name ∈ names.partNames) (account : Account) :
    components.foldl names.applyAccountComponent account =
      { account with name := components.foldl names.applyComponent account.name } := by
  induction components generalizing account with
  | nil => rfl
  | cons component rest ih =>
    obtain ⟨haccount, hemail⟩ := h.part_ne (hparts component List.mem_cons_self)
    have hstep : names.applyAccountComponent account component =
        { account with name := names.applyComponent account.name component } := by
      simp [applyAccountComponent, haccount, hemail]
    rw [List.foldl_cons, hstep, ih fun other hother => hparts other (List.mem_cons_of_mem _ hother)]
    rfl

theorem WellFormed.foldl_accountComponents (account : Account) :
    (names.accountComponents account).foldl names.applyAccountComponent {} =
      { name := { account.name with commonName := nonempty? account.name.commonName }
        accountName := nonempty? account.accountName } := by
  rw [accountComponents, List.foldl_append,
    h.foldl_applyAccountComponent fun _ => name_mem_of_mem_dnComponents, optionalComponent]
  cases nonempty? account.accountName with
  | none =>
    rw [Option.map_none, Option.toList_none, List.foldl_nil, h.foldl_dnComponents]
  | some value =>
    have hstep : names.applyAccountComponent {} ⟨names.accountName, value⟩ =
        { accountName := some value } := by
      rw [applyAccountComponent, if_pos (eqIgnoreAsciiCase_refl _)]
    rw [Option.map_some, Option.toList_some, List.foldl_cons, List.foldl_nil, hstep,
      h.foldl_dnComponents]

end

/-- The text of an entry is read back, unless nothing is set: then, and only then, it is empty and
is refused. -/
structure RoundTrip {ε : Type} (text : String) (parse : String → Except DirectoryError ε)
    (readBack : ε) (unset : Prop) : Prop where
  parse_eq : text ≠ "" → parse text = .ok readBack
  text_eq_empty_iff : text = "" ↔ unset
  parse_eq_error_iff : (∃ reason, parse text = .error (.invalidDn reason)) ↔ unset

theorem roundTrip_textOf {ε : Type} (components : List Component)
    (parse : String → Except DirectoryError ε) (read : List Component → ε) {readBack : ε}
    {unset : Prop} (hparse : ∀ s, parse s = (Dn.readComponents s).map read)
    (hreadable : ∀ component ∈ components, Readable component.name)
    (hread : read components = readBack) (hunset : components = [] ↔ unset) :
    RoundTrip (Dn.textOf components) parse readBack unset := by
  have hok : Dn.textOf components ≠ "" → parse (Dn.textOf components) = .ok readBack := by
    intro hne
    rw [hparse, Dn.readComponents_textOf (mt Dn.textOf_eq_empty_iff.mpr hne) hreadable, ← hread]
    rfl
  refine ⟨hok, Dn.textOf_eq_empty_iff.trans hunset, ?_, ?_⟩
  · rintro ⟨reason, hreason⟩
    rw [← hunset, ← Dn.textOf_eq_empty_iff]
    by_cases htext : Dn.textOf components = ""
    · exact htext
    · rw [hok htext] at hreason
      contradiction
  · intro hu
    rw [hunset.mpr hu, hparse, Dn.readComponents_textOf_nil]
    exact ⟨_, rfl⟩

theorem parseDn_eq (names : AttributeNames) (s : String) : names.parseDn s =
    (Dn.readComponents s).map fun components => components.foldl names.applyComponent {} := by
  rw [parseDn]
  cases Dn.readComponents s <;> rfl

theorem parseAccount_eq (names : AttributeNames) (s : String) : names.parseAccount s =
    (Dn.readComponents s).map fun components =>
      components.foldl names.applyAccountComponent {} := by
  rw [parseAccount]
  cases Dn.readComponents s <;> rfl

theorem parseUser_eq (names : AttributeNames) (s : String) : names.parseUser s =
    (Dn.readComponents s).map fun components =>
      { account := components.foldl names.applyAccountComponent {} } := by
  rw [parseUser, parseAccount_eq]
  cases Dn.readComponents s <;> rfl

theorem parseGroup_eq (names : AttributeNames) (s : String) : names.parseGroup s =
    (Dn.readComponents s).map fun components =>
      { name := components.foldl names.applyComponent {} } := by
  rw [parseGroup, parseDn_eq]
  cases Dn.readComponents s <;> rfl

/-- What is written of a name, a user or a group is read back: the common name and the account name
where they are not empty, all places in order, and nothing else. -/
theorem roundTrip_format (h : names.WellFormed) (dn : DistinguishedName) (user : User)
    (group : Group) :
    RoundTrip (names.formatDn dn) names.parseDn
      ⟨nonempty? dn.commonName, dn.organizationalUnits, dn.domainComponents⟩
      (nonempty? dn.commonName = none ∧ dn.organizationalUnits = [] ∧ dn.domainComponents = []) ∧
    RoundTrip (names.formatUser user) names.parseUser
      { account :=
        { name := ⟨nonempty? user.account.name.commonName, user.account.name.organizationalUnits,
            user.account.name.domainComponents⟩
          accountName := nonempty? user.account.accountName
          email := none
          entryDn := none }
        groups := [] }
      (nonempty? user.account.accountName = none ∧ nonempty? user.account.name.commonName = none ∧
        user.account.name.organizationalUnits = [] ∧ user.account.name.domainComponents = []) ∧
    RoundTrip (names.formatGroup group) names.parseGroup
      { name := ⟨nonempty? group.name.commonName, group.name.organizationalUnits,
          group.name.domainComponents⟩
        members := [] }
      (nonempty? group.name.commonName = none ∧ group.name.organizationalUnits = [] ∧
        group.name.domainComponents = []) := by
  have hpart : ∀ (dn : DistinguishedName), ∀ component ∈ names.dnComponents dn,
      Readable component.name := fun _ _ hc =>
    h.readable_of_mem_partNames (name_mem_of_mem_dnComponents hc)
  refine ⟨?_, ?_, ?_⟩
  · exact roundTrip_textOf (names.dnComponents dn) names.parseDn _ names.parseDn_eq (hpart dn)
      (h.foldl_dnComponents dn) dnComponents_eq_nil_iff
  · refine roundTrip_textOf (names.accountComponents user.account) names.parseUser _
      names.parseUser_eq ?_ (congrArg (fun account => User.mk account [])
        (h.foldl_accountComponents user.account)) ?_
    · intro component hc
      rcases name_eq_or_mem_of_mem_accountComponents hc with hname | hname
      · rw [hname]
        exact h.readable _ List.mem_cons_self
      · exact h.readable_of_mem_partNames hname
    · rw [accountComponents_eq_nil_iff, dnComponents_eq_nil_iff]
  · exact roundTrip_textOf (names.dnComponents group.name) names.parseGroup _ names.parseGroup_eq
      (hpart group.name) (congrArg (fun name => Group.mk name [])
        (h.foldl_dnComponents group.name)) dnComponents_eq_nil_iff

/-- A name made of delimiters, an empty unit and a blank domain component. -/
theorem roundTrip_format_delimiters :
    let names : AttributeNames := {}
    let dn : DistinguishedName := ⟨some "=a,b\\", ["", "x=y\\,"], [" "]⟩
    names.WellFormed ∧ openLdap.WellFormed ∧ names.parseDn (names.formatDn dn) = .ok dn :=
  ⟨wellFormed_default, wellFormed_openLdap,
    (roundTrip_format wellFormed_default ⟨some "=a,b\\", ["", "x=y\\,"], [" "]⟩ {} {}).1.parse_eq
      (by decide)⟩

end AttributeNames

end DirectoryAuth
