import DirectoryAuth.Proofs.Except
import DirectoryAuth.Proofs.Text.AsciiCase
import DirectoryAuth.Settings.Environment
import DirectoryAuth.Settings.Properties
import Mathlib.Data.List.TakeWhile

/-! Properties and environment variables with the same values. They are read alike but for blanks at
the ends of a value, which are cut off from a property and stay in a variable: a URL or the name of
an attribute keeps them, and a number or a truth value with blanks is passed over. -/
namespace DirectoryAuth

namespace Text

theorem trim_eq_self {s : String} (h : ∀ c ∈ s.toList, isBlankChar c = false) : trim s = s := by
  have hkeep (cs : List Char) (hcs : ∀ c ∈ cs, isBlankChar c = false) :
      cs.dropWhile isBlankChar = cs := by
    rw [List.dropWhile_eq_self_iff]
    intro hpos
    simp [hcs _ (List.getElem_mem hpos)]
  rw [trim, trimChars, trimStart, hkeep _ h, trimEnd,
    hkeep _ fun c hc => h c (List.mem_reverse.mp hc), List.reverse_reverse, String.ofList_toList]

theorem isBlankChar_of_isDigit {c : Char} (h : c.isDigit = true) : isBlankChar c = false := by
  have hcode : 48 ≤ c.toNat ∧ c.toNat ≤ 57 := by
    simpa [Char.isDigit, UInt32.le_iff_toNat_le] using h
  simp only [isBlankChar, Bool.or_eq_false_iff, Bool.and_eq_false_iff, decide_eq_false_iff_not,
    beq_eq_false_iff_ne]
  omega

end Text

namespace Settings
open Text (trim)

section
variable {α : Type} {read? : String → Option α}

/-- A reader that takes no blanks at the ends. -/
def Bare (read? : String → Option α) : Prop :=
  ∀ value a, read? value = some a → trim value = value

/-- A truth value without blanks around it. -/
def readBareTruth? (s : String) : Option Bool :=
  let word := Text.asciiLower s
  if word = "true" then some true else if word = "false" then some false else none

theorem bare_readBareTruth? : Bare readBareTruth? := by
  intro value b h
  have hletters : (Text.asciiLower value).toList.any Text.isBlankChar = false := by
    rw [readBareTruth?] at h
    split at h
    · next hword =>
      rw [hword]
      decide
    · split at h
      · next hword =>
        rw [hword]
        decide
      · contradiction
  have hcase : Text.isBlankChar ∘ Text.asciiLowerChar = Text.isBlankChar :=
    funext Text.isBlankChar_asciiLowerChar
  rw [Text.toList_asciiLower, List.any_map, hcase] at hletters
  exact Text.trim_eq_self (by simpa using hletters)

theorem bare_readNumber? : Bare readNumber? := by
  intro value n h
  have hdigits (digits : List Char) (hall : digits.all Char.isDigit = true) :
      ∀ c ∈ digits, Text.isBlankChar c = false :=
    fun c hc => Text.isBlankChar_of_isDigit (List.all_eq_true.mp hall c hc)
  simp only [readNumber?, Option.ite_none_right_eq_some] at h
  obtain ⟨⟨-, hall, -⟩, -⟩ := h
  apply Text.trim_eq_self
  split at hall
  · next rest hsign =>
    rw [hsign]
    exact List.forall_mem_cons.mpr ⟨rfl, hdigits rest hall⟩
  · exact hdigits _ hall

/-- A value is there and has blanks at an end. -/
def Padded (properties : Table String) (key : String) : Prop :=
  ∃ value, properties.get? key = some value ∧ trim value ≠ value

instance (properties : Table String) (key : String) : Decidable (Padded properties key) :=
  decidable_of_iff ((properties.get? key).any fun value => trim value != value)
    (by simp [Padded, Option.any_eq_true])

variable {properties : Table String} {key : String}

/-- A variable with blanks at an end of its value counts as unset. -/
theorem getD_bind_of_padded (hbare : Bare read?) (h : Padded properties key) (unset : α) :
    ((properties.get? key).bind read?).getD unset = unset := by
  obtain ⟨value, hget, htrim⟩ := h
  have hnone : read? value = none :=
    Option.eq_none_iff_forall_ne_some.mpr fun a ha => htrim (hbare value a ha)
  rw [hget, Option.bind_some, hnone, Option.getD_none]

/-- Any other variable says what a property with its value says. -/
theorem getD_bind_of_not_padded {unset a : α} (h : ¬Padded properties key)
    (hread : readProperty (fun value => read? (trim value)) properties key unset = .ok a) :
    ((properties.get? key).bind read?).getD unset = a := by
  rw [readProperty] at hread
  cases hget : properties.get? key with
  | none =>
    rw [hget] at hread
    exact Except.ok.inj hread
  | some value =>
    have htrim : trim value = value := Decidable.of_not_not fun hne => h ⟨value, hget, hne⟩
    simp only [hget, htrim] at hread
    rw [Option.bind_some]
    cases hvalue : read? value with
    | none =>
      rw [hvalue] at hread
      contradiction
    | some b =>
      rw [hvalue] at hread
      exact Except.ok.inj hread

theorem getD_bind_eq_iff (hbare : Bare read?) {unset a : α}
    (hread : readProperty (fun value => read? (trim value)) properties key unset = .ok a) :
    ((properties.get? key).bind read?).getD unset = a ↔ (Padded properties key → a = unset) := by
  by_cases h : Padded properties key
  · rw [getD_bind_of_padded hbare h, eq_comm]
    exact ⟨fun heq _ => heq, fun heq => heq h⟩
  · rw [getD_bind_of_not_padded h hread]
    exact iff_of_true rfl fun hpadded => absurd hpadded h

/-- A text is the same with and without the blanks at its ends if there are none. -/
theorem getD_eq_getD_map_trim_iff {unset : String} : (properties.get? key).getD unset =
    ((properties.get? key).map trim).getD unset ↔ ¬Padded properties key := by
  rw [Padded]
  cases properties.get? key with
  | none => simp
  | some value => simpa using eq_comm

end

/-- The words that enable the cache are those that are read as true. -/
theorem map_eqIgnoreAsciiCase_true (value? : Option String) :
    (value?.map (Text.eqIgnoreAsciiCase · "true")).getD false =
      (value?.bind readBareTruth?).getD false := by
  cases value? with
  | none => rfl
  | some value =>
    have htrue : Text.asciiLower "true" = "true" := by decide
    rw [Option.map_some, Option.getD_some, Option.bind_some, Bool.eq_iff_iff,
      Text.eqIgnoreAsciiCase_iff_asciiLower, htrue, readBareTruth?]
    by_cases hword : Text.asciiLower value = "true"
    · simp [hword]
    · by_cases hother : Text.asciiLower value = "false" <;> simp [hword, hother]

/-- The properties that have a variable, each with its variable. -/
def counterparts : List (String × String) :=
  [("auth.ldap.server.url", "BINDGUARD_LDAP_URL"),
    ("auth.ldap.bind.dn", "BINDGUARD_BIND_DN"),
    ("auth.ldap.bind.password", "BINDGUARD_BIND_PASSWORD"),
    ("auth.ldap.user.id", "BINDGUARD_ACCOUNT_ATTRIBUTE"),
    ("auth.cache.enabled", "BINDGUARD_CACHE_ENABLED"),
    ("auth.cache.history.maxDepth", "BINDGUARD_CACHE_MAX_DEPTH"),
    ("auth.cache.history.maxAge", "BINDGUARD_CACHE_MAX_AGE_MS"),
    (staticCredentialsProperty, "BINDGUARD_STATIC_CREDENTIALS")]

/-- The variables of the properties that are set, with the same values, and no other variables. -/
def environmentOf (properties : Table String) : Table String :=
  ⟨counterparts.filterMap fun e => (properties.get? e.1).map fun value => (e.2, value)⟩

theorem lookup_filterMap {names : List (String × String)} (hnodup : (names.map (·.2)).Nodup)
    (value? : String → Option String) (name : String) :
    (names.filterMap fun e => (value? e.1).map fun value => (e.2, value)).lookup name =
      (names.find? (·.2 = name)).bind fun e => value? e.1 := by
  induction names with
  | nil => rfl
  | cons e rest ih =>
    rw [List.map_cons, List.nodup_cons] at hnodup
    have hrest := ih hnodup.2
    by_cases hname : e.2 = name
    · have hfind : rest.find? (·.2 = name) = none := by
        rw [List.find?_eq_none]
        intro other hother
        have hne : other.2 ≠ e.2 := fun heq => hnodup.1 (heq ▸ List.mem_map_of_mem hother)
        simpa [← hname] using hne
      rw [hfind] at hrest
      cases hvalue : value? e.1 with
      | none => simp [hvalue, hname, hrest]
      | some value => simp [hvalue, hname]
    · cases hvalue : value? e.1 with
      | none => simp [hvalue, hname, hrest]
      | some value => simp [hvalue, hname, hrest, Table.lookup_entry, Ne.symm hname]

theorem get?_environmentOf (properties : Table String) (name : String) :
    (environmentOf properties).get? name =
      (counterparts.find? (·.2 = name)).bind fun e => properties.get? e.1 :=
  lookup_filterMap (by decide) properties.get? name

/-- No property that has a variable is blank. -/
def Filled (properties : Table String) : Prop :=
  ∀ e ∈ counterparts, ∀ value, properties.get? e.1 = some value → Text.isBlank value = false

instance (properties : Table String) : Decidable (Filled properties) :=
  decidable_of_iff (∀ e ∈ counterparts, (properties.get? e.1).all (!Text.isBlank ·) = true)
    (by simp [Filled, Option.all_eq_true])

variable {properties : Table String} {settings : Settings}

theorem Filled.textProperty?_eq (h : Filled properties) {key : String}
    (hkey : key ∈ counterparts.map (·.1)) : textProperty? properties key = properties.get? key := by
  obtain ⟨e, he, rfl⟩ := List.mem_map.mp hkey
  rw [textProperty?]
  cases hget : properties.get? e.1 with
  | none => rfl
  | some value => simp [h e he value hget]

/-- What is read of properties none of which is blank. -/
theorem Filled.eq_of_ofProperties (hfilled : Filled properties)
    (h : ofProperties properties = .ok settings) :
    let unset : Settings := {}
    ∃ enabled maxDepth maxAge,
      readProperty readTruth? properties "auth.cache.enabled" unset.cache.enabled = .ok enabled ∧
      readProperty readTrimmedNumber? properties "auth.cache.history.maxDepth"
        unset.cache.maxDepth = .ok maxDepth ∧
      readProperty readTrimmedNumber? properties "auth.cache.history.maxAge"
        unset.cache.maxAgeMillis = .ok maxAge ∧
      settings = { unset with
        ldap := { unset.ldap with
          serverUrl :=
            ((properties.get? "auth.ldap.server.url").map trim).getD unset.ldap.serverUrl
          bindDn := (properties.get? "auth.ldap.bind.dn").getD unset.ldap.bindDn
          bindPassword :=
            (properties.get? "auth.ldap.bind.password").getD unset.ldap.bindPassword
          attributes := { unset.ldap.attributes with
            accountName := ((properties.get? "auth.ldap.user.id").map trim).getD
              unset.ldap.attributes.accountName } }
        cache := ⟨enabled, maxDepth, maxAge⟩
        staticCredentials := properties.get? staticCredentialsProperty } := by
  intro unset
  have hurl : "auth.ldap.server.url" ∈ counterparts.map (·.1) := by decide
  have hdn : "auth.ldap.bind.dn" ∈ counterparts.map (·.1) := by decide
  have hpassword : "auth.ldap.bind.password" ∈ counterparts.map (·.1) := by decide
  rw [ofProperties, hfilled.textProperty?_eq hurl, hfilled.textProperty?_eq hdn,
    hfilled.textProperty?_eq hpassword] at h
  obtain ⟨enabled, henabled, h⟩ := bind_eq_ok_iff.mp h
  obtain ⟨maxDepth, hmaxDepth, h⟩ := bind_eq_ok_iff.mp h
  obtain ⟨maxAge, hmaxAge, h⟩ := bind_eq_ok_iff.mp h
  exact ⟨enabled, maxDepth, maxAge, henabled, hmaxDepth, hmaxAge, (Except.ok.inj h).symm⟩

/-- What is read of the variables of properties. -/
theorem ofEnvironment_environmentOf (properties : Table String) :
    let unset : Settings := {}
    ofEnvironment (environmentOf properties) = { unset with
      ldap := { unset.ldap with
        serverUrl := (properties.get? "auth.ldap.server.url").getD unset.ldap.serverUrl
        bindDn := (properties.get? "auth.ldap.bind.dn").getD unset.ldap.bindDn
        bindPassword := (properties.get? "auth.ldap.bind.password").getD unset.ldap.bindPassword
        attributes := { unset.ldap.attributes with
          accountName := (properties.get? "auth.ldap.user.id").getD
            unset.ldap.attributes.accountName } }
      cache := {
        enabled := ((properties.get? "auth.cache.enabled").bind readBareTruth?).getD false
        maxDepth := ((properties.get? "auth.cache.history.maxDepth").bind readNumber?).getD
          unset.cache.maxDepth
        maxAgeMillis := ((properties.get? "auth.cache.history.maxAge").bind readNumber?).getD
          unset.cache.maxAgeMillis }
      staticCredentials := properties.get? staticCredentialsProperty } := by
  intro unset
  rw [ofEnvironment, ← map_eqIgnoreAsciiCase_true]
  simp only [get?_environmentOf]
  rfl

/-- The variables of properties give the same settings exactly where blanks at the ends of a value
do not matter: there are none in the URL and the attribute name, and what the cache has with them is
what it has anyway. With such blanks a truth value does not enable the cache and a number is passed
over, and beyond these five settings there is no difference. -/
theorem ofEnvironment_eq_iff (h : ofProperties properties = .ok settings)
    (hfilled : Filled properties) :
    let loaded := ofEnvironment (environmentOf properties)
    let unset : CacheSettings := {}
    (loaded = settings ↔
      ¬Padded properties "auth.ldap.server.url" ∧ ¬Padded properties "auth.ldap.user.id" ∧
      (Padded properties "auth.cache.enabled" → settings.cache.enabled = unset.enabled) ∧
      (Padded properties "auth.cache.history.maxDepth" →
        settings.cache.maxDepth = unset.maxDepth) ∧
      (Padded properties "auth.cache.history.maxAge" →
        settings.cache.maxAgeMillis = unset.maxAgeMillis)) ∧
    (Padded properties "auth.cache.enabled" → loaded.cache.enabled = unset.enabled) ∧
    (Padded properties "auth.cache.history.maxDepth" → loaded.cache.maxDepth = unset.maxDepth) ∧
    (Padded properties "auth.cache.history.maxAge" →
      loaded.cache.maxAgeMillis = unset.maxAgeMillis) ∧
    loaded = { settings with
      ldap := { settings.ldap with
        serverUrl := loaded.ldap.serverUrl
        attributes := { settings.ldap.attributes with
          accountName := loaded.ldap.attributes.accountName } }
      cache := loaded.cache } := by
  intro loaded unset
  obtain ⟨enabled, maxDepth, maxAge, henabled, hmaxDepth, hmaxAge, rfl⟩ :=
    hfilled.eq_of_ofProperties h
  have hloaded : loaded = _ := ofEnvironment_environmentOf properties
  have hcache := (getD_bind_eq_iff bare_readBareTruth? henabled).and
    ((getD_bind_eq_iff bare_readNumber? hmaxDepth).and (getD_bind_eq_iff bare_readNumber? hmaxAge))
  rw [hloaded]
  refine ⟨?_, fun hpadded => getD_bind_of_padded bare_readBareTruth? hpadded _,
    fun hpadded => getD_bind_of_padded bare_readNumber? hpadded _,
    fun hpadded => getD_bind_of_padded bare_readNumber? hpadded _, rfl⟩
  simp only [Settings.mk.injEq, LdapSettings.mk.injEq, AttributeNames.mk.injEq,
    CacheSettings.mk.injEq, and_true, true_and]
  rw [getD_eq_getD_map_trim_iff, getD_eq_getD_map_trim_iff, and_assoc]
  exact and_congr_right fun _ => and_congr_right fun _ => hcache

/-- A value that enables the cache as a property does not enable it as a variable. -/
theorem padded_truth_passed_over : ¬∀ (properties : Table String) (settings : Settings),
    ofProperties properties = .ok settings → Filled properties →
    ofEnvironment (environmentOf properties) = settings := by
  intro h
  have hdiffer := h ⟨[("auth.ldap.bind.dn", "x"), ("auth.cache.enabled", " true")]⟩
    { ldap := { bindDn := "x" }, cache := { enabled := true } } (by decide) (by decide)
  exact absurd hdiffer (by decide)

/-- A cache that is enabled, with blanks around the limits. -/
theorem ofEnvironment_eq_iff_padded_limits :
    let properties : Table String := ⟨[("auth.cache.enabled", "TRUE"),
      ("auth.cache.history.maxDepth", " 5"), ("auth.cache.history.maxAge", "600000 ")]⟩
    let settings : Settings := { cache := ⟨true, 5, 600000⟩ }
    ofProperties properties = .ok settings ∧ Filled properties ∧
      ofEnvironment (environmentOf properties) ≠ settings ∧
      (ofEnvironment (environmentOf properties)).cache.maxDepth = 10 := by
  intro properties settings
  have hread : ofProperties properties = .ok settings := by decide
  have hfilled : Filled properties := by decide
  obtain ⟨hsame, -, hmaxDepth, -⟩ := ofEnvironment_eq_iff hread hfilled
  have hpadded : Padded properties "auth.cache.history.maxDepth" := by decide
  refine ⟨hread, hfilled, fun heq => ?_, hmaxDepth hpadded⟩
  obtain ⟨-, -, -, hlimit, -⟩ := hsame.mp heq
  exact absurd (hlimit hpadded) (by decide)

end Settings

end DirectoryAuth
