import DirectoryAuth.Ldap.MemoryServer
import DirectoryAuth.Proofs.Directory.Entry
import DirectoryAuth.Proofs.Dn.Authentication
import DirectoryAuth.Proofs.Ldap.Connections
import Mathlib.Data.List.Basic

/-! The names that users are bound as. A name that is rebuilt from the components of an account has
text as soon as there is a component, so that only an entry without any of them is bound as nobody;
the password of such a bind is never blank. -/
namespace DirectoryAuth

namespace Ldap

variable {κ σ : Type}

/-- An entry without a name: that of the entry itself is blank, the first common name is blank or
missing, and the first account name is empty or missing. -/
structure Nameless (names : AttributeNames) (entry : Entry) : Prop where
  dn : Text.isBlank entry.dn = true
  commonName : ∀ s, entry.attributes.first? names.commonName = some s → Text.isBlank s = true
  accountName : ∀ s, entry.attributes.first? names.accountName = some s → s = ""

theorem bindDnOf_of_hasText {names : AttributeNames} {account : Account} {dn : String}
    (h : account.entryDn = some dn) (hdn : Text.isBlank dn = false) :
    bindDnOf names account = dn := by
  simp [bindDnOf, h, hdn]

theorem bindDnOf_of_not_hasText {names : AttributeNames} {account : Account}
    (h : hasText account.entryDn = false) :
    bindDnOf names account = names.authenticationDn account := by
  rw [bindDnOf]
  cases hdn : account.entryDn with
  | none => rfl
  | some dn =>
    have hblank : Text.isBlank dn = true := by simpa [hdn, hasText] using h
    simp [hblank]

/-- The user of an entry is bound under a blank name if the entry has none. -/
theorem isBlank_entryBindDn_iff {names : AttributeNames} {entry : Entry} :
    Text.isBlank (entryBindDn names entry) = true ↔ Nameless names entry := by
  have hentryDn : (names.accountOfEntry entry.dn entry.attributes).entryDn =
      nonempty? (some entry.dn) := rfl
  rw [entryBindDn, names.account_userOfEntry]
  cases hdn : Text.isBlank entry.dn with
  | false =>
    rw [nonempty?_of_hasText (by simp [hasText, hdn])] at hentryDn
    rw [bindDnOf_of_hasText hentryDn hdn]
    exact ⟨fun h => absurd h (by simp [hdn]), fun h => absurd h.dn (by simp [hdn])⟩
  | true =>
    have hblank : hasText (names.accountOfEntry entry.dn entry.attributes).entryDn = false := by
      rw [hentryDn]
      by_cases hne : entry.dn = "" <;> simp [nonempty?, Option.filter, hasText, hne, hdn]
    have hno : ∀ value : Option String, AttributeNames.overrideWith value none = value := by
      intro value
      cases value <;> rfl
    rw [bindDnOf_of_not_hasText hblank, AttributeNames.isBlank_authenticationDn_iff]
    simp only [AttributeNames.accountOfEntry, DistinguishedName.hasCommonName, hdn, ↓reduceIte, hno,
      and_true, nonempty?_eq_none_iff]
    constructor
    · rintro ⟨hcommon, haccount⟩
      refine ⟨hdn, fun s hs => ?_, haccount⟩
      simpa [hs, hasText] using hcommon
    · rintro ⟨-, hcommon, haccount⟩
      refine ⟨?_, haccount⟩
      cases hs : entry.attributes.first? names.commonName with
      | none => rfl
      | some s => simp [hasText, hcommon s hs]

section
variable {settings : LdapSettings} {client client' : Client (Nat × κ)} {events : List Event}

theorem Holds.search_not_mem {next : Nat} {answer : Except DirectoryError (Nat × κ)}
    (h : Holds settings client next answer client' events) (n : Nat) (request : SearchRequest)
    (found : Except String SearchAnswer) : .search n request found ∉ events := by
  cases h with
  | held c h => simp
  | unable h hdn => simp
  | connected c client' events h hdn hconnects hc => exact hconnects.search_not_mem n request found
  | failed e client' events h hdn hconnects => exact hconnects.search_not_mem n request found

/-- A search is the last thing that is done to find an entry. -/
theorem Finds.after_search {filter : Filter} {parses : Bool} {wanted : List String} {next : Nat}
    {answer : Except DirectoryError (Option Entry)}
    (h : Finds settings filter parses wanted client next answer client' events)
    {before binding later : List Event} {n : Nat} {request : SearchRequest}
    {reply : Except String SearchAnswer}
    (hbinding : ∀ n request reply, .search n request reply ∉ binding)
    (hsplit : events ++ binding = before ++ .search n request reply :: later) :
    later = binding ∧ ∀ first?, answer = .ok first? → ∃ found, reply = .ok found ∧
      found.result.code = 0 ∧ found.entries.head? = first? := by
  have hapart : ∀ (first : List Event) (c : Nat × κ) (asked : SearchRequest)
      (answered : Except String SearchAnswer), (∀ n r a, .search n r a ∉ first) →
      first ++ [.search c.1 asked answered] ++ binding =
        before ++ .search n request reply :: later →
      reply = answered ∧ later = binding := by
    intro first c asked answered hfirst hsplit
    rw [List.append_assoc, List.singleton_append] at hsplit
    obtain ⟨-, hevent, hlater⟩ := (List.append_cons_inj_of_notMem
      (hfirst n request reply) (hbinding n request reply)).mp hsplit
    injection hevent with _ _ hreply
    exact ⟨hreply.symm, hlater.symm⟩
  have hmade : ∃ n request reply, .search n request reply ∈ events := by
    have hmem : Event.search n request reply ∈ events ++ binding := by simp [hsplit]
    rcases List.mem_append.mp hmem with hmem | hmem
    · exact ⟨n, request, reply, hmem⟩
    · exact absurd hmem (hbinding n request reply)
  cases h with
  | unheld e client' events hholds =>
    obtain ⟨n, request, reply, hmem⟩ := hmade
    exact absurd hmem (hholds.search_not_mem n request reply)
  | unsent c client' events hholds hparses =>
    obtain ⟨n, request, reply, hmem⟩ := hmade
    exact absurd hmem (hholds.search_not_mem n request reply)
  | failed c client' first reason hholds hparses =>
    exact ⟨(hapart first c _ _ hholds.search_not_mem hsplit).2, nofun⟩
  | rejected c client' first found hholds hparses hcode =>
    exact ⟨(hapart first c _ _ hholds.search_not_mem hsplit).2, nofun⟩
  | found c client' first found hholds hparses hcode =>
    obtain ⟨hreply, hlater⟩ := hapart first c _ _ hholds.search_not_mem hsplit
    refine ⟨hlater, fun first? hentry => ⟨found, hreply, hcode, ?_⟩⟩
    injection hentry

theorem Tries.bind_mem {dn password : String} {next : Nat} {answer : Except DirectoryError Bool}
    (h : Tries dn password next answer events) {c : Nat} {name sent : String}
    {reply : Except String Result} (hmem : .bind c name sent reply ∈ events) :
    name = dn ∧ sent = password := by
  cases h with
  | refused reason => simp at hmem
  | failed reason =>
    simp only [List.mem_cons, reduceCtorEq, Event.bind.injEq, List.not_mem_nil, or_false,
      false_or] at hmem
    exact ⟨hmem.2.1, hmem.2.2.1⟩
  | answered result =>
    simp only [List.mem_cons, reduceCtorEq, Event.bind.injEq, List.not_mem_nil, or_false,
      false_or] at hmem
    exact ⟨hmem.2.1, hmem.2.2.1⟩

/-- What is bound after the search for a user is the first entry that it has found. -/
theorem Verifies.user_bind {username password : String} {parses : Bool} {trace : Trace}
    {answer : Except DirectoryError Bool}
    (h : Verifies settings username password parses client trace answer client' events)
    {before later : List Event} {n : Nat} {request : SearchRequest}
    {reply : Except String SearchAnswer}
    (hsplit : events = before ++ .search n request reply :: later) {c : Nat} {dn sent : String}
    {accepted : Except String Result} (hbind : .bind c dn sent accepted ∈ later) :
    sent = password ∧ Text.isBlank password = false ∧ ∃ found entry, reply = .ok found ∧
      found.result.code = 0 ∧ found.entries.head? = some entry ∧
      dn = entryBindDn settings.attributes entry := by
  cases h with
  | blank h => simp at hsplit
  | unknown e client' events hblank hfinds =>
    rw [← List.append_nil events] at hsplit
    obtain ⟨rfl, -⟩ := hfinds.after_search (by simp) hsplit
    contradiction
  | absent client' events hblank hfinds =>
    rw [← List.append_nil events] at hsplit
    obtain ⟨rfl, -⟩ := hfinds.after_search (by simp) hsplit
    contradiction
  | tried entry client' searching binding answer hblank hfinds htries =>
    obtain ⟨rfl, hfound⟩ := hfinds.after_search htries.search_not_mem hsplit
    obtain ⟨found, hreply, hcode, hhead⟩ := hfound _ rfl
    obtain ⟨rfl, rfl⟩ := htries.bind_mem hbind
    exact ⟨rfl, hblank, found, entry, hreply, hcode, hhead, rfl⟩

end

/-- A check of a password binds a user with that password, which is not blank, and under a name
that is blank only where the entry found for the user has none. -/
theorem user_bind_blank_iff (net : Network κ σ) (settings : LdapSettings)
    (username password : String) (s : Client (Nat × κ) × (σ × Trace)) {before later : List Event}
    {n : Nat} {request : SearchRequest} {reply : Except String SearchAnswer}
    (hevents : (Session.verify net.traced settings username password s).2.2.2 =
      s.2.2 ++ (before ++ .search n request reply :: later))
    {c : Nat} {dn sent : String} {accepted : Except String Result}
    (hbind : .bind c dn sent accepted ∈ later) :
    sent = password ∧ Text.isBlank sent = false ∧ ∃ found entry, reply = .ok found ∧
      found.result.code = 0 ∧ found.entries.head? = some entry ∧
      (Text.isBlank dn = true ↔ Nameless settings.attributes entry) := by
  obtain ⟨events, htrace, hverifies⟩ := Session.verify_ends net settings username password s
  have hsplit : events = before ++ .search n request reply :: later :=
    List.append_cancel_left (htrace.symm.trans hevents)
  obtain ⟨rfl, hblank, found, entry, hreply, hcode, hhead, rfl⟩ := hverifies.user_bind hsplit hbind
  exact ⟨rfl, hblank, found, entry, hreply, hcode, hhead, isBlank_entryBindDn_iff⟩

/-- A user whose entry has no name of its own is bound under one made of the account name. -/
theorem user_bind_blank_iff_rebuilt :
    let settings : LdapSettings := { bindDn := "cn=service", bindPassword := "pw" }
    let entry : Entry := ⟨" ", [("sAMAccountName", ["alice"])]⟩
    let server : MemoryServer := { accounts := ⟨[("cn=service", "pw")]⟩, entries := [entry] }
    let name := entryBindDn settings.attributes entry
    let before : Trace := [.opened 0, .bind 0 "cn=service" "pw" (.ok ⟨0, "", ""⟩)]
    let refusal : Except String Result := .ok ⟨49, "", "invalid credentials"⟩
    let later : Trace := [.opened 1, .bind 1 name "secret" refusal, .unbind 1]
    (Session.verify MemoryServer.network.traced settings "alice" "secret"
        ({}, server, [])).2.2.2 =
      before ++ .search 0 (userSearch settings "alice") (.ok ⟨[entry], ⟨0, "", ""⟩⟩) :: later ∧
      name = "sAMAccountName=alice" ∧
      (Text.isBlank name = true ↔ Nameless settings.attributes entry) := by
  intro settings entry server name before refusal later
  have hevents : (Session.verify MemoryServer.network.traced settings "alice" "secret"
      ({}, server, [])).2.2.2 =
      [] ++ (before ++
        .search 0 (userSearch settings "alice") (.ok ⟨[entry], ⟨0, "", ""⟩⟩) :: later) := by
    simp only [settings, entry, server, name, before, refusal, later]
    rfl
  have hbind : .bind 1 name "secret" refusal ∈ later := by simp [later]
  obtain ⟨-, -, found, first, hreply, -, hhead, hblank⟩ := user_bind_blank_iff MemoryServer.network
    settings "alice" "secret" ({}, server, []) hevents hbind
  obtain rfl := Except.ok.inj hreply
  obtain rfl := Option.some.inj hhead
  exact ⟨hevents, by decide +kernel, hblank⟩

/-- A name is sent that is blank: the first account name of the entry is empty. -/
theorem blank_bind_name_sent :
    let settings : LdapSettings := { bindDn := "cn=service", bindPassword := "pw" }
    let server : MemoryServer :=
      { accounts := ⟨[("cn=service", "pw")]⟩
        entries := [⟨"", [("sAMAccountName", ["", "alice"])]⟩] }
    (Session.verify MemoryServer.network settings "alice" "secret" ({}, server)).2.2.received =
      [.bind "cn=service" "pw", .search (userSearch settings "alice"), .bind "" "secret"] := by
  decide +kernel

end Ldap

end DirectoryAuth
