import DirectoryAuth.Authenticator
import DirectoryAuth.Ldap.MemoryServer
import DirectoryAuth.Proofs.Coordinator.Origin
import DirectoryAuth.Proofs.Ldap.Erasure
import DirectoryAuth.Proofs.Ldap.Numbering
import DirectoryAuth.Proofs.Settings.Cache

/-! A success that a coordinator reports over a directory client is backed by the server: in this
request or in the one that it repeats, a search found the user and the server accepted a bind as
that user with the password. -/
namespace DirectoryAuth
open Ldap

variable {κ σ : Type}

/-- The surroundings with every operation on the network recorded. -/
def Surroundings.traced (around : Surroundings κ σ) : Surroundings (Nat × κ) (σ × Trace) where
  now s :=
    let (t, world) := around.now s.1
    (t, world, s.2)
  network := around.network.traced

/-- A client in a world, with a record that begins with its connection. -/
def Ldap.Client.recorded (client : Client κ) (world : σ) : Client (Nat × κ) × (σ × Trace) :=
  (client.numbered, world, client.opened)

theorem Ldap.erased_recorded (client : Client κ) (world : σ) :
    erased (client.recorded world) = (client, world) := by
  obtain ⟨handle, state⟩ := client
  cases handle <;> rfl

/-- The record is all that recorded surroundings add to a run. -/
theorem Surroundings.shows_traced (around : Surroundings κ σ) (settings : LdapSettings) :
    (around.traced.world settings).Shows (around.world settings) erased where
  now_eq _ := rfl
  verify_eq username password s :=
    Session.erases_verify around.network settings username password s

/-- The server's word for a password: after a search that found the user's entry, it accepted a
bind with the name of that entry on a connection that had just been opened. -/
def Backed (settings : LdapSettings) (request : Request) (before after : Trace) : Prop :=
  ∃ (searching : List Event) (connection : Nat) (found : SearchAnswer) (entry : Entry)
    (fresh : Nat) (accepted : Result),
    after = before ++ searching ++
      [.opened fresh, .bind fresh (entryBindDn settings.attributes entry) request.password
        (.ok accepted), .unbind fresh] ∧
    accepted.code = 0 ∧
    (∀ event ∈ before ++ searching, event.connection? ≠ some fresh) ∧
    .search connection ⟨settings.userBaseDn, userFilter settings.attributes request.username,
      userAttributes settings.attributes⟩ (.ok found) ∈ searching ∧
    found.result.code = 0 ∧ found.entries.head? = some entry

namespace Ldap

variable {settings : LdapSettings} {client client' : Client (Nat × κ)} {trace : Trace}
  {events : List Event}

/-- An accepted password is backed. -/
theorem Verifies.backed {username password : String} {parses : Bool}
    (hnumbered : Numbered client trace)
    (h : Verifies settings username password parses client trace (.ok true) client' events) :
    Text.isBlank password = false ∧
      Backed settings ⟨username, password⟩ trace (trace ++ events) := by
  generalize hanswer : Except.ok true = answer at h
  cases h with
  | blank hblank => cases hanswer
  | unknown e _ _ hblank hfinds => contradiction
  | absent _ _ hblank hfinds => cases hanswer
  | tried entry _ searching binding _ hblank hfinds htries =>
    refine ⟨hblank, ?_⟩
    have hfresh := (numbered_invariant.finds hnumbered hfinds).below
    cases htries with
    | refused reason => contradiction
    | failed reason => contradiction
    | answered result =>
      have hcode : result.code = 0 := by simpa using (Except.ok.inj hanswer).symm
      generalize hentry : Except.ok (some entry) = found at hfinds
      cases hfinds with
      | unheld e _ _ hholds => contradiction
      | unsent c _ _ hholds hparses => contradiction
      | failed c _ _ reason hholds hparses => contradiction
      | rejected c _ _ answer hholds hparses hrejected => contradiction
      | found c _ events answer hholds hparses hfound =>
        exact ⟨_, c.1, answer, entry, _, result, (List.append_assoc ..).symm, hcode,
          fun event hmem => hfresh.connection?_ne hmem,
          List.mem_append_right _ (List.mem_singleton_self _), hfound,
          (Except.ok.inj hentry).symm⟩

end Ldap

namespace Coordinator

variable (around : Surroundings κ σ) (settings : LdapSettings)

theorem eq_of_outcome_eq_success {answer : Except DirectoryError Bool}
    (h : (outcome answer).1 = .success) : answer = .ok true := by
  match answer with
  | .ok true => rfl
  | .ok false => contradiction
  | .error e => contradiction

/-- A record belongs to its client. -/
def Recorded (s : Client (Nat × κ) × (σ × Trace)) : Prop := Numbered s.1 s.2.2

theorem recorded_now (s : Client (Nat × κ) × (σ × Trace)) (h : Recorded s) :
    Recorded ((around.traced.world settings).now s).2 := h

theorem recorded_verify (username password : String) (s : Client (Nat × κ) × (σ × Trace))
    (h : Recorded s) :
    Recorded ((around.traced.world settings).verify username password s).2 := by
  obtain ⟨events, htrace, hverifies⟩ :=
    Session.verify_ends around.network settings username password s
  have hnext := numbered_invariant.verifies h hverifies
  rw [← htrace] at hnext
  exact hnext

/-- A request that asks and succeeds is backed by the events that it adds. -/
theorem backed_of_asked (c : Coordinator) (request : Request)
    {s : Client (Nat × κ) × (σ × Trace)} (hs : Recorded s)
    (hasked : (c.turn (around.traced.world settings) request s).1.queries ≠ [])
    (hsuccess : (c.turn (around.traced.world settings) request s).1.attempt.status = .success) :
    Text.isBlank request.password = false ∧ Backed settings request s.2.2
      (c.turn (around.traced.world settings) request s).1.after.2.2 := by
  obtain ⟨hstatus, hafter⟩ := turn_of_queries_ne_nil _ c request s hasked
  have haccepted := eq_of_outcome_eq_success (hstatus.symm.trans hsuccess)
  obtain ⟨events, htrace, hverifies⟩ := Session.verify_ends around.network settings
    request.username request.password ((around.traced.world settings).now s).2
  rw [hafter]
  change Text.isBlank request.password = false ∧ Backed settings request s.2.2
    (Session.verify around.traced.network settings request.username request.password
      ((around.traced.world settings).now s).2).2.2.2
  rw [show around.traced.network = around.network.traced from rfl, htrace]
  exact (haccepted ▸ hverifies).backed (recorded_now around settings s hs)

variable (cache : CacheSettings) (salt : Bytes)

/-- The run of a coordinator over a directory client, with the client's record. -/
def recordedTurns (operations : List Operation) (client : Client κ) (world : σ) :
    List (Turn (Client (Nat × κ) × (σ × Trace))) :=
  turns (around.traced.world settings) operations (ofSettings cache salt) (client.recorded world)

/-- No success without the server's word. The record adds nothing to a run; and wherever a run
reports a success, the password is not blank, and the server accepted it in that request or in an
earlier one with the same username and digest that is younger than the age limit. -/
theorem backed_of_success (operations : List Operation) (client : Client κ) (world : σ) :
    let recorded := recordedTurns around settings cache salt operations client world
    turns (around.world settings) operations (ofSettings cache salt) (client, world) =
        recorded.map (Turn.map erased) ∧
      ∀ (i : Nat) (t : Turn _), recorded[i]? = some t → t.attempt.status = .success →
        Text.isBlank t.request.password = false ∧
        ∃ (j : Nat) (b : Turn _), j ≤ i ∧ recorded[j]? = some b ∧
          b.request.username = t.request.username ∧
          Password.digest? salt b.request.password = Password.digest? salt t.request.password ∧
          (j = i ∨ cache.enabled = true ∧
            t.attempt.start.since b.attempt.start < cache.ageLimit) ∧
          Backed settings b.request b.before.2.2 b.after.2.2 := by
  intro recorded
  have hc := configured_ofSettings cache salt
  refine ⟨?_, ?_⟩
  · rw [← erased_recorded client world]
    exact turns_map (around.shows_traced settings) operations _ _
  · intro i t ht hsuccess
    have hbacked : ∀ b ∈ recorded, b.queries ≠ [] → b.attempt.status = .success →
        Text.isBlank b.request.password = false ∧
          Backed settings b.request b.before.2.2 b.after.2.2 := by
      intro b hb hasked hsuccess
      obtain ⟨hbefore, c, hturn⟩ := of_mem_turns (recorded_now around settings)
        (recorded_verify around settings) (s := client.recorded world) (numbered_opened client) hb
      rw [hturn] at hasked hsuccess
      rw [hturn]
      exact backed_of_asked around settings c b.request hbefore hasked hsuccess
    rcases origin_of_getElem? _ ht with hasked | ⟨j, b, hj, hb, hrepeats⟩
    · obtain ⟨hblank, hword⟩ := hbacked t (List.mem_of_getElem? ht) hasked hsuccess
      exact ⟨hblank, i, t, Nat.le_refl i, ht, rfl, rfl, .inl rfl, hword⟩
    · have hmem := List.mem_of_getElem? hb
      obtain ⟨⟨name, digest⟩, hasked, hslot⟩ := hrepeats.slot
      obtain ⟨-, hname, hdigest⟩ := (slot?_eq_some_iff_of_mem_turns _ hc hmem).mp hasked.slot?_eq
      obtain ⟨-, hname', hdigest'⟩ :=
        (slot?_eq_some_iff_of_mem_turns _ hc (List.mem_of_getElem? ht)).mp hslot
      obtain ⟨-, hword⟩ := hbacked b hmem hasked.queries_ne_nil
        (hrepeats.status_eq.symm.trans hsuccess)
      refine ⟨?_, j, b, Nat.le_of_lt hj, hb, hname.trans hname'.symm, hdigest.trans hdigest'.symm,
        .inr ⟨hrepeats.enabled, ?_⟩, hword⟩
      · cases hblank : Text.isBlank t.request.password with
        | false => rfl
        | true =>
          rw [Password.digest?_eq_none_iff.mpr hblank] at hdigest'
          contradiction
      · exact (cache.since_lt_maxAge_iff ..).mp hrepeats.since_lt

/-- A server that knows one user, asked over a client that is bound already. -/
theorem backed_of_success_first_login :
    let around : Surroundings Unit MemoryServer :=
      ⟨fun server => (.epoch, server), MemoryServer.network⟩
    let settings : LdapSettings := { bindDn := "cn=service", attributes := .openLdap }
    let server : MemoryServer :=
      { accounts := ⟨[("cn=alice", "secret")]⟩, entries := [⟨"cn=alice", [("uid", ["alice"])]⟩] }
    let recorded := recordedTurns around settings {} [7] [.authenticate ⟨"alice", "secret"⟩]
      ⟨some (), .bound⟩ server
    ∃ t : Turn _, recorded[0]? = some t ∧ t.attempt.status = .success ∧
      ∃ (j : Nat) (b : Turn _), recorded[j]? = some b ∧
        Backed settings b.request b.before.2.2 b.after.2.2 := by
  intro around settings server recorded
  have hsuccess : recorded[0]?.map (fun t => t.attempt.status) = some .success := by
    decide +kernel
  obtain ⟨t, ht, hstatus⟩ := Option.map_eq_some_iff.mp hsuccess
  obtain ⟨-, j, b, -, hb, -, -, -, hbacked⟩ := (backed_of_success around settings {} [7]
    [.authenticate ⟨"alice", "secret"⟩] ⟨some (), .bound⟩ server).2 0 t ht hstatus
  exact ⟨t, ht, hstatus, j, b, hb, hbacked⟩

end Coordinator

end DirectoryAuth
