import DirectoryAuth.Proofs.Ldap.Outcome

/-! Properties of a client and its record that last. They have to survive what a client does at one
go: `connect`, `close`, a search on the connection that is held, and the bind of a user. -/
namespace DirectoryAuth.Ldap

variable {κ : Type}

theorem Holds.handle_eq {settings : LdapSettings} {client client' : Client (Nat × κ)} {next : Nat}
    {c : Nat × κ} {events : List Event}
    (h : Holds settings client next (.ok c) client' events) : client'.handle = some c := by
  cases h with
  | held _ hc => exact hc
  | connected _ _ _ _ _ _ hc => exact hc

/-- A search that fails in transport gives up the connection, and so does one that is not sent. -/
structure Invariant (P : Client (Nat × κ) → Trace → Prop) : Prop where
  connects : ∀ {client client' : Client (Nat × κ)} {trace : Trace} {dn password : String}
    {answer : Except DirectoryError Unit} {events : List Event}, P client trace →
    Connects dn password client.handle trace.next answer client' events →
    P client' (trace ++ events)
  closes : ∀ {client : Client (Nat × κ)} {trace : Trace}, P client trace →
    P {} (trace ++ released client.handle)
  searches : ∀ {client client' : Client (Nat × κ)} {trace : Trace} {c : Nat × κ}
    (request : SearchRequest) (answer : Except String SearchAnswer), P client trace →
    client.handle = some c →
    client'.handle = none ∨ client'.handle = client.handle ∧ (∃ found, answer = .ok found) →
    P client' (trace ++ [.search c.1 request answer])
  drops : ∀ {client : Client (Nat × κ)} {trace : Trace}, P client trace → P ⟨none, .error⟩ trace
  tries : ∀ {client : Client (Nat × κ)} {trace : Trace} {dn password : String}
    {answer : Except DirectoryError Bool} {events : List Event}, P client trace →
    Tries dn password trace.next answer events → P client (trace ++ events)

namespace Invariant

variable {P : Client (Nat × κ) → Trace → Prop} (hP : Invariant P)
  {client client' : Client (Nat × κ)} {trace : Trace} {events : List Event}
  {settings : LdapSettings}
include hP

theorem holds (h : P client trace) {answer : Except DirectoryError (Nat × κ)}
    (hholds : Holds settings client trace.next answer client' events) :
    P client' (trace ++ events) := by
  cases hholds with
  | held c hc => rwa [List.append_nil]
  | unable hnone hdn => rwa [List.append_nil]
  | connected c _ _ hnone hdn hconnects hc => exact hP.connects h (hnone.symm ▸ hconnects)
  | failed e _ _ hnone hdn hconnects => exact hP.connects h (hnone.symm ▸ hconnects)

theorem finds (h : P client trace) {filter : Filter} {parses : Bool}
    {wanted : List String} {answer : Except DirectoryError (Option Entry)}
    (hfinds : Finds settings filter parses wanted client trace.next answer client' events) :
    P client' (trace ++ events) := by
  cases hfinds with
  | unheld e _ _ hholds => exact hP.holds h hholds
  | unsent c _ _ hholds hparses => exact hP.drops (hP.holds h hholds)
  | failed c _ _ reason hholds hparses =>
    rw [← List.append_assoc]
    exact hP.searches _ _ (hP.holds h hholds) hholds.handle_eq (.inl rfl)
  | rejected c _ _ answer hholds hparses hcode =>
    rw [← List.append_assoc]
    exact hP.searches _ _ (hP.holds h hholds) hholds.handle_eq (.inr ⟨rfl, answer, rfl⟩)
  | found c _ _ answer hholds hparses hcode =>
    rw [← List.append_assoc]
    exact hP.searches _ _ (hP.holds h hholds) hholds.handle_eq (.inr ⟨rfl, answer, rfl⟩)

theorem verifies (h : P client trace) {username password : String} {parses : Bool}
    {answer : Except DirectoryError Bool}
    (hverifies : Verifies settings username password parses client trace answer client' events) :
    P client' (trace ++ events) := by
  cases hverifies with
  | blank hblank => rwa [List.append_nil]
  | unknown e _ _ hblank hfinds => exact hP.finds h hfinds
  | absent _ _ hblank hfinds => exact hP.finds h hfinds
  | tried entry _ searching binding _ hblank hfinds htries =>
    rw [← List.append_assoc]
    exact hP.tries (hP.finds h hfinds) htries

end Invariant

end DirectoryAuth.Ldap
