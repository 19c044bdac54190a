import DirectoryAuth.Proofs.Ldap.Invariant

/-! Numbers of connections. A record names no connection before it is opened, so the next number is
always a new one. -/
namespace DirectoryAuth.Ldap

variable {κ : Type}

/-- The connection that an event is about. -/
def Event.connection? : Event → Option Nat
  | refused _ => none
  | opened n => some n
  | bind n _ _ _ => some n
  | search n _ _ => some n
  | unbind n => some n

theorem Trace.next_append (trace events : List Event) :
    Trace.next (trace ++ events) = Trace.next trace + events.countP Event.isOpened :=
  List.countP_append

/-- All connections that the events name have a number below the bound. -/
def Below (bound : Nat) (events : List Event) : Prop :=
  ∀ event ∈ events, ∀ n, event.connection? = some n → n < bound

@[simp]
theorem below_nil (bound : Nat) : Below bound [] := by
  intro event h
  contradiction

@[simp]
theorem below_cons {bound : Nat} {event : Event} {events : List Event} :
    Below bound (event :: events) ↔
      (∀ n, event.connection? = some n → n < bound) ∧ Below bound events :=
  List.forall_mem_cons

@[simp]
theorem below_append {bound : Nat} {first second : List Event} :
    Below bound (first ++ second) ↔ Below bound first ∧ Below bound second :=
  List.forall_mem_append

theorem Below.mono {bound bound' : Nat} {events : List Event} (h : Below bound events)
    (hle : bound ≤ bound') : Below bound' events := fun event hmem n hn =>
  Nat.lt_of_lt_of_le (h event hmem n hn) hle

/-- A number that is not below the bound is in no event. -/
theorem Below.connection?_ne {bound : Nat} {events : List Event} (h : Below bound events)
    {event : Event} (hmem : event ∈ events) : event.connection? ≠ some bound := fun heq =>
  Nat.lt_irrefl bound (h event hmem bound heq)

theorem below_released {bound : Nat} {old : Option (Nat × κ)}
    (h : ∀ c, old = some c → c.1 < bound) : Below bound (released old) := by
  cases old with
  | none => exact below_nil bound
  | some c => simpa [released, Event.connection?] using h c rfl

@[simp]
theorem countP_released (old : Option (Nat × κ)) :
    (released old).countP Event.isOpened = 0 := by
  cases old <;> rfl

/-- A record that a client with numbered connections can have. -/
structure Numbered (client : Client (Nat × κ)) (trace : Trace) : Prop where
  handle_lt : ∀ c, client.handle = some c → c.1 < trace.next
  below : Below trace.next trace

variable {client client' : Client (Nat × κ)} {trace : Trace} {events : List Event}

theorem Numbered.append (h : Numbered client trace)
    (hhandle : ∀ c, client'.handle = some c → c.1 < Trace.next (trace ++ events))
    (hevents : Below (Trace.next (trace ++ events)) events) :
    Numbered client' (trace ++ events) := by
  refine ⟨hhandle, below_append.mpr ⟨h.below.mono ?_, hevents⟩⟩
  rw [Trace.next_append]
  exact Nat.le_add_right ..

theorem Numbered.connects (h : Numbered client trace) {dn password : String}
    {answer : Except DirectoryError Unit}
    (hconnects : Connects dn password client.handle trace.next answer client' events) :
    Numbered client' (trace ++ events) := by
  have hold : ∀ n, Below (Trace.next trace + n) (released client.handle) := fun n =>
    (below_released h.handle_lt).mono (Nat.le_add_right ..)
  cases hconnects with
  | refused reason =>
    refine h.append (by simp) ?_
    simpa [Trace.next_append, List.countP_cons, Event.connection?, Event.isOpened] using hold 0
  | failed reason =>
    refine h.append (by simp) ?_
    simpa [Trace.next_append, List.countP_cons, Event.connection?, Event.isOpened] using hold 1
  | rejected result hcode =>
    refine h.append (by simp) ?_
    simpa [Trace.next_append, List.countP_cons, Event.connection?, Event.isOpened] using hold 1
  | bound result c hcode =>
    refine h.append ?_ ?_
    · simp [Trace.next_append, List.countP_cons, Event.isOpened]
    · simpa [Trace.next_append, List.countP_cons, Event.connection?, Event.isOpened] using hold 1

theorem Numbered.closes (h : Numbered client trace) :
    Numbered ({} : Client (Nat × κ)) (trace ++ released client.handle) := by
  refine h.append (by simp) ?_
  rw [Trace.next_append, countP_released]
  exact below_released h.handle_lt

/-- A search is another event on the connection that is held. -/
theorem Numbered.search (h : Numbered client trace) {c : Nat × κ} (hc : client.handle = some c)
    (request : SearchRequest) (answer : Except String SearchAnswer)
    (hclient : client'.handle = none ∨ client'.handle = client.handle) :
    Numbered client' (trace ++ [.search c.1 request answer]) := by
  have hlt := h.handle_lt c hc
  refine h.append ?_ ?_
  · intro c' hc'
    rcases hclient with hnone | hsame
    · rw [hnone] at hc'
      contradiction
    · simpa [Trace.next_append, Event.isOpened] using h.handle_lt c' (hsame ▸ hc')
  · simpa [Trace.next_append, Event.connection?, Event.isOpened] using hlt

theorem Numbered.drops (h : Numbered client trace) :
    Numbered (⟨none, .error⟩ : Client (Nat × κ)) trace :=
  ⟨by simp, h.below⟩

theorem Numbered.tries (h : Numbered client trace) {dn password : String}
    {answer : Except DirectoryError Bool} (htries : Tries dn password trace.next answer events) :
    Numbered client (trace ++ events) := by
  refine h.append ?_ ?_
  · intro c hc
    rw [Trace.next_append]
    exact Nat.lt_of_lt_of_le (h.handle_lt c hc) (Nat.le_add_right ..)
  · cases htries <;> simp [Trace.next_append, Event.connection?, Event.isOpened]

theorem numbered_invariant : Invariant (Numbered (κ := κ)) where
  connects h hconnects := h.connects hconnects
  closes h := h.closes
  searches request answer h hc hclient := h.search hc request answer (hclient.imp_right And.left)
  drops h := h.drops
  tries h htries := h.tries htries

/-- A client whose connection, if it has one, has the first number. -/
def Client.numbered (client : Client κ) : Client (Nat × κ) :=
  ⟨client.handle.map fun c => (0, c), client.state⟩

/-- The record of a client that has done no more than open its connection. -/
def Client.opened (client : Client κ) : Trace :=
  match client.handle with
  | some _ => [.opened 0]
  | none => []

theorem numbered_opened (client : Client κ) : Numbered client.numbered client.opened := by
  obtain ⟨handle, state⟩ := client
  cases handle with
  | none =>
    refine ⟨?_, below_nil _⟩
    intro c hc
    contradiction
  | some c =>
    refine ⟨?_, ?_⟩
    · intro c' hc'
      rw [← Option.some.inj hc']
      exact Nat.zero_lt_one
    · simp [Client.opened, Event.connection?, Trace.next, Event.isOpened]

end DirectoryAuth.Ldap
