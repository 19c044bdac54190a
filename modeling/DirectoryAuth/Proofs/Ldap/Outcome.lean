import DirectoryAuth.Ldap.Client
import DirectoryAuth.Ldap.Trace

/-! What the actions of a client come to on a recorded network: for each of them the answers that
are possible, with the client that is left and the events that are added to the record. -/
namespace DirectoryAuth.Ldap

variable {κ σ α β : Type}

/-- A connection for searches is given up with a word to the server. -/
def released : Option (Nat × κ) → List Event
  | some c => [.unbind c.1]
  | none => []

/-- Ends of an attempt to bind a new connection for searches. -/
inductive Connects (dn password : String) (old : Option (Nat × κ)) (next : Nat) :
    Except DirectoryError Unit → Client (Nat × κ) → List Event → Prop
  | refused (reason : String) :
    Connects dn password old next (.error (.connection reason)) {}
      ([.refused reason] ++ released old)
  | failed (reason : String) :
    Connects dn password old next (.error (.connection ("Bind failed: " ++ reason))) {}
      ([.opened next, .bind next dn password (.error reason)] ++ released old)
  | rejected (result : Result) (h : result.code ≠ 0) :
    Connects dn password old next (.error (.bind result.code result.text)) {}
      ([.opened next, .bind next dn password (.ok result), .unbind next] ++ released old)
  | bound (result : Result) (c : κ) (h : result.code = 0) :
    Connects dn password old next (.ok ()) ⟨some (next, c), .bound⟩
      ([.opened next, .bind next dn password (.ok result)] ++ released old)

/-- Ends of the look for a connection to search on. -/
inductive Holds (settings : LdapSettings) (client : Client (Nat × κ)) (next : Nat) :
    Except DirectoryError (Nat × κ) → Client (Nat × κ) → List Event → Prop
  | held (c : Nat × κ) (h : client.handle = some c) : Holds settings client next (.ok c) client []
  | unable (h : client.handle = none) (hdn : settings.bindDn = "") :
    Holds settings client next (.error .notConnected) client []
  | connected (c : Nat × κ) (client' : Client (Nat × κ)) (events : List Event)
    (h : client.handle = none) (hdn : settings.bindDn ≠ "")
    (hconnects : Connects settings.bindDn settings.bindPassword none next (.ok ()) client' events)
    (hc : client'.handle = some c) : Holds settings client next (.ok c) client' events
  | failed (e : DirectoryError) (client' : Client (Nat × κ)) (events : List Event)
    (h : client.handle = none) (hdn : settings.bindDn ≠ "")
    (hconnects : Connects settings.bindDn settings.bindPassword none next (.error e) client'
      events) : Holds settings client next (.error e) client' events

/-- Ends of a search for the first entry; `parses` tells whether its filter can be read. -/
inductive Finds (settings : LdapSettings) (filter : Filter) (parses : Bool) (wanted : List String)
    (client : Client (Nat × κ)) (next : Nat) :
    Except DirectoryError (Option Entry) → Client (Nat × κ) → List Event → Prop
  | unheld (e : DirectoryError) (client' : Client (Nat × κ)) (events : List Event)
    (hholds : Holds settings client next (.error e) client' events) :
    Finds settings filter parses wanted client next (.error e) client' events
  | unsent (c : Nat × κ) (client' : Client (Nat × κ)) (events : List Event)
    (hholds : Holds settings client next (.ok c) client' events) (hparses : parses = false) :
    Finds settings filter parses wanted client next (.error (.search SearchFailure.filter.message))
      ⟨none, .error⟩ events
  | failed (c : Nat × κ) (client' : Client (Nat × κ)) (events : List Event) (reason : String)
    (hholds : Holds settings client next (.ok c) client' events) (hparses : parses = true) :
    Finds settings filter parses wanted client next (.error (.search reason)) ⟨none, .error⟩
      (events ++ [.search c.1 ⟨settings.userBaseDn, filter, wanted⟩ (.error reason)])
  | rejected (c : Nat × κ) (client' : Client (Nat × κ)) (events : List Event)
    (answer : SearchAnswer) (hholds : Holds settings client next (.ok c) client' events)
    (hparses : parses = true) (h : answer.result.code ≠ 0) :
    Finds settings filter parses wanted client next (.error (.search answer.result.message)) client'
      (events ++ [.search c.1 ⟨settings.userBaseDn, filter, wanted⟩ (.ok answer)])
  | found (c : Nat × κ) (client' : Client (Nat × κ)) (events : List Event)
    (answer : SearchAnswer) (hholds : Holds settings client next (.ok c) client' events)
    (hparses : parses = true) (h : answer.result.code = 0) :
    Finds settings filter parses wanted client next (.ok answer.entries.head?) client'
      (events ++ [.search c.1 ⟨settings.userBaseDn, filter, wanted⟩ (.ok answer)])

/-- Ends of a bind on a connection of its own. -/
inductive Tries (dn password : String) (next : Nat) :
    Except DirectoryError Bool → List Event → Prop
  | refused (reason : String) :
    Tries dn password next (.error (.connection reason)) [.refused reason]
  | failed (reason : String) :
    Tries dn password next (.error (.connection ("User bind failed: " ++ reason)))
      [.opened next, .bind next dn password (.error reason)]
  | answered (result : Result) :
    Tries dn password next (.ok (result.code == 0))
      [.opened next, .bind next dn password (.ok result), .unbind next]

/-- The filter that finds a user by name. -/
def userFilter (names : AttributeNames) (username : String) : Filter :=
  ⟨names.accountName, username⟩

/-- The attributes that are asked for with a user. -/
def userAttributes (names : AttributeNames) : List String :=
  [names.accountName, names.commonName, names.email, names.memberOf]

/-- The search for a user. -/
def userSearch (settings : LdapSettings) (username : String) : SearchRequest :=
  ⟨settings.userBaseDn, userFilter settings.attributes username,
    userAttributes settings.attributes⟩

/-- The name that the user of an entry is bound as. -/
def entryBindDn (names : AttributeNames) (entry : Entry) : String :=
  bindDnOf names (names.userOfEntry entry.dn entry.attributes).account

/-- Ends of a check of a password; `parses` tells whether the filter for its user can be read. -/
inductive Verifies (settings : LdapSettings) (username password : String) (parses : Bool)
    (client : Client (Nat × κ)) (trace : Trace) :
    Except DirectoryError Bool → Client (Nat × κ) → List Event → Prop
  | blank (h : Text.isBlank password = true) :
    Verifies settings username password parses client trace (.ok false) client []
  | unknown (e : DirectoryError) (client' : Client (Nat × κ)) (events : List Event)
    (h : Text.isBlank password = false)
    (hfinds : Finds settings (userFilter settings.attributes username) parses
      (userAttributes settings.attributes) client trace.next (.error e) client' events) :
    Verifies settings username password parses client trace (.error e) client' events
  | absent (client' : Client (Nat × κ)) (events : List Event) (h : Text.isBlank password = false)
    (hfinds : Finds settings (userFilter settings.attributes username) parses
      (userAttributes settings.attributes) client trace.next (.ok none) client' events) :
    Verifies settings username password parses client trace (.ok false) client' events
  | tried (entry : Entry) (client' : Client (Nat × κ)) (searching binding : List Event)
    (answer : Except DirectoryError Bool) (h : Text.isBlank password = false)
    (hfinds : Finds settings (userFilter settings.attributes username) parses
      (userAttributes settings.attributes) client trace.next (.ok (some entry)) client' searching)
    (htries : Tries (entryBindDn settings.attributes entry) password
      (Trace.next (trace ++ searching)) answer binding) :
    Verifies settings username password parses client trace answer client' (searching ++ binding)

namespace Session

/-- From a state, an action ends with answer, client and new events in a relation. -/
def Ends (m : Session (Nat × κ) (σ × Trace) α) (s : Client (Nat × κ) × (σ × Trace))
    (R : α → Client (Nat × κ) → List Event → Prop) : Prop :=
  ∃ events, (m s).2.2.2 = s.2.2 ++ events ∧ R (m s).1 (m s).2.1 events

section
variable {m : Session (Nat × κ) (σ × Trace) α} {s : Client (Nat × κ) × (σ × Trace)}
  {P : α → Client (Nat × κ) → List Event → Prop} {Q : β → Client (Nat × κ) → List Event → Prop}

theorem Ends.pure {a : α} (h : P a s.1 []) : Ends (Pure.pure a) s P :=
  ⟨[], (List.append_nil _).symm, h⟩

/-- The events of two actions in a row stand in a row. -/
theorem Ends.bind {k : α → Session (Nat × κ) (σ × Trace) β} (hm : Ends m s P)
    (hk : ∀ a client first world, P a client first →
      Ends (k a) (client, world, s.2.2 ++ first) fun b client' second =>
        Q b client' (first ++ second)) : Ends (m >>= k) s Q := by
  obtain ⟨first, hfirst, hP⟩ := hm
  obtain ⟨second, hsecond, hQ⟩ := hk _ _ first (m s).2.2.1 hP
  have hrun : (m >>= k) s = k (m s).1 ((m s).2.1, (m s).2.2.1, s.2.2 ++ first) := by
    rw [← hfirst]
    rfl
  refine ⟨first ++ second, ?_, ?_⟩
  · rw [hrun, hsecond, List.append_assoc]
  · rw [hrun]
    exact hQ

theorem Ends.bind_pure {b : β} (hm : Ends m s fun _ client events => Q b client events) :
    Ends (m >>= fun _ => Pure.pure b) s Q := by
  apply Ends.bind hm
  intro a client first world hQ
  apply Ends.pure
  rw [List.append_nil]
  exact hQ

theorem Ends.client_bind {k : Client (Nat × κ) → Session (Nat × κ) (σ × Trace) β}
    (h : Ends (k s.1) s Q) : Ends (client >>= k) s Q := h

theorem Ends.setClient_bind {c : Client (Nat × κ)} {k : Unit → Session (Nat × κ) (σ × Trace) β}
    (h : Ends (k ()) (c, s.2) Q) : Ends (setClient c >>= k) s Q := h

variable (net : Network κ σ)

theorem Ends.connect_bind {k : Except String (Nat × κ) → Session (Nat × κ) (σ × Trace) β}
    (hok : ∀ c world, Ends (k (.ok (Trace.next s.2.2, c)))
      (s.1, world, s.2.2 ++ [.opened (Trace.next s.2.2)]) fun b client' second =>
        Q b client' (.opened (Trace.next s.2.2) :: second))
    (herror : ∀ reason world, Ends (k (.error reason)) (s.1, world, s.2.2 ++ [.refused reason])
      fun b client' second => Q b client' (.refused reason :: second)) :
    Ends (outside net.traced.connect >>= k) s Q := by
  apply Ends.bind (P := fun answer client events => client = s.1 ∧
    ((∃ c, answer = .ok (Trace.next s.2.2, c) ∧ events = [.opened (Trace.next s.2.2)]) ∨
      ∃ reason, answer = .error reason ∧ events = [.refused reason]))
  · simp only [Ends, outside, Network.traced]
    rcases net.connect s.2.1 with ⟨reason | c, world⟩
    · exact ⟨_, rfl, trivial, .inr ⟨reason, rfl, rfl⟩⟩
    · exact ⟨_, rfl, trivial, .inl ⟨c, rfl, rfl⟩⟩
  · rintro _ _ _ world ⟨rfl, ⟨c, rfl, rfl⟩ | ⟨reason, rfl, rfl⟩⟩
    · exact hok c world
    · exact herror reason world

/-- An operation that adds one event, whatever its answer. -/
theorem Ends.outside_bind {f : σ × Trace → α × (σ × Trace)}
    {k : α → Session (Nat × κ) (σ × Trace) β} (event : α → Event)
    (hf : (f s.2).2.2 = s.2.2 ++ [event (f s.2).1])
    (h : ∀ a world, Ends (k a) (s.1, world, s.2.2 ++ [event a]) fun b client' second =>
      Q b client' (event a :: second)) : Ends (outside f >>= k) s Q := by
  apply Ends.bind (P := fun a client events => client = s.1 ∧ events = [event a])
  · exact ⟨_, hf, rfl, rfl⟩
  · rintro a _ _ world ⟨rfl, rfl⟩
    exact h a world

/-- A search is recorded as it is answered, unless it is not sent. -/
theorem Ends.ask_bind {c : Nat × κ} {request : SearchRequest}
    {k : Except SearchFailure SearchAnswer → Session (Nat × κ) (σ × Trace) β}
    (hunsent : net.parses request.filter = false → Ends (k (.error .filter)) s Q)
    (herror : net.parses request.filter = true → ∀ reason world,
      Ends (k (.error (.transport reason)))
        (s.1, world, s.2.2 ++ [.search c.1 request (.error reason)]) fun b client' second =>
        Q b client' (.search c.1 request (.error reason) :: second))
    (hok : net.parses request.filter = true → ∀ answer world,
      Ends (k (.ok answer)) (s.1, world, s.2.2 ++ [.search c.1 request (.ok answer)])
        fun b client' second => Q b client' (.search c.1 request (.ok answer) :: second)) :
    Ends (outside (net.traced.ask c request) >>= k) s Q := by
  cases hparses : net.parses request.filter with
  | false =>
    have hrun : (outside (net.traced.ask c request) >>= k) s = k (.error .filter) s := by
      change k (net.traced.ask c request s.2).1 (s.1, (net.traced.ask c request s.2).2) = _
      rw [net.traced.ask_of_not_parses request hparses]
    rw [Ends, hrun]
    exact hunsent hparses
  | true =>
    apply Ends.bind (P := fun answer client events => client = s.1 ∧
      ((∃ reason, answer = .error (.transport reason) ∧
        events = [.search c.1 request (.error reason)]) ∨
      ∃ found, answer = .ok found ∧ events = [.search c.1 request (.ok found)]))
    · simp only [Ends, outside, net.traced_ask_of_parses request hparses]
      rcases net.search c.2 request s.2.1 with ⟨reason | found, world⟩
      · exact ⟨_, rfl, trivial, .inl ⟨reason, rfl, rfl⟩⟩
      · exact ⟨_, rfl, trivial, .inr ⟨found, rfl, rfl⟩⟩
    · rintro _ _ _ world ⟨rfl, ⟨reason, rfl, rfl⟩ | ⟨found, rfl, rfl⟩⟩
      · exact herror hparses reason world
      · exact hok hparses found world

theorem Ends.unbindOld {old : Option (Nat × κ)} {R : Unit → Client (Nat × κ) → List Event → Prop}
    (h : R () s.1 (released old)) : Ends (Session.unbindOld net.traced old) s R := by
  cases old with
  | none => exact Ends.pure h
  | some c => exact ⟨_, rfl, h⟩

theorem Ends.close {R : Unit → Client (Nat × κ) → List Event → Prop}
    (h : R () {} (released s.1.handle)) : Ends (Session.close net.traced) s R :=
  Ends.client_bind (Ends.setClient_bind (Ends.unbindOld net h))

theorem connect_ends (dn password : String) (s : Client (Nat × κ) × (σ × Trace)) :
    Ends (connect net.traced dn password) s
      (Connects dn password s.1.handle (Trace.next s.2.2)) := by
  apply Ends.connect_bind net
  · intro c world
    apply Ends.outside_bind (fun answer => .bind (Trace.next s.2.2) dn password answer) rfl
    intro answer world
    cases answer with
    | error reason => exact Ends.bind_pure (Ends.close net (.failed reason))
    | ok result =>
      by_cases hcode : result.code = 0
      · simp only [hcode, ↓reduceIte]
        apply Ends.client_bind
        apply Ends.setClient_bind
        exact Ends.bind_pure (Ends.unbindOld net (.bound result c hcode))
      · simp only [hcode, ↓reduceIte]
        apply Ends.outside_bind (fun _ => .unbind (Trace.next s.2.2)) rfl
        intro _ world
        exact Ends.bind_pure (Ends.close net (.rejected result hcode))
  · intro reason world
    exact Ends.bind_pure (Ends.close net (.refused reason))

variable (settings : LdapSettings)

theorem searchHandle_ends (s : Client (Nat × κ) × (σ × Trace)) :
    Ends (searchHandle net.traced settings) s (Holds settings s.1 (Trace.next s.2.2)) := by
  apply Ends.client_bind
  cases hhandle : s.1.handle with
  | some c => exact Ends.pure (.held c hhandle)
  | none =>
    by_cases hdn : settings.bindDn = ""
    · simp only [hdn, ↓reduceIte]
      exact Ends.pure (.unable hhandle hdn)
    · simp only [hdn, ↓reduceIte]
      have hconnect := connect_ends net settings.bindDn settings.bindPassword s
      rw [hhandle] at hconnect
      apply Ends.bind hconnect
      intro answer client events world hconnects
      cases answer with
      | error e =>
        refine Ends.pure ?_
        rw [List.append_nil]
        exact .failed e client events hhandle hdn hconnects
      | ok u =>
        apply Ends.client_bind
        cases hc : client.handle with
        | some c =>
          refine Ends.pure ?_
          rw [List.append_nil]
          exact .connected c client events hhandle hdn hconnects hc
        | none =>
          cases hconnects
          contradiction

theorem searchFirst_ends (name value : String) (wanted : List String)
    (s : Client (Nat × κ) × (σ × Trace)) :
    Ends (searchFirst net.traced settings name value wanted) s
      (Finds settings ⟨name, value⟩ (net.parses ⟨name, value⟩) wanted s.1
        (Trace.next s.2.2)) := by
  apply Ends.bind (searchHandle_ends net settings s)
  intro answer client events world hholds
  cases answer with
  | error e =>
    refine Ends.pure ?_
    rw [List.append_nil]
    exact .unheld e client events hholds
  | ok c =>
    apply Ends.ask_bind net
    · intro hparses
      apply Ends.setClient_bind
      refine Ends.pure ?_
      rw [List.append_nil]
      exact .unsent c client events hholds hparses
    · intro hparses reason world
      apply Ends.setClient_bind
      exact Ends.pure (.failed c client events reason hholds hparses)
    · intro hparses answer world
      by_cases hcode : answer.result.code = 0
      · simp only [hcode, ↓reduceIte]
        exact Ends.pure (.found c client events answer hholds hparses hcode)
      · simp only [hcode, ↓reduceIte]
        exact Ends.pure (.rejected c client events answer hholds hparses hcode)

theorem tryBind_ends (dn password : String) (s : Client (Nat × κ) × (σ × Trace)) :
    Ends (tryBind net.traced dn password) s fun answer client events =>
      client = s.1 ∧ Tries dn password (Trace.next s.2.2) answer events := by
  apply Ends.connect_bind net
  · intro c world
    apply Ends.outside_bind (fun answer => .bind (Trace.next s.2.2) dn password answer) rfl
    intro answer world
    cases answer with
    | error reason => exact Ends.pure ⟨rfl, .failed reason⟩
    | ok result =>
      apply Ends.outside_bind (fun _ => .unbind (Trace.next s.2.2)) rfl
      intro _ world
      exact Ends.pure ⟨rfl, .answered result⟩
  · intro reason world
    exact Ends.pure ⟨rfl, .refused reason⟩

theorem findUser_ends (name value : String) (s : Client (Nat × κ) × (σ × Trace)) :
    Ends (findUser net.traced settings name value) s fun answer client events =>
      ∃ found, answer = found.map (fun entry => entry.map fun e =>
          settings.attributes.userOfEntry e.dn e.attributes) ∧
        Finds settings ⟨name, value⟩ (net.parses ⟨name, value⟩) (userAttributes settings.attributes)
          s.1 (Trace.next s.2.2) found client events := by
  apply Ends.bind (searchFirst_ends net settings name value (userAttributes settings.attributes) s)
  intro found client events world hfinds
  refine Ends.pure ⟨found, rfl, ?_⟩
  rw [List.append_nil]
  exact hfinds

/-- All that a check of a password can come to. -/
theorem verify_ends (username password : String) (s : Client (Nat × κ) × (σ × Trace)) :
    Ends (verify net.traced settings username password) s
      (Verifies settings username password (net.parses (userFilter settings.attributes username))
        s.1 s.2.2) := by
  rw [verify]
  cases hblank : Text.isBlank password with
  | true => exact Ends.pure (.blank hblank)
  | false =>
    apply Ends.bind (findUser_ends net settings settings.attributes.accountName username s)
    rintro _ client searching world ⟨found, rfl, hfinds⟩
    cases found with
    | error e =>
      refine Ends.pure ?_
      rw [List.append_nil]
      exact .unknown e client searching hblank hfinds
    | ok entry =>
      cases entry with
      | none =>
        refine Ends.pure ?_
        rw [List.append_nil]
        exact .absent client searching hblank hfinds
      | some entry =>
        obtain ⟨binding, htrace, hclient, htries⟩ := tryBind_ends net
          (entryBindDn settings.attributes entry) password (client, world, s.2.2 ++ searching)
        refine ⟨binding, htrace, ?_⟩
        exact hclient ▸ .tried entry client searching binding _ hblank hfinds htries

end

end Session

end DirectoryAuth.Ldap
