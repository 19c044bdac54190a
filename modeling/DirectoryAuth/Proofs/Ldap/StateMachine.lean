import DirectoryAuth.Ldap.MemoryServer
import DirectoryAuth.Proofs.Ldap.Numbering
import DirectoryAuth.Proofs.Ldap.Run

/-! The state of a directory client through its runs: when it is bound, when it is in error and when
it connects by itself. -/
namespace DirectoryAuth.Ldap

def Operation.isConnect : Operation → Bool
  | connect _ _ => true
  | connectServiceAccount => true
  | _ => false

section
variable {settings : LdapSettings} {operation : Operation}

/-- An operation with a search connects as the service account only. -/
theorem Operation.of_search? (h : operation.search? settings ≠ none) :
    operation.isConnect = false ∧
      operation.account settings = (settings.bindDn, settings.bindPassword) := by
  cases operation with
  | connect dn password => contradiction
  | connectServiceAccount => contradiction
  | close => contradiction
  | findUser name value => exact ⟨rfl, rfl⟩
  | findGroup name value => exact ⟨rfl, rfl⟩
  | verify username password => exact ⟨rfl, rfl⟩

theorem Operation.search?_of_isConnect (h : operation.isConnect) :
    operation.search? settings = none := by
  cases operation with
  | connect dn password => rfl
  | connectServiceAccount => rfl
  | _ => contradiction

end

variable {κ σ : Type}

section
variable {dn password : String} {old : Option (Nat × κ)} {next : Nat} {client : Client (Nat × κ)}
  {events : List Event}

theorem Connects.search_not_mem {answer : Except DirectoryError Unit}
    (h : Connects dn password old next answer client events) (n : Nat) (request : SearchRequest)
    (found : Except String SearchAnswer) : .search n request found ∉ events := by
  cases h <;> cases old <;> simp [released]

theorem Tries.search_not_mem {answer : Except DirectoryError Bool}
    (h : Tries dn password next answer events) (n : Nat) (request : SearchRequest)
    (found : Except String SearchAnswer) : .search n request found ∉ events := by
  cases h <;> simp

theorem Operation.Ending.search_not_mem {operation : Operation}
    (h : operation.Ending next events) (n : Nat) (request : SearchRequest)
    (found : Except String SearchAnswer) : .search n request found ∉ events := by
  cases h with
  | found _ => simp
  | checked username password dn answer _ htries => exact htries.search_not_mem n request found

end

variable (net : Network κ σ) (settings : LdapSettings)

/-- What the call of `connect` comes to that the step makes first, if it makes one. -/
def Step.called (step : Step (Nat × κ) (σ × Trace)) :
    Except DirectoryError Unit × Client (Nat × κ) × (σ × Trace) :=
  Session.connect net.traced (step.operation.account settings).1
    (step.operation.account settings).2 step.before

/-- The record of the step begins with that of a call of `connect`. -/
def Step.CallsConnect (step : Step (Nat × κ) (σ × Trace)) : Prop :=
  (step.called net settings).2.2.2 <+: step.after.2.2

/-- A client is bound exactly while it holds a connection for searches. -/
def Client.Consistent (client : Client (Nat × κ)) : Prop :=
  client.state = .bound ↔ client.handle.isSome

theorem Client.Consistent.handle_eq_none {client : Client (Nat × κ)} (h : client.Consistent)
    (hstate : client.state ≠ .bound) : client.handle = none := by
  simpa using mt h.mpr hstate

/-- The search of the step is sent and fails in transport. -/
def Step.FailsInTransport (step : Step (Nat × κ) (σ × Trace)) : Prop :=
  ∃ n request reason, .search n request (.error reason) ∈ step.events

/-- There is a connection for the search of the step, but its filter cannot be read; `held` is what
the search begins with. -/
def Step.FilterRefused (step : Step (Nat × κ) (σ × Trace))
    (held : Client (Nat × κ) × (σ × Trace)) : Prop :=
  ∃ name value wanted c, step.operation.search? settings = some (name, value, wanted) ∧
    net.parses ⟨name, value⟩ = false ∧ HoldsOn net settings step.before c held

/-- The rules for the state of a client, for one step. -/
structure Step.Lawful (step : Step (Nat × κ) (σ × Trace)) : Prop where
  before_consistent : step.before.1.Consistent
  after_consistent : step.after.1.Consistent
  connects : step.operation.isConnect → step.answer = .connected (step.called net settings).1 ∧
    step.after = (step.called net settings).2
  connect_ok : (step.called net settings).1 = .ok () →
    ∃ c, (step.called net settings).2.1 = ⟨some (Trace.next step.before.2.2, c), .bound⟩
  connect_error : ∀ e, (step.called net settings).1 = .error e →
    (step.called net settings).2.1 = ⟨none, .unbound⟩
  /-- A step ends in the state of error if its search fails in transport or has a filter that
  cannot be read, or if it has begun in that state and changes nothing. -/
  error_iff : step.after.1.state = .error ↔
    step.FailsInTransport ∨ (∃ held, step.FilterRefused net settings held) ∨
      step.before.1.state = .error ∧ step.after = step.before
  error_unheld : step.after.1.state = .error → step.after.1.handle = none
  /-- Nothing is sent with such a filter, and the connection is given up all the same. -/
  filter_refused : ∀ held, step.FilterRefused net settings held →
    step.answer.error? = some (.search "filter parse error") ∧
      step.after = (⟨none, .error⟩, held.2)
  /-- Only `connect` and `close` lead out of it. -/
  error_left : step.before.1.state = .error → step.after.1.state ≠ .error →
    step.operation = .close ∨ step.CallsConnect net settings
  unable : step.operation.search? settings ≠ none → step.before.1.handle = none →
    settings.bindDn = "" → step.answer.error? = some .notConnected ∧ step.after = step.before
  reconnect_error : step.operation.search? settings ≠ none → step.before.1.handle = none →
    settings.bindDn ≠ "" → ∀ e, (step.called net settings).1 = .error e →
    step.answer.error? = some e ∧ step.after = (step.called net settings).2
  /-- One call of `connect` and then the search, if its filter can be read; a check of a password
  may bind the user last. -/
  reconnect_ok : ∀ name value wanted,
    step.operation.search? settings = some (name, value, wanted) → step.before.1.handle = none →
    settings.bindDn ≠ "" → (step.called net settings).1 = .ok () →
    net.parses ⟨name, value⟩ = true →
    ∃ c answer later, (step.called net settings).2.1.handle = some c ∧
      step.after.2.2 = (step.called net settings).2.2.2 ++
        .search c.1 ⟨settings.userBaseDn, ⟨name, value⟩, wanted⟩ answer :: later ∧
      step.operation.Ending (Trace.next (step.called net settings).2.2.2) later
  /-- No search misses a connection that it holds or that `connect` has just made. -/
  notConnected_iff : step.answer.error? = some .notConnected ↔
    step.operation.search? settings ≠ none ∧ step.before.1.handle = none ∧ settings.bindDn = ""

variable (s : Client (Nat × κ) × (σ × Trace))

/-- All that an operation can come to. -/
inductive Does : Operation → Answer × Client (Nat × κ) × (σ × Trace) → Prop
  | connect (operation : Operation) (h : operation.isConnect) :
    Does operation
      (.connected (Session.connect net.traced (operation.account settings).1
        (operation.account settings).2 s).1,
      (Session.connect net.traced (operation.account settings).1
        (operation.account settings).2 s).2)
  | close : Does .close (.closed, (Session.close net.traced s).2)
  | blank (username password : String) (h : Text.isBlank password = true) :
    Does (.verify username password) (.verdict (.ok false), s)
  | unable (operation : Operation) (answer : Answer) (hsearch : operation.search? settings ≠ none)
    (hhandle : s.1.handle = none) (hdn : settings.bindDn = "")
    (hanswer : answer.error? = some .notConnected) : Does operation (answer, s)
  | unheld (operation : Operation) (answer : Answer) (e : DirectoryError)
    (s' : Client (Nat × κ) × (σ × Trace)) (hsearch : operation.search? settings ≠ none)
    (hhandle : s.1.handle = none) (hdn : settings.bindDn ≠ "")
    (hcalled : reconnect net settings s = (.error e, s')) (he : e ≠ .notConnected)
    (hanswer : answer.error? = some e) : Does operation (answer, s')
  | unsent (operation : Operation) (answer : Answer) (name value : String) (wanted : List String)
    (c : Nat × κ) (s' : Client (Nat × κ) × (σ × Trace))
    (hsearch : operation.search? settings = some (name, value, wanted))
    (hholds : HoldsOn net settings s c s') (hparses : net.parses ⟨name, value⟩ = false)
    (hanswer : answer.error? = some (.search SearchFailure.filter.message)) :
    Does operation (answer, ⟨none, .error⟩, s'.2)
  | searched (operation : Operation) (name value : String) (wanted : List String)
    (done : Answer × Client (Nat × κ) × (σ × Trace)) (c : Nat × κ)
    (s' : Client (Nat × κ) × (σ × Trace)) (result : Except String SearchAnswer)
    (later : List Event) (hsearch : operation.search? settings = some (name, value, wanted))
    (hholds : HoldsOn net settings s c s') (hparses : net.parses ⟨name, value⟩ = true)
    (htrace : done.2.2.2 = s'.2.2 ++
      .search c.1 ⟨settings.userBaseDn, ⟨name, value⟩, wanted⟩ result :: later)
    (hending : operation.Ending (Trace.next s'.2.2) later)
    (hanswer : done.1.error? ≠ some .notConnected)
    (hclient : (∃ reason, result = .error reason ∧ done.2.1 = ⟨none, .error⟩) ∨
      ∃ entries, result = .ok entries ∧ done.2.1 = s'.1) : Does operation done

theorem does_search {operation : Operation} {name value : String} {wanted : List String}
    (h : operation.search? settings = some (name, value, wanted)) :
    Does net settings s operation (perform net.traced settings operation s) := by
  have hsearch : operation.search? settings ≠ none := by simp [h]
  obtain ⟨hclient, ⟨later, htrace, hending⟩, hfailed, hnot⟩ := perform_goesOn net settings s h
  generalize perform net.traced settings operation s = done at *
  obtain ⟨answer, done⟩ := done
  rcases searchFirst_cases net settings s name value wanted with
    ⟨hhandle, hdn, hfound⟩ | ⟨e, s', hhandle, hdn, hcalled, he, hfound⟩ |
    ⟨c, s', hholds, hparses, hfound⟩ | ⟨c, s', result, hholds, hparses, hfound, hne, hresult⟩
  · rw [hfound] at hfailed
    obtain ⟨hanswer, rfl⟩ := hfailed _ rfl
    exact .unable operation answer hsearch hhandle hdn hanswer
  · rw [hfound] at hfailed
    obtain ⟨hanswer, rfl⟩ := hfailed _ rfl
    exact .unheld operation answer e done hsearch hhandle hdn hcalled he hanswer
  · rw [hfound] at hfailed
    obtain ⟨hanswer, rfl⟩ := hfailed _ rfl
    exact .unsent operation answer name value wanted c s' h hholds hparses hanswer
  · rw [hfound] at htrace hending
    refine .searched operation name value wanted _ c s' result later h hholds hparses ?_ ?_ ?_ ?_
    · rw [htrace, List.append_assoc, List.singleton_append]
    · simpa [Trace.next_append, Event.isOpened] using hending
    · exact fun hanswer => hne (hnot hanswer)
    · rwa [hclient]

theorem does_perform (operation : Operation) :
    Does net settings s operation (perform net.traced settings operation s) := by
  cases operation with
  | connect dn password => exact .connect _ rfl
  | connectServiceAccount => exact .connect _ rfl
  | close => exact .close
  | findUser name value => exact does_search net settings s rfl
  | findGroup name value => exact does_search net settings s rfl
  | verify username password =>
    cases hblank : Text.isBlank password with
    | true =>
      have hdone : perform net.traced settings (.verify username password) s =
          (.verdict (.ok false), s) := by
        have hverify := Session.verify_of_blank net.traced settings s username hblank
        simp only [perform, Session.bind_apply, Session.pure_apply, hverify]
      rw [hdone]
      exact .blank username password hblank
    | false =>
      have hsearch : Operation.search? settings (.verify username password) =
          some (settings.attributes.accountName, username, userAttributes settings.attributes) := by
        simp [Operation.search?, hblank]
      exact does_search net settings s hsearch

theorem connect_of_search? {operation : Operation} (h : operation.search? settings ≠ none) :
    Session.connect net.traced (operation.account settings).1 (operation.account settings).2 s =
      reconnect net settings s := by
  rw [(Operation.of_search? h).2]

theorem perform_connect {operation : Operation} (h : operation.isConnect) :
    perform net.traced settings operation s =
      (.connected (Session.connect net.traced (operation.account settings).1
        (operation.account settings).2 s).1,
      (Session.connect net.traced (operation.account settings).1
        (operation.account settings).2 s).2) := by
  cases operation with
  | connect dn password => rfl
  | connectServiceAccount => rfl
  | _ => contradiction

theorem close_client : (Session.close net.traced s).2.1 = {} := by
  obtain ⟨events, -, hclient, -⟩ := Session.close_ends net s
  exact hclient

/-- An unbound client or one with a new connection: nothing else is left by `connect`. -/
theorem connect_consistent (dn password : String) :
    (Session.connect net.traced dn password s).2.1.Consistent ∧
      (Session.connect net.traced dn password s).2.1.state ≠ .error := by
  rcases connect_cases net s dn password with ⟨c, t, hcalled⟩ | ⟨e, t, he, hcalled⟩
  · rw [hcalled]
    simp [Client.Consistent]
  · rw [hcalled]
    simp [Client.Consistent]

theorem reconnect_consistent : (reconnect net settings s).2.1.Consistent ∧
    (reconnect net settings s).2.1.state ≠ .error :=
  connect_consistent net s settings.bindDn settings.bindPassword

variable {net settings}

/-- A call of `connect` makes no search. -/
theorem connect_trace {dn password : String} {answer : Except DirectoryError Unit}
    {s s' : Client (Nat × κ) × (σ × Trace)}
    (h : Session.connect net.traced dn password s = (answer, s')) :
    ∃ events, s'.2.2 = s.2.2 ++ events ∧
      ∀ n request found, .search n request found ∉ events := by
  obtain ⟨events, htrace, hconnects⟩ := Session.connect_ends net dn password s
  rw [h] at htrace
  exact ⟨events, htrace, hconnects.search_not_mem⟩

section
variable {s} {c : Nat × κ} {s' : Client (Nat × κ) × (σ × Trace)}

theorem HoldsOn.trace (h : HoldsOn net settings s c s') : ∃ events, s'.2.2 = s.2.2 ++ events ∧
    ∀ n request answer, .search n request answer ∉ events := by
  rcases h with ⟨-, rfl⟩ | ⟨-, -, hcalled, -⟩
  · exact ⟨[], (List.append_nil _).symm, by simp⟩
  · exact connect_trace hcalled

theorem HoldsOn.consistent (h : HoldsOn net settings s c s') (hs : s.1.Consistent) :
    s'.1.Consistent ∧ s'.1.state ≠ .error := by
  rcases h with ⟨hhandle, rfl⟩ | ⟨-, -, -, hclient⟩
  · have hstate : s'.1.state = .bound := hs.mpr (by simp [hhandle])
    exact ⟨hs, by simp [hstate]⟩
  · rw [hclient]
    simp [Client.Consistent]

/-- Where none is held, a connection to search on is one that `connect` has just made. -/
theorem HoldsOn.of_handle_eq_none (h : HoldsOn net settings s c s') (hnone : s.1.handle = none) :
    settings.bindDn ≠ "" ∧ reconnect net settings s = (.ok (), s') ∧ s'.1 = ⟨some c, .bound⟩ := by
  rcases h with ⟨hc, -⟩ | ⟨-, hdn, hcalled, hclient⟩
  · rw [hnone] at hc
    contradiction
  · exact ⟨hdn, hcalled, hclient⟩

theorem HoldsOn.unique {c' : Nat × κ} {s'' : Client (Nat × κ) × (σ × Trace)}
    (h : HoldsOn net settings s c s') (h' : HoldsOn net settings s c' s'') : s' = s'' := by
  rcases h with ⟨hc, rfl⟩ | ⟨hnone, -, hcalled, -⟩
  · rcases h' with ⟨-, rfl⟩ | ⟨hnone, -, -, -⟩
    · rfl
    · rw [hnone] at hc
      contradiction
  · obtain ⟨-, hcalled', -⟩ := h'.of_handle_eq_none hnone
    exact congrArg Prod.snd (hcalled.symm.trans hcalled')

end

namespace Does

variable {s} {operation : Operation} {done : Answer × Client (Nat × κ) × (σ × Trace)}

theorem consistent (h : Does net settings s operation done) (hs : s.1.Consistent) :
    done.2.1.Consistent := by
  cases h with
  | connect _ _ => exact (connect_consistent net s _ _).1
  | close =>
    rw [close_client net s]
    simp [Client.Consistent]
  | blank _ _ _ => exact hs
  | unable _ _ _ _ _ _ => exact hs
  | unheld _ _ e s' _ _ _ hcalled _ _ =>
    have hconsistent := reconnect_consistent net settings s
    rw [hcalled] at hconsistent
    exact hconsistent.1
  | unsent _ _ _ _ _ c s' _ _ _ _ => simp [Client.Consistent]
  | searched _ _ _ _ _ c s' _ _ _ hholds _ _ _ _ hclient =>
    rcases hclient with ⟨reason, -, hclient⟩ | ⟨entries, -, hclient⟩
    · rw [hclient]
      simp [Client.Consistent]
    · rw [hclient]
      exact (hholds.consistent hs).1

/-- A search that is recorded is the one that the operation makes, and its answer decides what is
left of the client. -/
theorem of_search_mem (h : Does net settings s operation done) {n : Nat} {request : SearchRequest}
    {result : Except String SearchAnswer}
    (hmem : .search n request result ∈ done.2.2.2.drop s.2.2.length) :
    ∃ c s', n = c.1 ∧ operation.search? settings ≠ none ∧ HoldsOn net settings s c s' ∧
      s'.2.2 <+: done.2.2.2 ∧ ((∃ reason, result = .error reason ∧ done.2.1 = ⟨none, .error⟩) ∨
        ∃ entries, result = .ok entries ∧ done.2.1 = s'.1) := by
  cases h with
  | connect _ _ =>
    obtain ⟨events, htrace, hconnects⟩ := Session.connect_ends net
      (operation.account settings).1 (operation.account settings).2 s
    rw [htrace, List.drop_left] at hmem
    exact absurd hmem (hconnects.search_not_mem n request result)
  | close =>
    obtain ⟨events, htrace, -, rfl⟩ := Session.close_ends net s
    rw [htrace, List.drop_left] at hmem
    cases hhandle : s.1.handle <;> simp [hhandle, released] at hmem
  | blank _ _ _ => simp at hmem
  | unable _ _ _ _ _ _ => simp at hmem
  | unheld _ _ e s' _ _ _ hcalled _ _ =>
    obtain ⟨events, htrace, hnone⟩ := connect_trace hcalled
    rw [htrace, List.drop_left] at hmem
    exact absurd hmem (hnone n request result)
  | unsent _ _ _ _ _ c s' _ hholds _ _ =>
    obtain ⟨events, htrace, hnone⟩ := hholds.trace
    rw [htrace, List.drop_left] at hmem
    exact absurd hmem (hnone n request result)
  | searched _ name value wanted _ c s' _ later hsearch hholds _ htrace hending _ hclient =>
    obtain ⟨events, hevents, hnone⟩ := hholds.trace
    have hbegins : s'.2.2 <+: done.2.2.2 := htrace ▸ List.prefix_append _ _
    rw [htrace, hevents, List.append_assoc, List.drop_left] at hmem
    rcases List.mem_append.mp hmem with hmem | hmem
    · exact absurd hmem (hnone n request result)
    · rcases List.mem_cons.mp hmem with heq | hmem
      · cases heq
        exact ⟨c, s', rfl, hsearch ▸ Option.some_ne_none _, hholds, hbegins, hclient⟩
      · exact absurd hmem (hending.search_not_mem n request result)

/-- Where an operation has a connection for its search and a filter that cannot be read, it gives
up the connection and sends nothing. -/
theorem filter_refused (h : Does net settings s operation done)
    {held : Client (Nat × κ) × (σ × Trace)}
    (hrefused : (Step.mk operation s done.1 done.2).FilterRefused net settings held) :
    done.1.error? = some (.search "filter parse error") ∧ done.2 = (⟨none, .error⟩, held.2) := by
  obtain ⟨name, value, wanted, c, hsearch, hparses, hholds⟩ := hrefused
  cases h with
  | connect _ hconnect =>
    rw [Operation.search?_of_isConnect hconnect] at hsearch
    contradiction
  | close => contradiction
  | blank _ _ hblank => simp [Operation.search?, hblank] at hsearch
  | unable _ _ _ hhandle hdn _ => exact absurd hdn (hholds.of_handle_eq_none hhandle).1
  | unheld _ _ e s' _ hhandle _ hcalled _ _ =>
    obtain ⟨-, hcalled', -⟩ := hholds.of_handle_eq_none hhandle
    have hanswers := congrArg Prod.fst (hcalled.symm.trans hcalled')
    contradiction
  | unsent _ _ _ _ _ c' s' _ hholds' _ hanswer =>
    rw [hholds.unique hholds']
    exact ⟨hanswer, rfl⟩
  | searched _ _ _ _ _ c' s' _ _ hsearch' _ hparses' _ _ _ _ =>
    rw [hsearch'] at hsearch
    cases hsearch
    rw [hparses'] at hparses
    contradiction

/-- What leads to the state of error. -/
theorem of_error (h : Does net settings s operation done) (hs : s.1.Consistent)
    (hafter : done.2.1.state = .error) :
    (Step.mk operation s done.1 done.2).FailsInTransport ∨
      (∃ held, (Step.mk operation s done.1 done.2).FilterRefused net settings held) ∨
      s.1.state = .error ∧ done.2 = s := by
  cases h with
  | connect _ _ => exact absurd hafter (connect_consistent net s _ _).2
  | close =>
    rw [close_client net s] at hafter
    contradiction
  | blank _ _ _ => exact .inr (.inr ⟨hafter, rfl⟩)
  | unable _ _ _ _ _ _ => exact .inr (.inr ⟨hafter, rfl⟩)
  | unheld _ _ e s' _ _ _ hcalled _ _ =>
    have hconsistent := reconnect_consistent net settings s
    rw [hcalled] at hconsistent
    exact absurd hafter hconsistent.2
  | unsent _ _ name value wanted c s' hsearch hholds hparses _ =>
    exact .inr (.inl ⟨s', name, value, wanted, c, hsearch, hparses, hholds⟩)
  | searched _ name value wanted _ c s' _ later _ hholds _ htrace _ _ hclient =>
    rcases hclient with ⟨reason, rfl, hclient⟩ | ⟨entries, -, hclient⟩
    · obtain ⟨events, hevents, -⟩ := hholds.trace
      refine .inl ⟨c.1, ⟨settings.userBaseDn, ⟨name, value⟩, wanted⟩, reason, ?_⟩
      rw [Step.events, htrace, hevents, List.append_assoc, List.drop_left]
      simp
    · rw [hclient] at hafter
      exact absurd hafter (hholds.consistent hs).2

theorem error_iff (h : Does net settings s operation done) (hs : s.1.Consistent) :
    done.2.1.state = .error ↔ (Step.mk operation s done.1 done.2).FailsInTransport ∨
      (∃ held, (Step.mk operation s done.1 done.2).FilterRefused net settings held) ∨
      s.1.state = .error ∧ done.2 = s := by
  refine ⟨h.of_error hs, ?_⟩
  rintro (⟨n, request, reason, hmem⟩ | ⟨held, hrefused⟩ | ⟨hbefore, hsame⟩)
  · obtain ⟨c, s', -, -, -, -, ⟨_, -, hclient⟩ | ⟨_, hanswer, -⟩⟩ := h.of_search_mem hmem
    · rw [hclient]
    · contradiction
  · rw [(h.filter_refused hrefused).2]
  · rw [hsame, hbefore]

/-- What leads out of the state of error. -/
theorem error_left (h : Does net settings s operation done) (hs : s.1.Consistent)
    (hbefore : s.1.state = .error) (hafter : done.2.1.state ≠ .error) :
    operation = .close ∨ (Session.connect net.traced (operation.account settings).1
      (operation.account settings).2 s).2.2.2 <+: done.2.2.2 := by
  cases h with
  | connect _ _ => exact .inr List.prefix_rfl
  | close => exact .inl rfl
  | blank _ _ _ => contradiction
  | unable _ _ _ _ _ _ => contradiction
  | unheld _ _ e s' hsearch _ _ hcalled _ _ =>
    rw [connect_of_search? net settings s hsearch, hcalled]
    exact .inr List.prefix_rfl
  | unsent _ _ _ _ _ c s' _ _ _ _ => contradiction
  | searched _ name value wanted _ c s' _ later hsearch hholds _ htrace _ _ _ =>
    rw [connect_of_search? net settings s (hsearch ▸ Option.some_ne_none _)]
    rcases hholds with ⟨hhandle, rfl⟩ | ⟨-, -, hcalled, -⟩
    · have hstate : s'.1.state = .bound := hs.mpr (by simp [hhandle])
      rw [hstate] at hbefore
      contradiction
    · rw [hcalled, htrace]
      exact .inr (List.prefix_append _ _)

theorem notConnected_iff (h : Does net settings s operation done) :
    done.1.error? = some .notConnected ↔
      operation.search? settings ≠ none ∧ s.1.handle = none ∧ settings.bindDn = "" := by
  cases h with
  | connect _ hconnect =>
    rw [Operation.search?_of_isConnect hconnect]
    rcases connect_cases net s (operation.account settings).1 (operation.account settings).2 with
      ⟨c, t, hcalled⟩ | ⟨e, t, he, hcalled⟩
    · simp [hcalled, Answer.error?]
    · simp [hcalled, Answer.error?, he]
  | close => simp [Answer.error?, Operation.search?]
  | blank _ _ hblank => simp [Answer.error?, Operation.search?, hblank]
  | unable _ _ hsearch hhandle hdn hanswer => exact iff_of_true hanswer ⟨hsearch, hhandle, hdn⟩
  | unheld _ _ e s' hsearch hhandle hdn hcalled he hanswer =>
    simp [hanswer, he, hdn]
  | unsent _ _ _ _ _ c s' _ hholds _ hanswer =>
    refine iff_of_false (by simp [hanswer]) ?_
    rintro ⟨-, hhandle, hdn⟩
    exact (hholds.of_handle_eq_none hhandle).1 hdn
  | searched _ _ _ _ _ c s' _ _ _ hholds _ _ _ hanswer _ =>
    refine iff_of_false hanswer ?_
    rintro ⟨-, hhandle, hdn⟩
    exact (hholds.of_handle_eq_none hhandle).1 hdn

/-- A search where there is no connection for it and none can be made. -/
theorem unable_eq (h : Does net settings s operation done)
    (hsearch : operation.search? settings ≠ none) (hhandle : s.1.handle = none)
    (hdn : settings.bindDn = "") : done.1.error? = some .notConnected ∧ done.2 = s := by
  cases h with
  | connect _ hconnect => exact absurd (Operation.search?_of_isConnect hconnect) hsearch
  | close => contradiction
  | blank _ _ hblank => simp [Operation.search?, hblank] at hsearch
  | unable _ _ _ _ _ hanswer => exact ⟨hanswer, rfl⟩
  | unheld _ _ e s' _ _ hdn' _ _ _ => exact absurd hdn hdn'
  | unsent _ _ _ _ _ c s' _ hholds _ _ => exact absurd hdn (hholds.of_handle_eq_none hhandle).1
  | searched _ _ _ _ _ c s' _ _ _ hholds _ _ _ _ _ =>
    exact absurd hdn (hholds.of_handle_eq_none hhandle).1

theorem reconnect_error (h : Does net settings s operation done)
    (hsearch : operation.search? settings ≠ none) (hhandle : s.1.handle = none)
    (hdn : settings.bindDn ≠ "") {e : DirectoryError}
    (he : (reconnect net settings s).1 = .error e) :
    done.1.error? = some e ∧ done.2 = (reconnect net settings s).2 := by
  have hno : ∀ c s', ¬HoldsOn net settings s c s' := by
    intro c s' hholds
    rw [(hholds.of_handle_eq_none hhandle).2.1] at he
    contradiction
  cases h with
  | connect _ hconnect => exact absurd (Operation.search?_of_isConnect hconnect) hsearch
  | close => contradiction
  | blank _ _ hblank => simp [Operation.search?, hblank] at hsearch
  | unable _ _ _ _ hdn' _ => exact absurd hdn' hdn
  | unheld _ _ e' s' _ _ _ hcalled _ hanswer =>
    rw [hcalled] at he ⊢
    cases he
    exact ⟨hanswer, rfl⟩
  | unsent _ _ _ _ _ c s' _ hholds _ _ => exact absurd hholds (hno c s')
  | searched _ _ _ _ _ c s' _ _ _ hholds _ _ _ _ _ => exact absurd hholds (hno c s')

theorem reconnect_ok (h : Does net settings s operation done) {name value : String}
    {wanted : List String} (hsearch : operation.search? settings = some (name, value, wanted))
    (hhandle : s.1.handle = none) (hdn : settings.bindDn ≠ "")
    (hok : (reconnect net settings s).1 = .ok ()) (hparses : net.parses ⟨name, value⟩ = true) :
    ∃ c answer later, (reconnect net settings s).2.1.handle = some c ∧
      done.2.2.2 = (reconnect net settings s).2.2.2 ++
        .search c.1 ⟨settings.userBaseDn, ⟨name, value⟩, wanted⟩ answer :: later ∧
      operation.Ending (Trace.next (reconnect net settings s).2.2.2) later := by
  cases h with
  | connect _ hconnect =>
    rw [Operation.search?_of_isConnect hconnect] at hsearch
    contradiction
  | close => contradiction
  | blank _ _ hblank => simp [Operation.search?, hblank] at hsearch
  | unable _ _ _ _ hdn' _ => exact absurd hdn' hdn
  | unheld _ _ e s' _ _ _ hcalled _ _ =>
    rw [hcalled] at hok
    contradiction
  | unsent _ _ _ _ _ c s' hsearch' _ hparses' _ =>
    rw [hsearch'] at hsearch
    cases hsearch
    rw [hparses'] at hparses
    contradiction
  | searched _ name' value' wanted' _ c s' answer later hsearch' hholds _ htrace hending _ _ =>
    rw [hsearch'] at hsearch
    cases hsearch
    obtain ⟨-, hcalled, hclient⟩ := hholds.of_handle_eq_none hhandle
    rw [hcalled]
    exact ⟨c, answer, later, by rw [hclient], htrace, hending⟩

end Does

theorem lawful_perform (hs : s.1.Consistent) (operation : Operation) :
    (Step.mk operation s (perform net.traced settings operation s).1
      (perform net.traced settings operation s).2).Lawful net settings := by
  have hdoes := does_perform net settings s operation
  have hcalled : ∀ answer after, operation.search? settings ≠ none →
      (Step.mk operation s answer after).called net settings = reconnect net settings s := by
    intro answer after hsearch
    exact connect_of_search? net settings s hsearch
  have hconnect := connect_cases net s (operation.account settings).1
    (operation.account settings).2
  exact {
    before_consistent := hs
    after_consistent := hdoes.consistent hs
    connects := fun h => by
      rw [perform_connect net settings s h]
      exact ⟨rfl, rfl⟩
    connect_ok := fun hok => by
      rcases hconnect with ⟨c, t, hconnect⟩ | ⟨e, t, he, hconnect⟩
      · exact ⟨c, by rw [Step.called, hconnect]⟩
      · rw [Step.called, hconnect] at hok
        contradiction
    connect_error := fun e he => by
      rcases hconnect with ⟨c, t, hconnect⟩ | ⟨e', t, he', hconnect⟩
      · rw [Step.called, hconnect] at he
        contradiction
      · rw [Step.called, hconnect]
    error_iff := hdoes.error_iff hs
    error_unheld := fun hafter =>
      (hdoes.consistent hs).handle_eq_none fun hbound => nomatch hafter.symm.trans hbound
    filter_refused := fun held hrefused => hdoes.filter_refused hrefused
    error_left := fun hbefore hafter => hdoes.error_left hs hbefore hafter
    unable := hdoes.unable_eq
    reconnect_error := fun hsearch hhandle hdn e he => by
      rw [hcalled _ _ hsearch] at he ⊢
      exact hdoes.reconnect_error hsearch hhandle hdn he
    reconnect_ok := fun name value wanted hsearch hhandle hdn hok hparses => by
      rw [hcalled _ _ (hsearch ▸ Option.some_ne_none _)] at hok ⊢
      exact hdoes.reconnect_ok hsearch hhandle hdn hok hparses
    notConnected_iff := hdoes.notConnected_iff }

/-- Over every run of a new client, on every network, each operation keeps to the rules; the record
by which they are stated changes nothing that the client does. -/
theorem run_lawful (net : Network κ σ) (settings : LdapSettings) (operations : List Operation)
    (world : σ) :
    let steps := run net.traced settings operations ({}, world, [])
    run net settings operations ({}, world) = steps.map (Step.map erased) ∧
      ∀ step ∈ steps, step.Lawful net settings := by
  intro steps
  refine ⟨run_erased net settings operations ({}, world, []), ?_⟩
  intro step hstep
  have hkeep : ∀ (s : Client (Nat × κ) × (σ × Trace)) operation, s.1.Consistent →
      (perform net.traced settings operation s).2.1.Consistent := fun s operation hs =>
    (does_perform net settings s operation).consistent hs
  have hnew : Client.Consistent (κ := κ) {} := by simp [Client.Consistent]
  obtain ⟨hbefore, hmade⟩ := of_mem_run (P := fun s => s.1.Consistent) hkeep hnew hstep
  rw [hmade]
  exact lawful_perform step.before hbefore step.operation

/-- A bound client comes into the state of error though its server answers everything: it asks for
an attribute whose name makes no filter, so nothing is sent and nothing fails in transport. -/
theorem error_of_unreadable_filter :
    let settings : LdapSettings := { bindDn := "cn=service", bindPassword := "pw" }
    let server : MemoryServer := { accounts := ⟨[("cn=service", "pw")]⟩ }
    let steps := run MemoryServer.network.traced settings
      [.connectServiceAccount, .findUser "a b" "x"] ({}, server, [])
    (steps.map fun step => (step.before.1.state, step.after.1.state)) =
        [(.unbound, .bound), (.bound, .error)] ∧
      ∀ step ∈ steps, ¬step.FailsInTransport := by
  intro settings server steps
  refine ⟨by decide +kernel, ?_⟩
  have hnone : steps.all (fun step => step.events.all (·.filter?.isNone)) = true := by
    decide +kernel
  rintro step hstep ⟨n, request, reason, hmem⟩
  have hsearch := List.all_eq_true.mp (List.all_eq_true.mp hnone step hstep) _ hmem
  contradiction

/-- A server that hangs up on every search. -/
example :
    let server : MemoryServer :=
      { accounts := ⟨[("cn=service", "")]⟩, searchAnswer := some .dropped }
    (run MemoryServer.network { bindDn := "cn=service" }
        [.findUser "uid" "alice", .close, .findGroup "cn" "staff"] ({}, server)).map
      (fun step => step.after.1.state) = [.error, .unbound, .error] := rfl

end DirectoryAuth.Ldap
