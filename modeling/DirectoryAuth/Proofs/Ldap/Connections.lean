import DirectoryAuth.Proofs.Ldap.Lives
import DirectoryAuth.Proofs.Ldap.StateMachine

/-! Connections for searches and connections of users are kept apart: searches are made on what
`connect` has bound, and the bind of a user has a connection of its own that is used for nothing
else. -/
namespace DirectoryAuth.Ldap

variable {κ σ : Type} (net : Network κ σ) (settings : LdapSettings)

/-- In the step a call of `connect` makes the connection with the number. -/
def Step.Binds (step : Step (Nat × κ) (σ × Trace)) (n : Nat) : Prop :=
  step.CallsConnect net settings ∧ (step.called net settings).1 = .ok () ∧
    ∃ c, (step.called net settings).2.1.handle = some (n, c)

/-- The search that a check of a password makes before the bind. -/
def Step.found (step : Step (Nat × κ) (σ × Trace)) (username : String) :
    Except DirectoryError (Option User) × Client (Nat × κ) × (σ × Trace) :=
  Session.findUser net.traced settings settings.attributes.accountName username step.before

/-- After the search, a check of a password leaves the client as it is; where it binds a user, it
opens a connection whose whole life is that bind. -/
structure Step.TriesApart (step : Step (Nat × κ) (σ × Trace)) (username password : String)
    (binding : List Event) (record : Trace) : Prop where
  client_eq : step.after.1 = (step.found net settings username).2.1
  trace_eq : step.after.2.2 = (step.found net settings username).2.2.2 ++ binding
  tries : (binding = [] ∧ ∀ user, (step.found net settings username).1 ≠ .ok (some user)) ∨
    ∃ user answer, (step.found net settings username).1 = .ok (some user) ∧
      step.answer = .verdict answer ∧
      Tries (bindDnOf settings.attributes user.account) password
        (Trace.next (step.found net settings username).2.2.2) answer binding
  life_eq : ∀ event ∈ binding, ∀ n, event.connection? = some n → record.life n = binding

/-- The rules for the connections of a run with its record. -/
structure KeptApart (steps : List (Step (Nat × κ) (σ × Trace))) (record : Trace) : Prop where
  /-- A connection for searches is bound once, with success, and by `connect`. -/
  searches : ∀ n request answer, .search n request answer ∈ record →
    ∃ step ∈ steps, step.Binds net settings n ∧ ∃ result rest,
      record.life n = .opened n :: .bind n (step.operation.account settings).1
        (step.operation.account settings).2 (.ok result) :: rest ∧
      result.code = 0 ∧ ∀ event ∈ rest, event.isBind = false
  blank : ∀ step ∈ steps, ∀ username password, step.operation = .verify username password →
    Text.isBlank password = true → step.after = step.before
  tries : ∀ step ∈ steps, ∀ username password, step.operation = .verify username password →
    Text.isBlank password = false →
    ∃ binding, step.TriesApart net settings username password binding record
  /-- Nothing is sent on a connection that has ended, not even a second end. -/
  unbind_last : ∀ first n later, record = first ++ .unbind n :: later →
    ∀ event ∈ later, event.connection? ≠ some n
  released : ∀ step ∈ steps, ∀ c, step.before.1.handle = some c →
    step.operation.isConnect ∨ step.operation = .close → .unbind c.1 ∈ step.events

section
variable {dn password : String} {old : Option (Nat × κ)} {next : Nat}
  {answer : Except DirectoryError Unit} {client : Client (Nat × κ)} {events : List Event}

theorem Connects.released (h : Connects dn password old next answer client events)
    {c : Nat × κ} (hc : old = some c) : .unbind c.1 ∈ events := by
  subst hc
  cases h <;> simp [Ldap.released]

theorem Connects.bound_mem (h : Connects dn password old next (.ok ()) client events) :
    ∃ c result, client.handle = some (next, c) ∧
      .bind next dn password (.ok result) ∈ events := by
  cases h with
  | bound result c hcode => exact ⟨c, result, rfl, by simp⟩

theorem Tries.connection_eq {answer : Except DirectoryError Bool}
    (h : Tries dn password next answer events) {event : Event} (hmem : event ∈ events) {n : Nat}
    (hn : event.connection? = some n) : n = next := by
  cases h with
  | refused reason =>
    rw [List.mem_singleton.mp hmem] at hn
    contradiction
  | failed reason =>
    simp only [List.mem_cons, List.not_mem_nil, or_false] at hmem
    rcases hmem with rfl | rfl
    · exact (Option.some.inj hn).symm
    · exact (Option.some.inj hn).symm
  | answered result =>
    simp only [List.mem_cons, List.not_mem_nil, or_false] at hmem
    rcases hmem with rfl | rfl | rfl
    · exact (Option.some.inj hn).symm
    · exact (Option.some.inj hn).symm
    · exact (Option.some.inj hn).symm

end

section
variable {net settings} {s : Client (Nat × κ) × (σ × Trace)} {operation : Operation}
  {done : Answer × Client (Nat × κ) × (σ × Trace)}

/-- The record of an operation begins with the record before it. -/
theorem Does.trace_begins (h : Does net settings s operation done) : s.2.2 <+: done.2.2.2 := by
  cases h with
  | connect _ _ =>
    obtain ⟨events, htrace, -⟩ := Session.connect_ends net (operation.account settings).1
      (operation.account settings).2 s
    exact ⟨events, htrace.symm⟩
  | close =>
    obtain ⟨events, htrace, -⟩ := Session.close_ends net s
    exact ⟨events, htrace.symm⟩
  | blank _ _ _ => exact List.prefix_rfl
  | unable _ _ _ _ _ _ => exact List.prefix_rfl
  | unheld _ _ e s' _ _ _ hcalled _ _ =>
    obtain ⟨events, htrace, -⟩ := connect_trace hcalled
    exact ⟨events, htrace.symm⟩
  | unsent _ _ _ _ _ c s' _ hholds _ _ =>
    obtain ⟨events, hevents, -⟩ := hholds.trace
    exact ⟨events, hevents.symm⟩
  | searched _ _ _ _ _ c s' _ _ _ hholds _ htrace _ _ _ =>
    obtain ⟨events, hevents, -⟩ := hholds.trace
    rw [htrace, hevents, List.append_assoc]
    exact List.prefix_append _ _

theorem reconnect_client {e : DirectoryError} {s' : Client (Nat × κ) × (σ × Trace)}
    (h : reconnect net settings s = (.error e, s')) : s'.1 = {} := by
  rcases connect_cases net s settings.bindDn settings.bindPassword with
    ⟨c, t, hcalled⟩ | ⟨e', t, -, hcalled⟩
  · have heq := h.symm.trans hcalled
    simp at heq
  · cases h.symm.trans hcalled
    rfl

theorem HoldsOn.handle_eq {c : Nat × κ} {s' : Client (Nat × κ) × (σ × Trace)}
    (h : HoldsOn net settings s c s') : s'.1.handle = some c := by
  rcases h with ⟨hc, rfl⟩ | ⟨-, -, -, hclient⟩
  · exact hc
  · rw [hclient]

/-- A connection to search on was held before the operation, or the operation binds it. -/
theorem HoldsOn.binds {c : Nat × κ} {s' : Client (Nat × κ) × (σ × Trace)}
    (h : HoldsOn net settings s c s') (hsearch : operation.search? settings ≠ none)
    (hbegins : s'.2.2 <+: done.2.2.2) : s.1.handle = some c ∨
      (Step.mk operation s done.1 done.2).Binds net settings c.1 := by
  have hcalled : (Step.mk operation s done.1 done.2).called net settings =
      reconnect net settings s := connect_of_search? net settings s hsearch
  rcases h with ⟨hc, -⟩ | ⟨-, -, hreconnect, hclient⟩
  · exact .inl hc
  · refine .inr ⟨?_, ?_, c.2, ?_⟩
    · rw [Step.CallsConnect, hcalled, hreconnect]
      exact hbegins
    · rw [hcalled, hreconnect]
    · rw [hcalled, hreconnect, hclient]

/-- A connection that is held after an operation was held before it, or the operation binds it. -/
theorem Does.binds_of_handle (h : Does net settings s operation done) {c : Nat × κ}
    (hc : done.2.1.handle = some c) : s.1.handle = some c ∨
      (Step.mk operation s done.1 done.2).Binds net settings c.1 := by
  cases h with
  | connect _ _ =>
    rcases connect_cases net s (operation.account settings).1 (operation.account settings).2 with
      ⟨c', t, hcalled⟩ | ⟨e, t, -, hcalled⟩
    · refine .inr ⟨List.prefix_rfl, ?_, c.2, hc⟩
      simp only [Step.called, hcalled]
    · rw [hcalled] at hc
      contradiction
  | close =>
    rw [close_client net s] at hc
    contradiction
  | blank _ _ _ => exact .inl hc
  | unable _ _ _ _ _ _ => exact .inl hc
  | unheld _ _ e s' _ _ _ hcalled _ _ =>
    rw [reconnect_client hcalled] at hc
    contradiction
  | unsent _ _ _ _ _ c s' _ _ _ _ => contradiction
  | searched _ _ _ _ _ c' s' _ _ hsearch hholds _ htrace _ _ hclient =>
    rcases hclient with ⟨reason, -, hclient⟩ | ⟨entries, -, hclient⟩
    · rw [hclient] at hc
      contradiction
    · rw [hclient, hholds.handle_eq] at hc
      cases hc
      exact hholds.binds (hsearch ▸ Option.some_ne_none _) (htrace ▸ List.prefix_append _ _)

/-- A search that an operation makes is on a connection that it holds or binds. -/
theorem Does.binds_of_search (h : Does net settings s operation done) {n : Nat}
    {request : SearchRequest} {answer : Except String SearchAnswer}
    (hmem : .search n request answer ∈ done.2.2.2) :
    .search n request answer ∈ s.2.2 ∨ (∃ c, s.1.handle = some (n, c)) ∨
      (Step.mk operation s done.1 done.2).Binds net settings n := by
  obtain ⟨events, htrace⟩ := h.trace_begins
  rw [← htrace] at hmem
  rcases List.mem_append.mp hmem with hmem | hmem
  · exact .inl hmem
  · have hnew : .search n request answer ∈ done.2.2.2.drop s.2.2.length := by
      rwa [← htrace, List.drop_left]
    obtain ⟨c, s', rfl, hsearch, hholds, hbegins, -⟩ := h.of_search_mem hnew
    exact .inr ((hholds.binds hsearch hbegins).imp_left fun hc => ⟨c.2, hc⟩)

end

variable {net settings}

/-- All connections that are held or searched on have been bound by one of the steps. -/
structure Bound (net : Network κ σ) (settings : LdapSettings)
    (steps : List (Step (Nat × κ) (σ × Trace))) (s : Client (Nat × κ) × (σ × Trace)) : Prop where
  handle : ∀ c, s.1.handle = some c → ∃ step ∈ steps, step.Binds net settings c.1
  searches : ∀ n request answer, .search n request answer ∈ s.2.2 →
    ∃ step ∈ steps, step.Binds net settings n

theorem Bound.performs {steps : List (Step (Nat × κ) (σ × Trace))}
    {s : Client (Nat × κ) × (σ × Trace)} (h : Bound net settings steps s) {operation : Operation}
    (hmem : ⟨operation, s, (perform net.traced settings operation s).1,
      (perform net.traced settings operation s).2⟩ ∈ steps) :
    Bound net settings steps (perform net.traced settings operation s).2 := by
  have hdoes := does_perform net settings s operation
  refine ⟨?_, ?_⟩
  · intro c hc
    rcases hdoes.binds_of_handle hc with hc | hbinds
    · exact h.handle c hc
    · exact ⟨_, hmem, hbinds⟩
  · intro n request answer hsearch
    rcases hdoes.binds_of_search hsearch with hsearch | ⟨c, hc⟩ | hbinds
    · exact h.searches n request answer hsearch
    · exact h.handle (n, c) hc
    · exact ⟨_, hmem, hbinds⟩

theorem Bound.run {steps : List (Step (Nat × κ) (σ × Trace))} (operations : List Operation)
    {s : Client (Nat × κ) × (σ × Trace)} (h : Bound net settings steps s)
    (hsub : run net.traced settings operations s ⊆ steps) :
    Bound net settings steps (finalState net.traced settings operations s) := by
  induction operations generalizing s with
  | nil => exact h
  | cons operation rest ih =>
    obtain ⟨hmem, hrest⟩ := List.cons_subset.mp hsub
    exact ih (h.performs hmem) hrest

theorem trace_begins_finalState (operations : List Operation) (s : Client (Nat × κ) × (σ × Trace)) :
    s.2.2 <+: (finalState net.traced settings operations s).2.2 := by
  induction operations generalizing s with
  | nil => exact List.prefix_rfl
  | cons operation rest ih =>
    have hstep := (does_perform net settings s operation).trace_begins
    exact hstep.trans (ih _)

/-- The record of a step begins the record of the run. -/
theorem prefix_of_mem_run {operations : List Operation} {s : Client (Nat × κ) × (σ × Trace)}
    {step : Step (Nat × κ) (σ × Trace)} (h : step ∈ run net.traced settings operations s) :
    step.after.2.2 <+: (finalState net.traced settings operations s).2.2 := by
  induction operations generalizing s with
  | nil => contradiction
  | cons operation rest ih =>
    rcases List.mem_cons.mp h with rfl | h
    · exact trace_begins_finalState rest _
    · exact ih h

theorem Trace.mem_life {trace : Trace} {event : Event} {n : Nat} :
    event ∈ trace.life n ↔ event ∈ trace ∧ event.connection? = some n := by
  simp [Trace.life]

/-- A step that binds a connection has the answer to the bind in its record. -/
theorem Step.Binds.bind_mem {step : Step (Nat × κ) (σ × Trace)} {n : Nat}
    (h : step.Binds net settings n) : ∃ result,
      .bind n (step.operation.account settings).1 (step.operation.account settings).2
        (.ok result) ∈ step.after.2.2 := by
  obtain ⟨hbegins, hok, c, hc⟩ := h
  obtain ⟨events, htrace, hconnects⟩ := Session.connect_ends net
    (step.operation.account settings).1 (step.operation.account settings).2 step.before
  rw [show (Session.connect net.traced _ _ step.before).1 = .ok () from hok] at hconnects
  obtain ⟨c', result, hhandle, hmem⟩ := hconnects.bound_mem
  have hn : n = Trace.next step.before.2.2 := by
    have heq := hc.symm.trans hhandle
    simp only [Option.some.injEq, Prod.mk.injEq] at heq
    exact heq.1
  refine ⟨result, hbegins.subset ?_⟩
  rw [hn, Step.called, htrace]
  exact List.mem_append_right _ hmem

section
variable {client : Client (Nat × κ)} {record : Trace} (h : Orderly client record)
include h

theorem Orderly.life {event : Event} (hmem : event ∈ record) {n : Nat}
    (hn : event.connection? = some n) : Life n (record.life n) :=
  h.lives n (h.below event hmem n hn)

theorem Orderly.unbind_last {first later : List Event} {n : Nat}
    (hrecord : record = first ++ .unbind n :: later) :
    ∀ event ∈ later, event.connection? ≠ some n := by
  have hunbind : .unbind n ∈ record := by simp [hrecord]
  have hlife := h.life hunbind rfl
  have hsplit : record.life n =
      Trace.life first n ++ .unbind n :: Trace.life later n := by
    simp [hrecord, Trace.life, Event.connection?]
  intro event hmem heq
  have hnil := hlife.unbind_last hsplit
  have hlater : event ∈ Trace.life later n := Trace.mem_life.mpr ⟨hmem, heq⟩
  rw [hnil] at hlater
  contradiction

omit h in
/-- Events of a new connection begin its life. -/
theorem Trace.life_of_prefix {trace : Trace} {binding : List Event}
    (hbelow : Below trace.next trace) (hbegins : trace ++ binding <+: record)
    (hown : ∀ event ∈ binding, event.connection? = some (Trace.next trace)) :
    ∃ rest, record.life (Trace.next trace) = binding ++ rest := by
  obtain ⟨rest, hrest⟩ := hbegins
  refine ⟨Trace.life rest (Trace.next trace), ?_⟩
  rw [← hrest, Trace.life_append, Trace.life_append, hbelow.life_eq_nil (Nat.le_refl _),
    List.nil_append, Trace.life_eq_self hown]

/-- A bind of a user on a new connection stays the only thing that is done there. -/
theorem Orderly.life_of_tries {trace : Trace} {binding : List Event}
    (hbelow : Below trace.next trace) (hbegins : trace ++ binding <+: record) {dn password : String}
    {answer : Except DirectoryError Bool}
    (htries : Tries dn password (Trace.next trace) answer binding) {event : Event}
    (hmem : event ∈ binding) {n : Nat} (hn : event.connection? = some n) :
    record.life n = binding := by
  have hlife := h.life (hbegins.subset (List.mem_append_right _ hmem)) hn
  obtain rfl := htries.connection_eq hmem hn
  cases htries with
  | refused reason =>
    rw [List.mem_singleton.mp hmem] at hn
    contradiction
  | failed reason =>
    obtain ⟨rest, hsplit⟩ := Trace.life_of_prefix hbelow hbegins (by simp [Event.connection?])
    rw [hsplit] at hlife ⊢
    have hnil : rest = [] := hlife.eq_nil_of_error
    rw [hnil, List.append_nil]
  | answered result =>
    obtain ⟨rest, hsplit⟩ := Trace.life_of_prefix hbelow hbegins (by simp [Event.connection?])
    have hlast : record.life (Trace.next trace) =
        [.opened (Trace.next trace), .bind (Trace.next trace) dn password (.ok result)] ++
          .unbind (Trace.next trace) :: rest := hsplit
    rw [hsplit, hlife.unbind_last hlast, List.append_nil]

end

/-- In a record that is in order, a check of a password keeps to a connection of its own. -/
theorem Orderly.triesApart {record : Trace} {client : Client (Nat × κ)} (h : Orderly client record)
    {s : Client (Nat × κ) × (σ × Trace)} (hs : Orderly s.1 s.2.2) {username password : String}
    (hblank : Text.isBlank password = false)
    (hbegins : (perform net.traced settings (.verify username password) s).2.2.2 <+: record) :
    ∃ binding, (Step.mk (.verify username password) s
      (perform net.traced settings (.verify username password) s).1
      (perform net.traced settings (.verify username password) s).2).TriesApart net settings
        username password binding record := by
  have hdone : perform net.traced settings (.verify username password) s =
      (.verdict (Session.verify net.traced settings username password s).1,
        (Session.verify net.traced settings username password s).2) := rfl
  have hverify := Session.verify_eq net.traced settings s username hblank
  obtain ⟨searching, htrace, found, -, hfinds⟩ := Session.findUser_ends net settings
    settings.attributes.accountName username s
  have hfound := (orderly_invariant.finds hs hfinds).below
  rw [← htrace] at hfound
  generalize hsearch : Session.findUser net.traced settings settings.attributes.accountName
    username s = search at *
  rcases search with ⟨e | _ | user, s'⟩
  -- without a user there is no bind, so nothing follows the search
  · rw [hdone, hverify]
    refine ⟨[], ?_, ?_, ?_, ?_⟩ <;> simp [Step.found, hsearch]
  · rw [hdone, hverify]
    refine ⟨[], ?_, ?_, ?_, ?_⟩ <;> simp [Step.found, hsearch]
  · obtain ⟨binding, hbinding, hclient, htries⟩ := Session.tryBind_ends net
      (bindDnOf settings.attributes user.account) password s'
    rw [hdone, hverify] at hbegins ⊢
    refine ⟨binding, ?_, ?_, ?_, ?_⟩
    · rw [Step.found, hsearch]
      exact hclient
    · rw [Step.found, hsearch]
      exact hbinding
    · rw [Step.found, hsearch]
      exact .inr ⟨user, _, rfl, rfl, htries⟩
    · intro event hmem n hn
      exact h.life_of_tries hfound (hbinding ▸ hbegins) htries hmem hn

theorem Step.Binds.life_eq {record : Trace} {client : Client (Nat × κ)} (h : Orderly client record)
    {step : Step (Nat × κ) (σ × Trace)} {n : Nat} (hbinds : step.Binds net settings n)
    (hbegins : step.after.2.2 <+: record) {request : SearchRequest}
    {answer : Except String SearchAnswer} (hmem : .search n request answer ∈ record) :
    ∃ result rest, record.life n = .opened n :: .bind n (step.operation.account settings).1
        (step.operation.account settings).2 (.ok result) :: rest ∧
      result.code = 0 ∧ ∀ event ∈ rest, event.isBind = false := by
  obtain ⟨dn, password, result, rest, hlife, hcode, hrest⟩ :=
    (h.life hmem rfl).of_search_mem (Trace.mem_life.mpr ⟨hmem, rfl⟩)
  obtain ⟨result', hbind⟩ := hbinds.bind_mem
  have hbind := Trace.mem_life.mpr ⟨hbegins.subset hbind, rfl⟩
  rw [hlife] at hbind ⊢
  simp only [List.mem_cons, reduceCtorEq, false_or] at hbind
  rcases hbind with heq | hbind
  · cases heq
    exact ⟨result, rest, rfl, hcode, hrest⟩
  · have hnot := hrest _ hbind
    contradiction

/-- What is held before `connect` or `close` is given up with a word to the server. -/
theorem unbind_mem_events {s : Client (Nat × κ) × (σ × Trace)} {c : Nat × κ}
    (hc : s.1.handle = some c) {operation : Operation}
    (h : operation.isConnect ∨ operation = .close) :
    .unbind c.1 ∈ (Step.mk operation s (perform net.traced settings operation s).1
      (perform net.traced settings operation s).2).events := by
  rcases h with hconnect | rfl
  · obtain ⟨events, htrace, hconnects⟩ := Session.connect_ends net
      (operation.account settings).1 (operation.account settings).2 s
    rw [perform_connect net settings s hconnect, Step.events, htrace, List.drop_left]
    exact hconnects.released hc
  · obtain ⟨events, htrace, -, rfl⟩ := Session.close_ends net s
    have hevents : (perform net.traced settings .close s).2.2.2 =
        s.2.2 ++ released s.1.handle := htrace
    rw [Step.events, hevents, List.drop_left, hc]
    exact List.mem_singleton_self _

/-- Over every run of a new client, on every network, searches keep to connections that `connect`
has bound and users to connections of their own, and what has ended is left alone. -/
theorem run_keptApart (net : Network κ σ) (settings : LdapSettings) (operations : List Operation)
    (world : σ) :
    let steps := run net.traced settings operations ({}, world, [])
    run net settings operations ({}, world) = steps.map (Step.map erased) ∧
      KeptApart net settings steps
        (finalState net.traced settings operations ({}, world, [])).2.2 := by
  intro steps
  refine ⟨run_erased net settings operations ({}, world, []), ?_⟩
  have hnew : Orderly (κ := κ) {} [] := .new
  have hrecord : Orderly (finalState net.traced settings operations ({}, world, [])).1
      (finalState net.traced settings operations ({}, world, [])).2.2 :=
    orderly_invariant.finalState hnew operations
  have hstep : ∀ step ∈ steps, Orderly step.before.1 step.before.2.2 ∧ step =
      ⟨step.operation, step.before, (perform net.traced settings step.operation step.before).1,
        (perform net.traced settings step.operation step.before).2⟩ :=
    fun step hmem => orderly_invariant.of_mem_run hnew hmem
  have hbound : Bound net settings steps
      (finalState net.traced settings operations ({}, world, [])) := by
    have hnew : Bound net settings steps ({}, world, []) := by constructor <;> simp
    exact hnew.run operations (List.Subset.refl _)
  exact {
    searches := fun n request answer hmem => by
      obtain ⟨step, hsteps, hbinds⟩ := hbound.searches n request answer hmem
      exact ⟨step, hsteps, hbinds, hbinds.life_eq hrecord (prefix_of_mem_run hsteps) hmem⟩
    blank := fun step hmem username password hoperation hblank => by
      obtain ⟨-, hmade⟩ := hstep step hmem
      have hverify := Session.verify_of_blank net.traced settings step.before username hblank
      have hafter : (perform net.traced settings (.verify username password) step.before).2 =
          (Session.verify net.traced settings username password step.before).2 := rfl
      rw [hmade, hoperation, hafter, hverify]
    tries := fun step hmem username password hoperation hblank => by
      obtain ⟨hbefore, hmade⟩ := hstep step hmem
      have hbegins := prefix_of_mem_run hmem
      rw [hmade, hoperation] at hbegins ⊢
      exact hrecord.triesApart hbefore hblank hbegins
    unbind_last := fun first n later hsplit => hrecord.unbind_last hsplit
    released := fun step hmem c hc hoperation => by
      obtain ⟨-, hmade⟩ := hstep step hmem
      rw [hmade]
      exact unbind_mem_events hc hoperation }

end DirectoryAuth.Ldap
