import DirectoryAuth.Proofs.Ldap.Erasure
import DirectoryAuth.Proofs.Ldap.Invariant
import DirectoryAuth.Proofs.Ldap.Session

/-! Runs of a directory client: operations in any number and order, each on the client that the
one before it has left. A search is made on the connection that is held, or after `connect`. -/
namespace DirectoryAuth.Ldap

variable {κ σ τ α β : Type}

/-- What a client can be told to do. -/
inductive Operation where
  | connect (dn password : String)
  | connectServiceAccount
  | close
  | findUser (name value : String)
  | findGroup (name value : String)
  | verify (username password : String)

inductive Answer where
  | connected (result : Except DirectoryError Unit)
  | closed
  | user (found : Except DirectoryError (Option User))
  | group (found : Except DirectoryError (Option Group))
  | verdict (accepted : Except DirectoryError Bool)

/-- The error that an operation ends with. -/
def Answer.error? : Answer → Option DirectoryError
  | connected (.error e) => some e
  | user (.error e) => some e
  | group (.error e) => some e
  | verdict (.error e) => some e
  | _ => none

namespace Operation

/-- The name and password that `connect` is called with, if the operation calls it. -/
def account (settings : LdapSettings) : Operation → String × String
  | connect dn password => (dn, password)
  | _ => (settings.bindDn, settings.bindPassword)

/-- The search that the operation makes: an attribute, its value and what is asked for. -/
def search? (settings : LdapSettings) : Operation → Option (String × String × List String)
  | findUser name value => some (name, value, userAttributes settings.attributes)
  | findGroup name value =>
    some (name, value, [settings.attributes.commonName, settings.attributes.member])
  | verify username password =>
    if Text.isBlank password then none
    else some (settings.attributes.accountName, username, userAttributes settings.attributes)
  | _ => none

end Operation

/-- One operation of a run, between two states of client and world. -/
structure Step (κ σ : Type) where
  operation : Operation
  before : Client κ × σ
  answer : Answer
  after : Client κ × σ

def Step.map (f : Client κ × σ → Client α × τ) (step : Step κ σ) : Step α τ :=
  ⟨step.operation, f step.before, step.answer, f step.after⟩

/-- The events that a step adds to the record. -/
def Step.events (step : Step (Nat × κ) (σ × Trace)) : List Event :=
  step.after.2.2.drop step.before.2.2.length

variable (net : Network κ σ) (settings : LdapSettings)

def perform : Operation → Session κ σ Answer
  | .connect dn password => do
    let result ← Session.connect net dn password
    pure (.connected result)
  | .connectServiceAccount => do
    let result ← Session.connectServiceAccount net settings
    pure (.connected result)
  | .close => do
    Session.close net
    pure .closed
  | .findUser name value => do
    let found ← Session.findUser net settings name value
    pure (.user found)
  | .findGroup name value => do
    let found ← Session.findGroup net settings name value
    pure (.group found)
  | .verify username password => do
    let accepted ← Session.verify net settings username password
    pure (.verdict accepted)

def run : List Operation → Client κ × σ → List (Step κ σ)
  | [], _ => []
  | operation :: rest, s =>
    ⟨operation, s, (perform net settings operation s).1, (perform net settings operation s).2⟩ ::
      run rest (perform net settings operation s).2

/-- Client and world at the end of a run. -/
def finalState (operations : List Operation) (s : Client κ × σ) : Client κ × σ :=
  operations.foldl (fun s operation => (perform net settings operation s).2) s

variable {net settings}

/-- What every operation keeps holds before each step of a run, and each step is an operation. -/
theorem of_mem_run {P : Client κ × σ → Prop}
    (hkeep : ∀ s operation, P s → P (perform net settings operation s).2)
    {operations : List Operation} {s : Client κ × σ} (hs : P s) {step : Step κ σ}
    (h : step ∈ run net settings operations s) : P step.before ∧
      step = ⟨step.operation, step.before, (perform net settings step.operation step.before).1,
        (perform net settings step.operation step.before).2⟩ := by
  induction operations generalizing s with
  | nil => contradiction
  | cons operation rest ih =>
    rcases List.mem_cons.mp h with rfl | h
    · exact ⟨hs, rfl⟩
    · exact ih (hkeep s operation hs) h

theorem of_finalState {P : Client κ × σ → Prop}
    (hkeep : ∀ s operation, P s → P (perform net settings operation s).2)
    (operations : List Operation) {s : Client κ × σ} (hs : P s) :
    P (finalState net settings operations s) := by
  induction operations generalizing s with
  | nil => exact hs
  | cons operation rest ih => exact ih (hkeep s operation hs)

namespace Session

theorem erases_findGroup (net : Network κ σ) (settings : LdapSettings) (name value : String) :
    Erases (findGroup net.traced settings name value) (findGroup net settings name value) id := by
  apply Erases.bind (erases_searchFirst net settings name value _)
  intro found
  exact Erases.pure rfl

theorem close_ends (net : Network κ σ) (s : Client (Nat × κ) × (σ × Trace)) :
    Ends (close net.traced) s fun _ client events => client = {} ∧ events = released s.1.handle :=
  Ends.close net ⟨rfl, rfl⟩

end Session

theorem erases_perform (net : Network κ σ) (settings : LdapSettings) (operation : Operation) :
    Session.Erases (perform net.traced settings operation) (perform net settings operation) id := by
  cases operation with
  | connect dn password =>
    exact Session.Erases.bind (Session.erases_connect net dn password) fun _ =>
      Session.Erases.pure rfl
  | connectServiceAccount =>
    exact Session.Erases.bind (Session.erases_connect net _ _) fun _ => Session.Erases.pure rfl
  | close =>
    exact Session.Erases.bind (Session.erases_close net) fun _ => Session.Erases.pure rfl
  | findUser name value =>
    exact Session.Erases.bind (Session.erases_findUser net settings name value) fun _ =>
      Session.Erases.pure rfl
  | findGroup name value =>
    exact Session.Erases.bind (Session.erases_findGroup net settings name value) fun _ =>
      Session.Erases.pure rfl
  | verify username password =>
    exact Session.Erases.bind (Session.erases_verify net settings username password) fun _ =>
      Session.Erases.pure rfl

/-- A run with a record does what the run without it does. -/
theorem run_erased (net : Network κ σ) (settings : LdapSettings) (operations : List Operation)
    (s : Client (Nat × κ) × (σ × Trace)) : run net settings operations (erased s) =
      (run net.traced settings operations s).map (Step.map erased) := by
  induction operations generalizing s with
  | nil => rfl
  | cons operation rest ih =>
    have hstep := erases_perform net settings operation s
    simp only [run, List.map_cons, hstep]
    rw [ih]
    rfl

/-- What lasts through the actions of a client lasts through its operations. -/
theorem Invariant.performs {P : Client (Nat × κ) → Trace → Prop} (hP : Invariant P)
    (net : Network κ σ) (settings : LdapSettings) (s : Client (Nat × κ) × (σ × Trace))
    (operation : Operation) (h : P s.1 s.2.2) :
    P (perform net.traced settings operation s).2.1
      (perform net.traced settings operation s).2.2.2 := by
  cases operation with
  | connect dn password =>
    obtain ⟨events, htrace, hconnects⟩ := Session.connect_ends net dn password s
    exact htrace ▸ hP.connects h hconnects
  | connectServiceAccount =>
    obtain ⟨events, htrace, hconnects⟩ :=
      Session.connect_ends net settings.bindDn settings.bindPassword s
    exact htrace ▸ hP.connects h hconnects
  | close =>
    obtain ⟨events, htrace, hclient, rfl⟩ := Session.close_ends net s
    have hclosed := hP.closes h
    rw [← hclient, ← htrace] at hclosed
    exact hclosed
  | findUser name value =>
    obtain ⟨events, htrace, found, -, hfinds⟩ := Session.findUser_ends net settings name value s
    exact htrace ▸ hP.finds h hfinds
  | findGroup name value =>
    obtain ⟨events, htrace, hfinds⟩ := Session.searchFirst_ends net settings name value
      [settings.attributes.commonName, settings.attributes.member] s
    exact htrace ▸ hP.finds h hfinds
  | verify username password =>
    obtain ⟨events, htrace, hverifies⟩ := Session.verify_ends net settings username password s
    exact htrace ▸ hP.verifies h hverifies

section
variable {P : Client (Nat × κ) → Trace → Prop} (hP : Invariant P)
  {s : Client (Nat × κ) × (σ × Trace)} (hs : P s.1 s.2.2)
include hP hs

/-- An invariant holds before each step of a run, and each step is an operation. -/
theorem Invariant.of_mem_run {operations : List Operation} {step : Step (Nat × κ) (σ × Trace)}
    (h : step ∈ run net.traced settings operations s) : P step.before.1 step.before.2.2 ∧
      step = ⟨step.operation, step.before,
        (perform net.traced settings step.operation step.before).1,
        (perform net.traced settings step.operation step.before).2⟩ :=
  Ldap.of_mem_run (P := fun s => P s.1 s.2.2)
    (fun s operation hs => hP.performs net settings s operation hs) hs h

theorem Invariant.finalState (operations : List Operation) :
    P (finalState net.traced settings operations s).1
      (finalState net.traced settings operations s).2.2 :=
  of_finalState (P := fun s => P s.1 s.2.2)
    (fun s operation hs => hP.performs net settings s operation hs) operations hs

end

section
variable (net : Network κ σ) (settings : LdapSettings) (s : Client (Nat × κ) × (σ × Trace))

/-- A call of `connect` leaves a client bound to a new connection, or one that is unbound. -/
theorem connect_cases (dn password : String) :
    (∃ c t, Session.connect net.traced dn password s =
      (.ok (), ⟨some (Trace.next s.2.2, c), .bound⟩, t)) ∨
    ∃ e t, e ≠ .notConnected ∧ Session.connect net.traced dn password s = (.error e, {}, t) := by
  obtain ⟨events, -, hconnects⟩ := Session.connect_ends net dn password s
  have hpair : Session.connect net.traced dn password s =
      ((Session.connect net.traced dn password s).1, (Session.connect net.traced dn password s).2.1,
        (Session.connect net.traced dn password s).2.2) := rfl
  generalize (Session.connect net.traced dn password s).1 = answer at hpair hconnects
  generalize (Session.connect net.traced dn password s).2.1 = client at hpair hconnects
  cases hconnects with
  | refused reason => exact .inr ⟨_, _, by simp, hpair⟩
  | failed reason => exact .inr ⟨_, _, by simp, hpair⟩
  | rejected result hcode => exact .inr ⟨_, _, by simp, hpair⟩
  | bound result c hcode => exact .inl ⟨c, _, hpair⟩

/-- The call of `connect` that replaces a connection for searches where there is none. -/
abbrev reconnect : Except DirectoryError Unit × Client (Nat × κ) × (σ × Trace) :=
  Session.connect net.traced settings.bindDn settings.bindPassword s

/-- A connection to search on: the one that is held, or where there is none a new one. -/
def HoldsOn (c : Nat × κ) (s' : Client (Nat × κ) × (σ × Trace)) : Prop :=
  (s.1.handle = some c ∧ s' = s) ∨
    s.1.handle = none ∧ settings.bindDn ≠ "" ∧ reconnect net settings s = (.ok (), s') ∧
      s'.1 = ⟨some c, .bound⟩

/-- All that the look for a connection to search on can come to. -/
theorem searchHandle_cases :
    let held := Session.searchHandle net.traced settings s
    (s.1.handle = none ∧ settings.bindDn = "" ∧ held = (.error .notConnected, s)) ∨
    (∃ e s', s.1.handle = none ∧ settings.bindDn ≠ "" ∧
      reconnect net settings s = (.error e, s') ∧ e ≠ .notConnected ∧ held = (.error e, s')) ∨
    ∃ c s', HoldsOn net settings s c s' ∧ held = (.ok c, s') := by
  intro held
  cases hhandle : s.1.handle with
  | some c =>
    exact .inr (.inr ⟨c, s, .inl ⟨hhandle, rfl⟩,
      Session.searchHandle_of_handle net.traced settings s hhandle⟩)
  | none =>
    have hheld : held = _ := Session.searchHandle_apply net.traced settings s hhandle
    by_cases hdn : settings.bindDn = ""
    · rw [if_pos hdn] at hheld
      exact .inl ⟨rfl, hdn, hheld⟩
    · rw [if_neg hdn] at hheld
      rcases connect_cases net s settings.bindDn settings.bindPassword with
        ⟨c, t, hcalled⟩ | ⟨e, t, hne, hcalled⟩
      · rw [hcalled] at hheld
        exact .inr (.inr ⟨_, _, .inr ⟨hhandle, hdn, hcalled, rfl⟩, hheld⟩)
      · rw [hcalled] at hheld
        exact .inr (.inl ⟨e, _, rfl, hdn, hcalled, hne, hheld⟩)

/-- All that a search for the first entry can come to: the search is sent on a connection that is
held, or not at all, be it for want of a connection or of a filter that can be read. -/
theorem searchFirst_cases (name value : String) (wanted : List String) :
    let found := Session.searchFirst net.traced settings name value wanted s
    (s.1.handle = none ∧ settings.bindDn = "" ∧ found = (.error .notConnected, s)) ∨
    (∃ e s', s.1.handle = none ∧ settings.bindDn ≠ "" ∧
      reconnect net settings s = (.error e, s') ∧ e ≠ .notConnected ∧ found = (.error e, s')) ∨
    (∃ c s', HoldsOn net settings s c s' ∧ net.parses ⟨name, value⟩ = false ∧
      found = (.error (.search SearchFailure.filter.message), ⟨none, .error⟩, s'.2)) ∨
    ∃ c s' answer, HoldsOn net settings s c s' ∧ net.parses ⟨name, value⟩ = true ∧
      found.2.2.2 = s'.2.2 ++
        [.search c.1 ⟨settings.userBaseDn, ⟨name, value⟩, wanted⟩ answer] ∧
      found.1 ≠ .error .notConnected ∧
      ((∃ reason, answer = .error reason ∧ found.2.1 = ⟨none, .error⟩) ∨
        ∃ entries, answer = .ok entries ∧ found.2.1 = s'.1) := by
  intro found
  have hfound : found = _ := Session.searchFirst_apply net.traced settings s name value wanted
  rcases searchHandle_cases net settings s with
    ⟨hhandle, hdn, hheld⟩ | ⟨e, s', hhandle, hdn, hcalled, hne, hheld⟩ | ⟨c, s', hholds, hheld⟩
  · rw [hheld] at hfound
    exact .inl ⟨hhandle, hdn, hfound⟩
  · rw [hheld] at hfound
    exact .inr (.inl ⟨e, s', hhandle, hdn, hcalled, hne, hfound⟩)
  · rw [hheld] at hfound
    simp only at hfound
    let request : SearchRequest := ⟨settings.userBaseDn, ⟨name, value⟩, wanted⟩
    cases hparses : net.parses ⟨name, value⟩ with
    | false =>
      rw [net.traced.ask_of_not_parses request hparses] at hfound
      exact .inr (.inr (.inl ⟨c, s', hholds, rfl, hfound⟩))
    | true =>
      refine .inr (.inr (.inr ⟨c, s', ?_⟩))
      rw [net.traced_ask_of_parses request hparses] at hfound
      rcases hsearch : net.search c.2 request s'.2.1 with ⟨reason | answer, after⟩
      · rw [hsearch] at hfound
        rw [hfound]
        refine ⟨.error reason, hholds, rfl, rfl, ?_, .inl ⟨reason, rfl, rfl⟩⟩
        simp
      · rw [hsearch] at hfound
        rw [hfound]
        refine ⟨.ok answer, hholds, rfl, rfl, ?_, .inr ⟨answer, rfl, rfl⟩⟩
        simp only
        split <;> simp

/-- What an operation adds to the record after its search: nothing, or the bind of the user whose
password it checks. -/
inductive Operation.Ending (next : Nat) : Operation → List Event → Prop
  | found (operation : Operation) : Ending next operation []
  | checked (username password dn : String) (answer : Except DirectoryError Bool)
    (events : List Event) (h : Tries dn password next answer events) :
    Ending next (.verify username password) events

/-- An operation goes on from its search with the client that the search leaves: a failure is its
own, and a connection that is not there is missed by the search only. -/
structure Operation.GoesOn (operation : Operation)
    (found : Except DirectoryError (Option Entry) × Client (Nat × κ) × (σ × Trace))
    (done : Answer × Client (Nat × κ) × (σ × Trace)) : Prop where
  client_eq : done.2.1 = found.2.1
  ending : ∃ later, done.2.2.2 = found.2.2.2 ++ later ∧
    operation.Ending (Trace.next found.2.2.2) later
  failed : ∀ e, found.1 = .error e → done.1.error? = some e ∧ done.2 = found.2
  notConnected : done.1.error? = some .notConnected → found.1 = .error .notConnected

/-- A search that is not followed by anything else. -/
theorem Operation.goesOn_of_answer (operation : Operation)
    {found : Except DirectoryError (Option Entry) × Client (Nat × κ) × (σ × Trace)}
    (answer : Except DirectoryError (Option Entry) → Answer)
    (herror : ∀ e, (answer (.error e)).error? = some e)
    (hok : ∀ entry, (answer (.ok entry)).error? = none) :
    operation.GoesOn found (answer found.1, found.2) where
  client_eq := rfl
  ending := ⟨[], (List.append_nil _).symm, .found _⟩
  failed e he := by
    rw [he]
    exact ⟨herror e, rfl⟩
  notConnected he := by
    cases hfound : found.1 with
    | error e =>
      rw [hfound, herror] at he
      rw [Option.some.inj he]
    | ok entry =>
      rw [hfound, hok] at he
      contradiction

theorem Tries.error?_ne {dn password : String} {next : Nat} {answer : Except DirectoryError Bool}
    {events : List Event} (h : Tries dn password next answer events) :
    (Answer.verdict answer).error? ≠ some .notConnected := by
  cases h <;> simp [Answer.error?]

theorem perform_goesOn {operation : Operation} {name value : String} {wanted : List String}
    (h : operation.search? settings = some (name, value, wanted)) :
    operation.GoesOn (Session.searchFirst net.traced settings name value wanted s)
      (perform net.traced settings operation s) := by
  cases operation with
  | connect dn password => contradiction
  | connectServiceAccount => contradiction
  | close => contradiction
  | findUser name' value' =>
    cases h
    exact Operation.goesOn_of_answer _ (fun found => .user (found.map _))
      (fun _ => rfl) (fun _ => rfl)
  | findGroup name' value' =>
    cases h
    exact Operation.goesOn_of_answer _ (fun found => .group (found.map _))
      (fun _ => rfl) (fun _ => rfl)
  | verify username password =>
    simp only [Operation.search?] at h
    split at h
    · contradiction
    next hblank =>
    cases h
    have hverify := Session.verify_apply net.traced settings s value (Bool.not_eq_true _ ▸ hblank)
    have hdone : perform net.traced settings (.verify value password) s =
        (.verdict (Session.verify net.traced settings value password s).1,
          (Session.verify net.traced settings value password s).2) := rfl
    rw [hdone, hverify]
    rcases Session.searchFirst net.traced settings settings.attributes.accountName value
      (userAttributes settings.attributes) s with ⟨e | _ | entry, s'⟩
    · exact Operation.goesOn_of_answer _ (fun found => .verdict (found.map fun _ => false))
        (fun _ => rfl) (fun _ => rfl)
    · exact Operation.goesOn_of_answer _ (fun found => .verdict (found.map fun _ => false))
        (fun _ => rfl) (fun _ => rfl)
    · obtain ⟨events, htrace, hclient, htries⟩ := Session.tryBind_ends net
        (entryBindDn settings.attributes entry) password s'
      refine ⟨hclient, ⟨events, htrace, .checked _ _ _ _ _ htries⟩, fun e he => ?_, fun he => ?_⟩
      · contradiction
      · exact absurd he htries.error?_ne
end

end DirectoryAuth.Ldap
