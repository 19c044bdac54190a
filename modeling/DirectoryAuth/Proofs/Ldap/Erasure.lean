import DirectoryAuth.Proofs.Ldap.Outcome

/-! A network with a record does what it does without one: forgetting the record and the numbers of
connections turns every action of a client into the same action on the bare network. -/
namespace DirectoryAuth.Ldap

variable {κ σ α β α' β' : Type}

/-- A state without its record and without the numbers of connections. -/
def erased (s : Client (Nat × κ) × (σ × Trace)) : Client κ × σ :=
  (⟨s.1.handle.map (·.2), s.1.state⟩, s.2.1)

namespace Session

/-- An action comes to another one, with its answer read by `f`, once records are forgotten. -/
def Erases (m : Session (Nat × κ) (σ × Trace) α) (m' : Session κ σ α') (f : α → α') : Prop :=
  ∀ s, m' (erased s) = (f (m s).1, erased (m s).2)

theorem Erases.pure {a : α} {a' : α'} {f : α → α'} (h : f a = a') :
    Erases (κ := κ) (σ := σ) (Pure.pure a) (Pure.pure a') f := by
  subst h
  exact fun _ => rfl

theorem Erases.bind {m : Session (Nat × κ) (σ × Trace) α} {m' : Session κ σ α'}
    {k : α → Session (Nat × κ) (σ × Trace) β} {k' : α' → Session κ σ β'} {f : α → α'} {g : β → β'}
    (hm : Erases m m' f) (hk : ∀ a, Erases (k a) (k' (f a)) g) :
    Erases (m >>= k) (m' >>= k') g := by
  intro s
  change k' (m' (erased s)).1 (m' (erased s)).2 = _
  rw [hm s]
  exact hk _ _

theorem Erases.client_bind {k : Client (Nat × κ) → Session (Nat × κ) (σ × Trace) β}
    {k' : Client κ → Session κ σ β'} {g : β → β'}
    (hk : ∀ c : Client (Nat × κ), Erases (k c) (k' ⟨c.handle.map (·.2), c.state⟩) g) :
    Erases (client >>= k) (client >>= k') g := fun s => hk s.1 s

theorem Erases.setClient {handle : Option (Nat × κ)} {handle' : Option κ} (state : ClientState)
    (h : handle.map (·.2) = handle') : Erases (κ := κ) (σ := σ) (setClient ⟨handle, state⟩)
      (setClient ⟨handle', state⟩) id := by
  subst h
  exact fun _ => rfl

variable (net : Network κ σ) (settings : LdapSettings)

theorem erases_open : Erases (κ := κ) (outside net.traced.connect) (outside net.connect)
    (Except.map (·.2)) := by
  rintro ⟨client, world, trace⟩
  cases h : net.connect world with
  | mk answer world' =>
    simp only [outside, Network.traced, erased, h]
    cases answer <;> rfl

theorem erases_bind (c : Nat × κ) (dn password : String) :
    Erases (κ := κ) (outside (net.traced.bind c dn password))
      (outside (net.bind c.2 dn password)) id :=
  fun _ => rfl

theorem erases_ask (c : Nat × κ) (request : SearchRequest) :
    Erases (κ := κ) (outside (net.traced.ask c request)) (outside (net.ask c.2 request)) id := by
  intro s
  cases hparses : net.parses request.filter with
  | false =>
    simp only [outside, erased, net.ask_of_not_parses request hparses,
      net.traced.ask_of_not_parses request hparses]
    rfl
  | true =>
    simp only [outside, erased, net.ask_of_parses request hparses,
      net.traced_ask_of_parses request hparses]
    rcases net.search c.2 request s.2.1 with ⟨reason | answer, world⟩ <;> rfl

theorem erases_unbind (c : Nat × κ) : Erases (unbind net.traced c) (unbind net c.2) id :=
  fun _ => rfl

theorem erases_unbindOld (old : Option (Nat × κ)) :
    Erases (unbindOld net.traced old) (unbindOld net (old.map (·.2))) id := by
  cases old with
  | none => exact Erases.pure rfl
  | some c => exact erases_unbind net c

theorem erases_close : Erases (close net.traced) (close net) id := by
  apply Erases.client_bind
  intro c
  apply Erases.bind (Erases.setClient .unbound rfl)
  intro _
  exact erases_unbindOld net c.handle

theorem erases_connect (dn password : String) :
    Erases (connect net.traced dn password) (connect net dn password) id := by
  apply Erases.bind (erases_open net)
  intro opening
  cases opening with
  | error reason => exact Erases.bind (erases_close net) fun _ => Erases.pure rfl
  | ok c =>
    apply Erases.bind (erases_bind net c dn password)
    intro answer
    cases answer with
    | error reason => exact Erases.bind (erases_close net) fun _ => Erases.pure rfl
    | ok result =>
      by_cases hcode : result.code = 0
      · simp only [id, hcode, ↓reduceIte]
        apply Erases.client_bind
        intro client
        apply Erases.bind (Erases.setClient .bound rfl)
        intro _
        exact Erases.bind (erases_unbindOld net client.handle) fun _ => Erases.pure rfl
      · simp only [id, hcode, ↓reduceIte]
        apply Erases.bind (erases_unbind net c)
        intro _
        exact Erases.bind (erases_close net) fun _ => Erases.pure rfl

theorem erases_searchHandle : Erases (searchHandle net.traced settings) (searchHandle net settings)
    (Except.map (·.2)) := by
  apply Erases.client_bind
  intro client
  cases client.handle with
  | some c => exact Erases.pure rfl
  | none =>
    by_cases hdn : settings.bindDn = ""
    · simp only [hdn, ↓reduceIte]
      exact Erases.pure rfl
    · simp only [hdn, ↓reduceIte]
      apply Erases.bind (erases_connect net settings.bindDn settings.bindPassword)
      intro answer
      cases answer with
      | error e => exact Erases.pure rfl
      | ok _ =>
        apply Erases.client_bind
        intro connected
        cases connected.handle with
        | some c => exact Erases.pure rfl
        | none => exact Erases.pure rfl

theorem erases_searchFirst (name value : String) (wanted : List String) :
    Erases (searchFirst net.traced settings name value wanted)
      (searchFirst net settings name value wanted) id := by
  apply Erases.bind (erases_searchHandle net settings)
  intro held
  cases held with
  | error e => exact Erases.pure rfl
  | ok c =>
    apply Erases.bind (erases_ask net c ⟨settings.userBaseDn, ⟨name, value⟩, wanted⟩)
    intro answer
    cases answer with
    | error reason => exact Erases.bind (Erases.setClient .error rfl) fun _ => Erases.pure rfl
    | ok answer =>
      by_cases hcode : answer.result.code = 0
      · simp only [id, hcode, ↓reduceIte]
        exact Erases.pure rfl
      · simp only [id, hcode, ↓reduceIte]
        exact Erases.pure rfl

theorem erases_tryBind (dn password : String) :
    Erases (tryBind net.traced dn password) (tryBind net dn password) id := by
  apply Erases.bind (erases_open net)
  intro opening
  cases opening with
  | error reason => exact Erases.pure rfl
  | ok c =>
    apply Erases.bind (erases_bind net c dn password)
    intro answer
    cases answer with
    | error reason => exact Erases.pure rfl
    | ok result => exact Erases.bind (erases_unbind net c) fun _ => Erases.pure rfl

theorem erases_findUser (name value : String) :
    Erases (findUser net.traced settings name value) (findUser net settings name value) id := by
  apply Erases.bind (erases_searchFirst net settings name value _)
  intro found
  exact Erases.pure rfl

/-- A password is checked alike with and without a record. -/
theorem erases_verify (username password : String) :
    Erases (verify net.traced settings username password) (verify net settings username password)
      id := by
  rw [verify, verify]
  cases Text.isBlank password with
  | true => exact Erases.pure rfl
  | false =>
    apply Erases.bind (erases_findUser net settings settings.attributes.accountName username)
    intro found
    cases found with
    | error e => exact Erases.pure rfl
    | ok user =>
      cases user with
      | none => exact Erases.pure rfl
      | some user => exact erases_tryBind net _ password

end Session

end DirectoryAuth.Ldap
