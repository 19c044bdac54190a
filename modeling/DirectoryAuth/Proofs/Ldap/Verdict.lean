import DirectoryAuth.Ldap.MemoryServer
import DirectoryAuth.Proofs.Ldap.Filter
import DirectoryAuth.Proofs.Ldap.Session

/-! What the answers of a network decide about a check of a password. A password is right if the
search for its user and the bind as that user are both answered with success, and wrong if either
answer says so; whatever else happens on the way is an error. -/
namespace DirectoryAuth.Ldap

variable {κ σ : Type} (net : Network κ σ) (settings : LdapSettings)

/-- A connection to search on, with client and world as they are then: the connection that is held,
or where there is none a new one that is bound as the service account. -/
def Available (s : Client κ × σ) (c : κ) (held : Client κ × σ) : Prop :=
  (s.1.handle = some c ∧ held = s) ∨
    s.1.handle = none ∧ settings.bindDn ≠ "" ∧ ∃ opened result bound,
      net.connect s.2 = (.ok c, opened) ∧
      net.bind c settings.bindDn settings.bindPassword opened = (.ok result, bound) ∧
      result.code = 0 ∧ held = (⟨some c, .bound⟩, bound)

/-- The library can read the filter that finds the user. -/
def Readable (username : String) : Prop :=
  net.parses (userFilter settings.attributes username) = true

instance (username : String) : Decidable (Readable net settings username) :=
  inferInstanceAs (Decidable (_ = _))

/-- The search for a user is made and answered with success; `first?` is the first entry of the
answer and `world` what it leaves. -/
def Found (username : String) (s : Client κ × σ) (first? : Option Entry) (world : σ) : Prop :=
  ∃ c held answer, Available net settings s c held ∧ Readable net settings username ∧
    net.search c (userSearch settings username) held.2 = (.ok answer, world) ∧
    answer.result.code = 0 ∧ answer.entries.head? = first?

/-- A new connection is opened and a bind on it is answered, with this code. -/
def Answered (dn password : String) (world : σ) (code : Nat) : Prop :=
  ∃ c opened result bound, net.connect world = (.ok c, opened) ∧
    net.bind c dn password opened = (.ok result, bound) ∧ result.code = code

/-- What the answers of the network decide about a password that is not blank: the verdict, and
whether the client still holds the connection that it has searched on. -/
structure Decided (username password : String) (s : Client κ × σ)
    (done : Except DirectoryError Bool × Client κ × σ) : Prop where
  accepted_iff : done.1 = .ok true ↔
    ∃ entry world, Found net settings username s (some entry) world ∧
      Answered net (entryBindDn settings.attributes entry) password world 0
  refused_iff : done.1 = .ok false ↔ (∃ world, Found net settings username s none world) ∨
    ∃ entry world code, Found net settings username s (some entry) world ∧
      Answered net (entryBindDn settings.attributes entry) password world code ∧ code ≠ 0
  no_account : s.1.handle = none → settings.bindDn = "" → done.1 = .error .notConnected
  unavailable : (∀ c held, ¬Available net settings s c held) → ∃ e, done.1 = .error e
  /-- Nothing is sent with a filter that the library cannot read. -/
  search_unsent : ∀ c held, Available net settings s c held → ¬Readable net settings username →
    done = (.error (.search "filter parse error"), ⟨none, .error⟩, held.2)
  search_failed : ∀ c held reason world, Available net settings s c held →
    Readable net settings username →
    net.search c (userSearch settings username) held.2 = (.error reason, world) →
    done = (.error (.search reason), ⟨none, .error⟩, world)
  search_rejected : ∀ c held answer world, Available net settings s c held →
    Readable net settings username →
    net.search c (userSearch settings username) held.2 = (.ok answer, world) →
    answer.result.code ≠ 0 →
    done.1 = .error (.search answer.result.message) ∧ done.2.1.handle = some c
  connection_refused : ∀ entry world reason after,
    Found net settings username s (some entry) world →
    net.connect world = (.error reason, after) → done.1 = .error (.connection reason)
  connection_broken : ∀ entry world c opened reason after,
    Found net settings username s (some entry) world → net.connect world = (.ok c, opened) →
    net.bind c (entryBindDn settings.attributes entry) password opened = (.error reason, after) →
    done.1 = .error (.connection ("User bind failed: " ++ reason))
  /-- A search that fails in transport gives up the connection, one that cannot be sent does so too,
  and nothing else does. -/
  dropped_iff : ∀ c held, Available net settings s c held → (done.2.1.handle ≠ some c ↔
    ¬Readable net settings username ∨
    ∃ reason world, net.search c (userSearch settings username) held.2 = (.error reason, world))

variable {net settings} {s : Client κ × σ}

theorem Available.handle_eq {c : κ} {held : Client κ × σ} (h : Available net settings s c held) :
    held.1.handle = some c := by
  rcases h with ⟨h, rfl⟩ | ⟨-, -, _, _, _, -, -, -, rfl⟩
  · exact h
  · rfl

/-- The look for a connection finds what is available. -/
theorem Available.searchHandle_eq {c : κ} {held : Client κ × σ}
    (h : Available net settings s c held) :
    Session.searchHandle net settings s = (.ok c, held) := by
  rcases h with ⟨hhandle, rfl⟩ | ⟨hnone, hdn, opened, result, bound, hopen, hbind, hcode, rfl⟩
  · exact Session.searchHandle_of_handle net settings held hhandle
  · rw [Session.searchHandle_apply net settings s hnone, if_neg hdn,
      Session.connect_apply net s hnone, hopen]
    simp only [hbind, hcode, ↓reduceIte]

/-- Where no connection is available, the look for one fails. -/
theorem Session.searchHandle_of_not_available (h : ∀ c held, ¬Available net settings s c held) :
    ∃ e after, Session.searchHandle net settings s = (.error e, after) := by
  cases hhandle : s.1.handle with
  | some c => exact absurd (.inl ⟨hhandle, rfl⟩) (h c s)
  | none =>
    rw [Session.searchHandle_apply net settings s hhandle]
    by_cases hdn : settings.bindDn = ""
    · rw [if_pos hdn]
      exact ⟨_, _, rfl⟩
    · rw [if_neg hdn, Session.connect_apply net s hhandle]
      rcases hopen : net.connect s.2 with ⟨reason | c, opened⟩
      · exact ⟨_, _, rfl⟩
      · rcases hbind : net.bind c settings.bindDn settings.bindPassword opened with
          ⟨reason | result, bound⟩
        · simp only [hbind]
          exact ⟨_, _, rfl⟩
        · by_cases hcode : result.code = 0
          · exact absurd (.inr ⟨hhandle, hdn, opened, result, bound, hopen, hbind, hcode, rfl⟩)
              (h c (⟨some c, .bound⟩, bound))
          · simp only [hbind, hcode, ↓reduceIte]
            exact ⟨_, _, rfl⟩

variable (net settings s)

section
variable {net : Network κ σ} {settings : LdapSettings} {s : Client κ × σ} {c : κ}
  {held : Client κ × σ} (h : Available net settings s c held) (username : String)
  {password : String} (hblank : Text.isBlank password = false)
include h hblank

/-- A filter that cannot be read is not asked about. -/
theorem Available.verify_of_not_readable (hreadable : ¬Readable net settings username) :
    Session.verify net settings username password s =
      (.error (.search "filter parse error"), ⟨none, .error⟩, held.2) := by
  have hask := net.ask_of_not_parses (userSearch settings username)
    (Bool.eq_false_iff.mpr hreadable) c held.2
  simp only [userSearch, userFilter] at hask
  rw [Session.verify_apply net settings s username hblank, Session.searchFirst_apply,
    h.searchHandle_eq]
  simp only [hask]
  rfl

/-- No verdict is given on a user whose filter cannot be read. -/
theorem Available.readable_of_verify {accepted : Bool}
    (hok : (Session.verify net settings username password s).1 = .ok accepted) :
    Readable net settings username := by
  by_cases hreadable : Readable net settings username
  · exact hreadable
  · rw [h.verify_of_not_readable username hblank hreadable] at hok
    contradiction

/-- On a connection that is available, the answer to the search decides what comes next. -/
theorem Available.verify_eq (hreadable : Readable net settings username) :
    Session.verify net settings username password s =
      match net.search c (userSearch settings username) held.2 with
      | (.error reason, after) => (.error (.search reason), ⟨none, .error⟩, after)
      | (.ok answer, after) =>
        if answer.result.code = 0 then
          match answer.entries.head? with
          | none => (.ok false, held.1, after)
          | some entry =>
            Session.tryBind net (entryBindDn settings.attributes entry) password (held.1, after)
        else (.error (.search answer.result.message), held.1, after) := by
  have hask := net.ask_of_parses (userSearch settings username) hreadable c held.2
  simp only [userSearch, userFilter] at hask
  rw [Session.verify_apply net settings s username hblank, Session.searchFirst_apply,
    h.searchHandle_eq]
  simp only [userSearch, userFilter, hask]
  rcases net.search c _ held.2 with ⟨reason | answer, after⟩
  · rfl
  · by_cases hcode : answer.result.code = 0
    · simp only [hcode, ↓reduceIte]
      cases answer.entries.head? <;> rfl
    · simp only [hcode, ↓reduceIte]

end

/-- A bind has a verdict if it is answered, and the code of the answer decides it. -/
theorem Session.tryBind_eq_ok_iff (dn password : String) (accepted : Bool) :
    (Session.tryBind net dn password s).1 = .ok accepted ↔
      ∃ code, Answered net dn password s.2 code ∧ (code == 0) = accepted := by
  rw [Session.tryBind_apply]
  constructor
  · intro h
    rcases hopen : net.connect s.2 with ⟨reason | c, opened⟩
    · simp [hopen] at h
    · rcases hbind : net.bind c dn password opened with ⟨reason | result, bound⟩
      · simp [hopen, hbind] at h
      · simp only [hopen, hbind, Except.ok.injEq] at h
        exact ⟨result.code, ⟨c, opened, result, bound, hopen, hbind, rfl⟩, h⟩
  · rintro ⟨code, ⟨c, opened, result, bound, hopen, hbind, rfl⟩, rfl⟩
    simp only [hopen, hbind]

variable {net settings s}

/-- Once the search is answered with success, its first entry decides what comes next. -/
theorem Found.verify_eq {username : String} {first? : Option Entry} {world : σ}
    (h : Found net settings username s first? world) {password : String}
    (hblank : Text.isBlank password = false) :
    ∃ c held, Available net settings s c held ∧
      Session.verify net settings username password s =
        first?.elim (.ok false, held.1, world) fun entry =>
          Session.tryBind net (entryBindDn settings.attributes entry) password (held.1, world) := by
  obtain ⟨c, held, answer, havailable, hreadable, hsearch, hcode, hhead⟩ := h
  refine ⟨c, held, havailable, ?_⟩
  rw [havailable.verify_eq username hblank hreadable, hsearch]
  simp only [hcode, hhead, ↓reduceIte]
  cases first? <;> rfl

variable (net settings s)

/-- The two ways to a verdict: no entry is found, or the bind as the first one is answered. -/
theorem Session.verify_eq_ok_iff (username : String) {password : String}
    (hblank : Text.isBlank password = false) (accepted : Bool) :
    (Session.verify net settings username password s).1 = .ok accepted ↔
      (accepted = false ∧ ∃ world, Found net settings username s none world) ∨
      ∃ entry world code, Found net settings username s (some entry) world ∧
        Answered net (entryBindDn settings.attributes entry) password world code ∧
        (code == 0) = accepted := by
  constructor
  · intro h
    by_cases havailable : ∃ c held, Available net settings s c held
    · obtain ⟨c, held, havailable⟩ := havailable
      have hreadable := havailable.readable_of_verify username hblank h
      rw [havailable.verify_eq username hblank hreadable] at h
      rcases hsearch : net.search c (userSearch settings username) held.2 with
        ⟨reason | answer, world⟩
      · simp [hsearch] at h
      · by_cases hcode : answer.result.code = 0
        · have hfound : Found net settings username s answer.entries.head? world :=
            ⟨c, held, answer, havailable, hreadable, hsearch, hcode, rfl⟩
          simp only [hsearch, hcode, ↓reduceIte] at h
          cases hhead : answer.entries.head? with
          | none =>
            simp only [hhead, Except.ok.injEq] at h
            exact .inl ⟨h.symm, world, hhead ▸ hfound⟩
          | some entry =>
            simp only [hhead] at h
            obtain ⟨code, hanswered, hcode⟩ := (Session.tryBind_eq_ok_iff ..).mp h
            exact .inr ⟨entry, world, code, hhead ▸ hfound, hanswered, hcode⟩
        · simp [hsearch, hcode] at h
    · simp only [not_exists] at havailable
      obtain ⟨e, after, herror⟩ := Session.searchHandle_of_not_available havailable
      rw [Session.verify_of_searchHandle net settings s hblank herror] at h
      contradiction
  · rintro (⟨rfl, world, hfound⟩ | ⟨entry, world, code, hfound, hanswered, hcode⟩)
    · obtain ⟨c, held, -, heq⟩ := hfound.verify_eq hblank
      rw [heq]
      rfl
    · obtain ⟨c, held, -, heq⟩ := hfound.verify_eq hblank
      rw [heq]
      exact (Session.tryBind_eq_ok_iff ..).mpr ⟨code, hanswered, hcode⟩

theorem decided_of_not_blank (username : String) {password : String}
    (hblank : Text.isBlank password = false) :
    Decided net settings username password s
      (Session.verify net settings username password s) where
  accepted_iff := by simp [Session.verify_eq_ok_iff net settings s username hblank]
  refused_iff := by simp [Session.verify_eq_ok_iff net settings s username hblank]
  no_account hhandle hdn := by
    have herror := Session.searchHandle_apply net settings s hhandle
    rw [if_pos hdn] at herror
    rw [Session.verify_of_searchHandle net settings s hblank herror]
  unavailable h := by
    obtain ⟨e, after, herror⟩ := Session.searchHandle_of_not_available h
    exact ⟨e, by rw [Session.verify_of_searchHandle net settings s hblank herror]⟩
  search_unsent c held havailable hreadable :=
    havailable.verify_of_not_readable username hblank hreadable
  search_failed c held reason world havailable hreadable hsearch := by
    rw [havailable.verify_eq username hblank hreadable, hsearch]
  search_rejected c held answer world havailable hreadable hsearch hcode := by
    rw [havailable.verify_eq username hblank hreadable, hsearch]
    simp only [hcode, ↓reduceIte]
    exact ⟨trivial, havailable.handle_eq⟩
  connection_refused entry world reason after hfound hopen := by
    obtain ⟨c, held, -, heq⟩ := hfound.verify_eq hblank
    simp only [heq, Option.elim, Session.tryBind_apply, hopen]
  connection_broken entry world c opened reason after hfound hopen hbind := by
    obtain ⟨_, held, -, heq⟩ := hfound.verify_eq hblank
    simp only [heq, Option.elim, Session.tryBind_apply, hopen, hbind]
  dropped_iff c held havailable := by
    by_cases hreadable : Readable net settings username
    · rw [havailable.verify_eq username hblank hreadable]
      rcases net.search c (userSearch settings username) held.2 with ⟨reason | answer, world⟩
      · simp
      · have hkept := havailable.handle_eq
        by_cases hcode : answer.result.code = 0
        · cases hhead : answer.entries.head? <;>
            simp [hcode, hhead, hkept, hreadable, Session.tryBind_client]
        · simp [hcode, hkept, hreadable]
    · rw [havailable.verify_of_not_readable username hblank hreadable]
      simp [hreadable]

section
variable {net : Network κ σ} {settings : LdapSettings} {s : Client κ × σ}
  (hparses : net.parses = Filter.wellFormed)
include hparses

/-- Either all users can be looked for or none. -/
theorem readable_username (username username' : String) :
    Readable net settings username ↔ Readable net settings username' := by
  rw [Readable, Readable, hparses, userFilter, userFilter, Filter.wellFormed_value]

/-- With an account attribute that is the description of one, the connection is given up exactly if
the search for the user fails in transport. -/
theorem dropped_iff_of_isAttributeDescription
    (hname : Filter.isAttributeDescription settings.attributes.accountName.toList = true)
    (username : String) {password : String} (hblank : Text.isBlank password = false) {c : κ}
    {held : Client κ × σ} (h : Available net settings s c held) :
    (Session.verify net settings username password s).2.1.handle ≠ some c ↔
      ∃ reason world,
        net.search c (userSearch settings username) held.2 = (.error reason, world) := by
  have hreadable : Readable net settings username := by
    rw [Readable, hparses]
    exact Filter.wellFormed_of_isAttributeDescription hname username
  have hdropped := (decided_of_not_blank net settings s username hblank).dropped_iff c held h
  rwa [or_iff_right (not_not_intro hreadable)] at hdropped

end

/-- What the answers of the network decide about a check of a password: a blank one is refused
with the world and the client left as they are. -/
theorem verify_decided (username password : String) :
    if Text.isBlank password then
      Session.verify net settings username password s = (.ok false, s)
    else Decided net settings username password s
      (Session.verify net settings username password s) := by
  cases hblank : Text.isBlank password with
  | true => exact Session.verify_of_blank net settings s username hblank
  | false => exact decided_of_not_blank net settings s username hblank

/-- A connection is given up though its server would answer every search: the account attribute
makes no filter, so that the server is not even asked. -/
theorem dropped_for_unreadable_filter :
    let settings : LdapSettings :=
      { bindDn := "cn=service", bindPassword := "pw", attributes := { accountName := "a b" } }
    let server : MemoryServer := { accounts := ⟨[("cn=service", "pw")]⟩ }
    (∀ request, ∃ answer, (MemoryServer.network.search () request server).1 = .ok answer) ∧
      Session.verify MemoryServer.network settings "alice" "secret" (⟨some (), .bound⟩, server) =
        (.error (.search "filter parse error"), ⟨none, .error⟩, server) := by
  intro settings server
  have hheld : Available MemoryServer.network settings (⟨some (), .bound⟩, server) ()
      (⟨some (), .bound⟩, server) := .inl ⟨rfl, rfl⟩
  exact ⟨fun request => ⟨_, rfl⟩, hheld.verify_of_not_readable "alice" (by decide) (by decide)⟩

end DirectoryAuth.Ldap
