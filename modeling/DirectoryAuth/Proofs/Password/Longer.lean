import DirectoryAuth.Directory.Memory
import DirectoryAuth.Proofs.Coordinator.Freshness
import DirectoryAuth.Proofs.Coordinator.Origin
import DirectoryAuth.Proofs.Password
import DirectoryAuth.Proofs.StaticList

/-! A longer password in place of a password. Credentials, lists of them and remembered attempts are
all compared by the digest, so each takes the longer password for the other one exactly where the
digest loses what follows. -/
namespace DirectoryAuth
open Password (LostIn)

section
variable (username : String) {salt : Bytes} {password other : String}

theorem Credential.matchesPassword_ofPassword_iff :
    (ofPassword username password salt).matchesPassword other salt = true ↔
      Password.digest? salt other = Password.digest? salt password :=
  matchesPassword_eq_true_iff

theorem Credential.isDuplicate_ofPassword_iff :
    (ofPassword username password salt).isDuplicate (ofPassword username other salt) = true ↔
      Password.digest? salt other = Password.digest? salt password := by
  rw [isDuplicate_eq_true_iff]
  exact (and_iff_right rfl).trans eq_comm

theorem StaticList.authenticate_ofPassword_iff {username : String} {list : StaticList}
    (h : list.credentials.get? username = some (.ofPassword username password salt)) {σ : Type}
    (now : σ → Instant × σ) (drawn : Bytes) (s : σ) :
    (list.authenticate now username other drawn s).1.status = .success ↔
      Password.digest? salt other = Password.digest? salt password := by
  rw [status_authenticate_eq_success_iff, h]
  simp [Credential.ofPassword]

end

namespace Coordinator

variable {σ : Type} {settings : CacheSettings} {salt : Bytes} {c : Coordinator}
  {start : Instant} {earlier : Attempt}

/-- In a run, the attempt with a password is repeated for another password of the user if it is
repeated for its own one and the digests agree. -/
theorem replayed?_ofPassword_iff {w : World σ} {operations : List Operation} {s : σ} {step : Step σ}
    (h : step ∈ run w operations (ofSettings settings salt) s) {username password other : String}
    (hearlier : earlier.credential = some (.ofPassword username password salt)) :
    step.before.replayed? (.ofPassword username other salt) start = some earlier ↔
      Password.digest? salt other = Password.digest? salt password ∧
        step.before.replayed? (.ofPassword username password salt) start = some earlier := by
  obtain ⟨hc, past, hpast⟩ := remembers_of_mem_run h
  have hsame (hdigest : Password.digest? salt other = Password.digest? salt password) :
      Credential.ofPassword username other salt = .ofPassword username password salt := by
    simp only [Credential.ofPassword, hdigest]
  constructor
  · intro hreplayed
    obtain ⟨⟨name, digest⟩, hslot, hown⟩ := hpast.slot?_of_replayed? hc hreplayed
    rw [hearlier, Option.bind_some, Credential.slot?_ofPassword_eq_some_iff] at hown
    rw [Credential.slot?_ofPassword_eq_some_iff] at hslot
    have hdigest := hslot.2.2.trans hown.2.2.symm
    exact ⟨hdigest, hsame hdigest ▸ hreplayed⟩
  · rintro ⟨hdigest, hreplayed⟩
    rwa [hsame hdigest]

/-- The operation after a request starts where the request ended. -/
theorem exists_mem_run_after (w : World σ) (c : Coordinator) (request : Request)
    (operation : Operation) (s : σ) :
    ∃ step ∈ run w [.authenticate request, operation] c s,
      step.before = (c.turn w request s).2 :=
  ⟨_, List.mem_cons_of_mem _ List.mem_cons_self, rfl⟩

end Coordinator

namespace Credential
open Coordinator (run turns ofSettings)

/-- Nothing but NULs can follow a password unnoticed, collisions of the key derivation apart: a
credential made from the password matches the longer one, and is a duplicate of its credential; a
list with that credential lets the longer password in; and a request with the longer password is
answered with a remembered attempt of the password. Each of these happens exactly if what follows is
lost in the digest. -/
theorem longer_password_accepted_iff (username : String) (salt : Bytes) {password more : String}
    (hpassword : Text.isBlank password = false)
    (hlength : (utf8 (password ++ more)).length ≤ 64) :
    let stored := ofPassword username password salt
    let longer := ofPassword username (password ++ more) salt
    (stored.matchesPassword (password ++ more) salt = true ↔ LostIn salt password more) ∧
    (stored.isDuplicate longer = true ↔ LostIn salt password more) ∧
    (∀ (σ : Type) (now : σ → Instant × σ) (list : StaticList) (drawn : Bytes) (s : σ),
      list.credentials.get? username = some stored →
      ((list.authenticate now username (password ++ more) drawn s).1.status = .success ↔
        LostIn salt password more)) ∧
    ∀ (σ : Type) (w : World σ) (settings : CacheSettings) (operations : List Operation) (s : σ),
      ∀ step ∈ run w operations (ofSettings settings salt) s, ∀ s' earlier,
      earlier.credential = some stored →
        (step.before.replayed? longer (w.now s').1 = some earlier ↔
          LostIn salt password more ∧ step.before.replayed? stored (w.now s').1 = some earlier) ∧
        (step.before.replayed? longer (w.now s').1 = some earlier →
          (step.before.turn w ⟨username, password ++ more⟩ s').1.Replays earlier) := by
  intro stored longer
  have hlost := Password.digest?_append_eq_iff salt hpassword hlength
  refine ⟨?_, ?_, ?_, ?_⟩
  · rw [← hlost]
    exact matchesPassword_ofPassword_iff username
  · rw [← hlost]
    exact isDuplicate_ofPassword_iff username
  · intro σ now list drawn s hstored
    rw [← hlost]
    exact StaticList.authenticate_ofPassword_iff hstored now drawn s
  · intro σ w settings operations s step hstep s' earlier hearlier
    rw [← hlost]
    refine ⟨Coordinator.replayed?_ofPassword_iff hstep hearlier, fun hreplayed =>
      Coordinator.turn_replays ?_⟩
    rwa [Coordinator.credentialOf, (Coordinator.remembers_of_mem_run hstep).1.salt_eq]

/-- A NUL after a password makes no other password. -/
theorem trailing_nul_accepted : ¬∀ (username : String) (salt : Bytes) (password more : String),
    Text.isBlank password = false → more ≠ "" → (utf8 (password ++ more)).length ≤ 64 →
    (ofPassword username password salt).matchesPassword (password ++ more) salt = false ∧
      (ofPassword username password salt).isDuplicate
        (ofPassword username (password ++ more) salt) = false := by
  intro h
  obtain ⟨hmatches, -⟩ := h "bob" [0] "a" "\x00" (by decide) (by decide) (by decide)
  have hdigest : Password.digest? [0] ("a" ++ "\x00") = Password.digest? [0] "a" :=
    (Password.digest?_append_eq_iff [0] (by decide) (by decide)).mpr
      (.inl fun _ => List.mem_singleton.mp)
  rw [(matchesPassword_ofPassword_iff "bob").mpr hdigest] at hmatches
  contradiction

/-- A user with a NUL too much, on a list and right after a login without it. -/
theorem longer_password_accepted_iff_nul :
    let more := "\x00"
    let stored := ofPassword "bob" "secret" [7]
    let directory : MemoryDirectory := { users := ⟨[("bob", "secret")]⟩ }
    Text.isBlank "secret" = false ∧ (utf8 ("secret" ++ more)).length ≤ 64 ∧
    stored.matchesPassword ("secret" ++ more) [7] = true ∧
    stored.isDuplicate (ofPassword "bob" ("secret" ++ more) [7]) = true ∧
    ((StaticList.ofCredentials [stored]).authenticate ManualClock.read "bob" ("secret" ++ more) []
      {}).1.status = .success ∧
    ∃ login again, turns MemoryDirectory.world
        [.authenticate ⟨"bob", "secret"⟩, .authenticate ⟨"bob", "secret" ++ more⟩]
        (ofSettings ⟨true, 10, 1000⟩ [7]) directory = [login, again] ∧
      login.attempt.status = .success ∧ again.Replays login.attempt := by
  intro more stored directory
  have hpassword : Text.isBlank "secret" = false := by decide
  have hlength : (utf8 ("secret" ++ more)).length ≤ 64 := by decide
  obtain ⟨hmatches, hduplicate, hlist, hremembered⟩ :=
    longer_password_accepted_iff "bob" [7] hpassword hlength
  have hlost : LostIn [7] "secret" "\x00" := .inl fun _ => List.mem_singleton.mp
  refine ⟨hpassword, hlength, hmatches.mpr hlost, hduplicate.mpr hlost,
    (hlist _ _ _ _ _ rfl).mpr hlost, ?_⟩
  -- the login asks the directory, and its attempt is all that the next request finds
  let world := MemoryDirectory.world
  let c := ofSettings ⟨true, 10, 1000⟩ [7]
  let login := c.turn world ⟨"bob", "secret"⟩ directory
  have hc := Coordinator.configured_ofSettings ⟨true, 10, 1000⟩ [7]
  have hslot : stored.slot? =
      some ("bob", Password.blockDigest [7] (Hmac.keyBlock (utf8 "secret"))) :=
    slot?_ofPassword_eq_some_iff.mpr ⟨by decide, rfl, Password.digest?_eq_some hpassword⟩
  obtain ⟨hstatus, hafter⟩ := Coordinator.turn_of_queries_ne_nil world c ⟨"bob", "secret"⟩ directory
    (hc.asked_of_new world rfl _ directory hslot rfl)
  have hsame : login.2.replayed? stored (world.now login.1.after).1 = some login.1.attempt := by
    apply hc.replayed?_after_new world rfl ⟨"bob", "secret"⟩ directory hslot rfl
    rw [hafter]
    decide
  obtain ⟨step, hstep, hbefore⟩ := Coordinator.exists_mem_run_after world c ⟨"bob", "secret"⟩
    (.authenticate ⟨"bob", "secret" ++ more⟩) directory
  obtain ⟨hreplayed, hreplays⟩ := hremembered _ world _ _ _ step hstep login.1.after
    login.1.attempt (Coordinator.turn_request world c ⟨"bob", "secret"⟩ directory).2.1
  rw [hbefore] at hreplayed hreplays
  refine ⟨login.1, (login.2.turn world ⟨"bob", "secret" ++ more⟩ login.1.after).1, ?_, ?_, ?_⟩
  · rw [Coordinator.turns_authenticate, Coordinator.turns_authenticate]
    rfl
  · rw [hstatus]
    decide
  · exact hreplays (hreplayed.mpr ⟨hlost, hsame⟩)

end Credential

end DirectoryAuth
