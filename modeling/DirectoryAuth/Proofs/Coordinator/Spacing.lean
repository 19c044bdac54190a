import DirectoryAuth.Directory.Memory
import DirectoryAuth.Proofs.Coordinator.Recall
import DirectoryAuth.Proofs.Settings.Cache

/-! How often the directory is asked about one username with one password. The attempt that was
added last under a slot bounds the start of every earlier question about it, and a new question
waits until that attempt has reached the age limit. -/
namespace DirectoryAuth.Coordinator
open Credential (Slot)

variable {σ : Type} {settings : CacheSettings} {salt : Bytes} {c : Coordinator}

/-- The attempt that was added last under a slot did not start before `start`. -/
def Covers (c : Coordinator) (slot : Slot) (start : Instant) : Prop :=
  ∃ last, (c.cache.historyFor slot).attempts.getLast? = some last ∧
    start.nanos ≤ last.start.nanos

/-- What the last attempt bounds, the most recent one bounds too. -/
theorem Covers.mostRecent? {slot : Slot} {start : Instant} (h : c.Covers slot start) :
    ∃ recent, (c.cache.historyFor slot).mostRecent? = some recent ∧
      start.nanos ≤ recent.start.nanos := by
  obtain ⟨last, hlast, hstart⟩ := h
  have hmem := List.mem_of_getLast? hlast
  cases hrecent : (c.cache.historyFor slot).mostRecent? with
  | none =>
    rw [History.mostRecent?_eq_none_iff] at hrecent
    rw [hrecent] at hmem
    contradiction
  | some recent =>
    have hle := History.start_le_of_mostRecent? hrecent hmem
    exact ⟨recent, rfl, by omega⟩

theorem covers_put (c : Coordinator) (slot : Slot) (a : Attempt) :
    (c.withCache (c.cache.put slot a)).Covers slot a.start := by
  refine ⟨a, ?_, Int.le_refl _⟩
  change ((c.cache.put slot a).historyFor slot).attempts.getLast? = some a
  rw [AttemptCache.historyFor_put, if_pos rfl, History.add, History.getLast?_trim,
    List.getLast?_concat]

/-- A question about a covered slot starts after the age limit has passed. -/
theorem Covers.maxAge_le {slot : Slot} {start : Instant} (h : c.Covers slot start) {t : Turn σ}
    (ht : c.Records t slot) : c.maxAge ≤ t.attempt.start.since start := by
  obtain ⟨recent, hrecent, hstart⟩ := h.mostRecent?
  have hage := ht.maxAge_le recent hrecent
  rw [Instant.since] at hage ⊢
  omega

/-- No operation takes a bound away: eviction spares the last attempt, and a new one comes later. -/
theorem Covers.perform (hc : c.Configured settings salt) {slot : Slot} {start : Instant}
    (h : c.Covers slot start) (w : World σ) (s : σ) (operation : Operation) :
    (c.perform w s operation).2.1.Covers slot start := by
  rcases hc.perform_cases w s operation with he | ⟨depth, he⟩ | ⟨t, other, -, hrecords, he⟩
  · rw [he]; exact h
  · rw [he]
    obtain ⟨last, hlast, hstart⟩ := h
    refine ⟨last, ?_, hstart⟩
    change ((c.cache.setDepth depth).historyFor slot).attempts.getLast? = some last
    rw [AttemptCache.historyFor_setDepth]
    exact (History.getLast?_trim ..).trans hlast
  · rw [he]
    by_cases hslot : slot = other
    · have hage := h.maxAge_le (hslot ▸ hrecords)
      have hpos := settings.maxAge_nonneg
      rw [hc.maxAge_eq, Instant.since] at hage
      obtain ⟨last, hlast, hstart⟩ := covers_put c other t.attempt
      rw [hslot]
      exact ⟨last, hlast, by omega⟩
    · obtain ⟨last, hlast, hstart⟩ := h
      refine ⟨last, ?_, hstart⟩
      change ((c.cache.put other t.attempt).historyFor slot).attempts.getLast? = some last
      rw [AttemptCache.historyFor_put, if_neg hslot, hlast]

/-- Two questions about one slot, the second `gap` nanoseconds or more after the first. -/
def Apart (gap : Int) (a b : Turn σ) : Prop :=
  ∀ slot, a.slot? = some slot → b.slot? = some slot → a.queries ≠ [] → b.queries ≠ [] →
    gap ≤ b.attempt.start.since a.attempt.start

variable (w : World σ)

/-- A bound under a slot holds off every later question about it. -/
theorem Covers.maxAge_le_of_mem_turns (henabled : settings.enabled = true)
    (hc : c.Configured settings salt) {slot : Slot} {start : Instant} (h : c.Covers slot start)
    {operations : List Operation} {s : σ} {t : Turn σ} (ht : t ∈ turns w operations c s)
    (hslot : t.slot? = some slot) (hasked : t.queries ≠ []) :
    settings.maxAge ≤ t.attempt.start.since start := by
  induction operations generalizing c s with
  | nil => contradiction
  | cons operation rest ih =>
    rw [turns_cons, List.mem_append] at ht
    rcases ht with ht | ht
    · cases operation with
      | authenticate request =>
        have he : t = (c.turn w request s).1 := List.mem_singleton.mp ht
        rw [he] at hslot hasked
        have hrecords := (hc.turn_of_asked w (hc.enabled_eq.trans henabled) hslot hasked).1
        rw [he, ← hc.maxAge_eq]
        exact h.maxAge_le hrecords
      | _ => contradiction
    · exact ih (hc.perform w s operation) (h.perform hc w s operation) ht

/-- Over a whole run, any two questions about one slot are an age limit apart. -/
theorem pairwise_apart_turns (henabled : settings.enabled = true)
    (hc : c.Configured settings salt) (operations : List Operation) (s : σ) :
    (turns w operations c s).Pairwise (Apart settings.maxAge) := by
  induction operations generalizing c s with
  | nil => exact List.Pairwise.nil
  | cons operation rest ih =>
    rw [turns_cons]
    have htail := ih (hc.perform w s operation) (c.perform w s operation).2.2
    cases operation with
    | authenticate request =>
      refine List.Pairwise.cons ?_ htail
      intro b hb slot ha hslot hasked hbasked
      obtain ⟨-, hput⟩ := hc.turn_of_asked w (hc.enabled_eq.trans henabled) ha hasked
      have hcovers := covers_put c slot (c.turn w request s).1.attempt
      rw [← hput] at hcovers
      exact hcovers.maxAge_le_of_mem_turns w henabled (hc.perform w s (.authenticate request)) hb
        hslot hbasked
    | _ => exact htail

/-- Lockout: whatever the directory answers and however the clock runs, two requests of a run with
one username and one password digest reach the directory only if the second starts at least the
age limit after the first. -/
theorem ageLimit_le_between_queries (w : World σ) (settings : CacheSettings) (salt : Bytes)
    (operations : List Operation) (s : σ) (henabled : settings.enabled = true) {i k : Nat}
    {a b : Turn σ} (hik : i < k)
    (ha : (turns w operations (ofSettings settings salt) s)[i]? = some a)
    (hb : (turns w operations (ofSettings settings salt) s)[k]? = some b)
    (hname : a.request.username ≠ "") (huser : b.request.username = a.request.username)
    {digest : Bytes} (hadigest : Password.digest? salt a.request.password = some digest)
    (hbdigest : Password.digest? salt b.request.password = some digest)
    (haqueries : a.queries ≠ []) (hbqueries : b.queries ≠ []) :
    settings.ageLimit ≤ b.attempt.start.since a.attempt.start := by
  have hc := configured_ofSettings settings salt
  have hpairs := pairwise_apart_turns w henabled hc operations s
  have haslot := (slot?_eq_some_iff_of_mem_turns w hc (List.mem_of_getElem? ha)).mpr
    ⟨hname, rfl, hadigest⟩
  have hbslot := (slot?_eq_some_iff_of_mem_turns w hc (List.mem_of_getElem? hb)).mpr
    ⟨hname, huser, hbdigest⟩
  obtain ⟨hi, rfl⟩ := List.getElem?_eq_some_iff.mp ha
  obtain ⟨hk, rfl⟩ := List.getElem?_eq_some_iff.mp hb
  have hapart := List.pairwise_iff_getElem.mp hpairs i k hi hk hik _ haslot hbslot haqueries
    hbqueries
  have hlimit := settings.since_lt_maxAge_iff
    (turns w operations (ofSettings settings salt) s)[k].attempt.start
    (turns w operations (ofSettings settings salt) s)[i].attempt.start
  omega

/-- A wrong password, tried again after three seconds with a limit of one. -/
theorem ageLimit_le_between_wrong_passwords :
    let settings : CacheSettings := ⟨true, 1, 1000⟩
    let directory : MemoryDirectory := { clock := { tick := 1500000000 } }
    let attempts := turns MemoryDirectory.world
      [.authenticate ⟨"alice", "wrong"⟩, .authenticate ⟨"alice", "wrong"⟩]
      (ofSettings settings [7]) directory
    ∃ a b, attempts[0]? = some a ∧ attempts[1]? = some b ∧ a.queries ≠ [] ∧ b.queries ≠ [] ∧
      settings.ageLimit ≤ b.attempt.start.since a.attempt.start := by
  intro settings directory attempts
  let w := MemoryDirectory.world
  let c := ofSettings settings [7]
  let request : Request := ⟨"alice", "wrong"⟩
  let digest := Pbkdf2.derive (utf8 "wrong") [7] Password.iterations Password.digestLength
  have hdigest : Password.digest? [7] "wrong" = some digest := if_neg (by decide)
  have hslot : (Credential.ofPassword "alice" "wrong" [7]).slot? = some ("alice", digest) := by
    rw [Credential.slot?_ofPassword, if_neg (by decide), hdigest]
    rfl
  have hc : c.Configured settings [7] := configured_ofSettings settings [7]
  have haqueries : (c.turn w request directory).1.queries ≠ [] :=
    hc.asked_of_old w rfl hslot fun earlier hearlier => by contradiction
  obtain ⟨-, hput⟩ := hc.turn_of_asked w rfl ((slot?_turn ..).trans hslot) haqueries
  obtain ⟨-, hafter⟩ := turn_of_queries_ne_nil w c request directory haqueries
  have hc' := hc.perform w directory (.authenticate request)
  have hslot' : ((c.turn w request directory).2.credentialOf request).slot? =
      some ("alice", digest) := by
    rw [credentialOf]
    exact hc'.salt_eq.symm ▸ hslot
  have hbqueries : ((c.turn w request directory).2.turn w request
      (c.turn w request directory).1.after).1.queries ≠ [] := by
    refine hc'.asked_of_old w hc'.enabled_eq hslot' fun earlier hearlier => ?_
    have hmem := History.mem_of_mostRecent? hearlier
    change earlier ∈ ((c.turn w request directory).2.cache.historyFor _).attempts at hmem
    rw [hput] at hmem
    rcases AttemptCache.mem_historyFor_put hmem with hold | ⟨-, hnew⟩
    · exact absurd hold List.not_mem_nil
    · rw [hnew, hc'.maxAge_eq, (turn_request w c request directory).2.2, hafter]
      decide
  have hturns : attempts = [(c.turn w request directory).1, ((c.turn w request directory).2.turn w
      request (c.turn w request directory).1.after).1] := by
    change turns w [.authenticate request, .authenticate request] c directory = _
    rw [turns_authenticate, turns_authenticate]
    rfl
  have ha := congrArg (fun list => list[0]?) hturns
  have hb := congrArg (fun list => list[1]?) hturns
  exact ⟨_, _, ha, hb, haqueries, hbqueries, ageLimit_le_between_queries w settings [7] _ directory
    rfl Nat.zero_lt_one ha hb (by decide) rfl hdigest hdigest haqueries hbqueries⟩

end DirectoryAuth.Coordinator
