import DirectoryAuth.Directory.Memory
import DirectoryAuth.Proofs.Coordinator.Recall
import DirectoryAuth.Proofs.Settings.Cache

/-! A coordinator behaves as if it kept one attempt for each username and digest, the one of the
last question to the directory. Starts under one key ascend, so the attempt that started last is
the one added last, and eviction from the front never reaches it. -/
namespace DirectoryAuth
open Credential (Slot)

variable {σ : Type}

/-- A coordinator with room for one attempt in each slot. -/
structure Memo where
  /-- In nanoseconds. -/
  maxAge : Int
  salt : Bytes
  slots : Slot → Option Attempt

namespace Memo

def ofSettings (settings : CacheSettings) (salt : Bytes) : Memo :=
  ⟨settings.ageLimit, salt, fun _ => none⟩

/-- The attempt of the last question about a credential. -/
def kept? (m : Memo) (credential : Credential) : Option Attempt := credential.slot?.bind m.slots

/-- Only an attempt whose credential has a slot is kept. -/
def keep (m : Memo) (credential : Credential) (a : Attempt) : Memo :=
  match credential.slot? with
  | some slot => { m with slots := fun other => if other = slot then some a else m.slots other }
  | none => m

/-- The message with which the attempt of an earlier question is repeated. -/
def repeatedMessage (message : String) : String :=
  "User authenticated from cache (formerly: " ++ message ++ ")"

/-- The credential that a request makes. -/
abbrev credentialOf (m : Memo) (request : Request) : Credential :=
  .ofPassword request.username request.password m.salt

/-- The entry that a request repeats: one that is younger than the age limit at its start. -/
def replayed? (m : Memo) (credential : Credential) (start : Instant) : Option Attempt :=
  (m.kept? credential).filter fun entry => start.since entry.start < m.maxAge

/-- Serves a request: repeats the entry while it is younger than the age limit, and otherwise asks
the directory once and keeps the finished attempt. -/
def turn (w : World σ) (m : Memo) (request : Request) (s : σ) : Turn σ × Memo :=
  let (start, s₁) := w.now s
  let credential := m.credentialOf request
  match m.replayed? credential start with
  | some entry =>
    let (finish, s₂) := w.now s₁
    let message := repeatedMessage entry.message
    (⟨request, ⟨some credential, start, entry.status, message, some finish⟩, [], s, s₂⟩, m)
  | none =>
    let (answer, s₂) := w.verify request.username request.password s₁
    let (finish, s₃) := w.now s₂
    let verdict := Coordinator.outcome answer
    let attempt : Attempt := ⟨some credential, start, verdict.1, verdict.2, some finish⟩
    (⟨request, attempt, [⟨request, answer⟩], s, s₃⟩, m.keep credential attempt)

/-- No operation on the cache is more than a reading. -/
def perform (w : World σ) (m : Memo) (s : σ) : Operation → Answer σ × Memo × σ
  | .authenticate request =>
    let (t, m') := m.turn w request s
    (.turn t, m', t.after)
  | .latest credential => (.latest (m.kept? credential), m, s)
  | .history credential => (.history (m.kept? credential).toList, m, s)
  | .count credential => (.count (m.kept? credential).toList.length, m, s)
  | .prune _ => (.done, m, s)
  | .pruneAll => (.done, m, s)
  | .setDepth _ => (.done, m, s)

def run (w : World σ) : List Operation → Memo → σ → List (Answer σ)
  | [], _, _ => []
  | operation :: rest, m, s =>
    let (answer, m', s') := m.perform w s operation
    answer :: run w rest m' s'

end Memo

/-- What is left of an answer when a history is cut down to the attempt added last. -/
def Answer.newest : Answer σ → Answer σ
  | history attempts => history attempts.getLast?.toList
  | count n => count (min n 1)
  | answer => answer

namespace Coordinator

end Coordinator

namespace Memo
open Coordinator (outcome replayMessage)

/-- A memo stands for a coordinator if its entries are the attempts that were added last. -/
structure Represents (m : Memo) (c : Coordinator) : Prop where
  enabled : c.cacheEnabled = true
  salt_eq : m.salt = c.salt
  lt_maxAge_iff : ∀ a b : Instant, a.since b < c.maxAge ↔ a.since b < m.maxAge
  maxAge_pos : 0 < c.maxAge
  tidy : c.cache.Tidy
  spaced : c.cache.Spaced c.maxAge
  kept?_eq : ∀ credential, m.kept? credential = (c.cache.attempts credential).getLast?
  verdict : ∀ slot a, m.slots slot = some a → ∃ answer, (a.status, a.message) = outcome answer

section
variable (w : World σ) (m : Memo) (request : Request) (s : σ)

theorem turn_of_replayed {entry : Attempt}
    (h : m.replayed? (m.credentialOf request) (w.now s).1 = some entry) :
    m.turn w request s =
      (⟨request, ⟨some (m.credentialOf request), (w.now s).1, entry.status,
          repeatedMessage entry.message, some (w.now (w.now s).2).1⟩, [], s,
          (w.now (w.now s).2).2⟩, m) := by
  simp only [turn, h]

theorem turn_of_not_replayed (h : m.replayed? (m.credentialOf request) (w.now s).1 = none) :
    let asked := w.verify request.username request.password (w.now s).2
    let attempt : Attempt := ⟨some (m.credentialOf request), (w.now s).1, (outcome asked.1).1,
      (outcome asked.1).2, some (w.now asked.2).1⟩
    m.turn w request s =
      (⟨request, attempt, [⟨request, asked.1⟩], s, (w.now asked.2).2⟩,
        m.keep (m.credentialOf request) attempt) := by
  simp only [turn, h]

end

theorem repeatedMessage_eq (message : String) :
    repeatedMessage message = replayMessage message := by
  unfold repeatedMessage replayMessage
  rfl

theorem slots_keep (m : Memo) {credential : Credential} {slot : Slot}
    (hs : credential.slot? = some slot) (a : Attempt) (other : Slot) :
    (m.keep credential a).slots other = if other = slot then some a else m.slots other := by
  rw [keep, hs]

theorem kept?_keep (m : Memo) {credential : Credential} {slot : Slot}
    (hs : credential.slot? = some slot) (a : Attempt) (other : Credential) :
    (m.keep credential a).kept? other =
      if other.slot? = some slot then some a else m.kept? other := by
  rw [kept?, kept?]
  cases other.slot? with
  | none => rfl
  | some slot' => simp only [Option.bind_some, slots_keep m hs, Option.some.injEq]

theorem keep_of_slot?_eq_none (m : Memo) {credential : Credential} (hs : credential.slot? = none)
    (a : Attempt) : m.keep credential a = m := by
  rw [keep, hs]

variable {m : Memo} {c : Coordinator}

/-- Coordinator and memo agree on what there is to repeat. -/
theorem Represents.replayed?_eq (h : m.Represents c) (credential : Credential) (start : Instant) :
    c.replayed? credential start = m.replayed? credential start := by
  rw [Coordinator.replayed?_eq h.enabled h.tidy, replayed?, h.kept?_eq,
    h.spaced.mostRecent?_eq_getLast? h.maxAge_pos]
  congr 1
  funext earlier
  exact decide_eq_decide.mpr (h.lt_maxAge_iff start earlier.start)

theorem Represents.withCache (h : m.Represents c) {cache : AttemptCache} (htidy : cache.Tidy)
    (hspaced : cache.Spaced c.maxAge)
    (hlast : ∀ credential,
      (cache.attempts credential).getLast? = (c.cache.attempts credential).getLast?) :
    m.Represents (c.withCache cache) :=
  { h with
    tidy := htidy
    spaced := hspaced
    kept?_eq := fun credential => (h.kept?_eq credential).trans (hlast credential).symm }

/-- A question is kept by both, and only if the age limit has passed since the last one. -/
theorem Represents.record (h : m.Represents c) {credential : Credential} {a : Attempt}
    (ha : a.credential = some credential) (hnone : c.replayed? credential a.start = none)
    (hverdict : ∃ answer, (a.status, a.message) = outcome answer) :
    (m.keep credential a).Represents (c.record a) := by
  cases hs : credential.slot? with
  | none =>
    rw [keep_of_slot?_eq_none m hs, Coordinator.record_of_slot?_eq_none ha hs]
    exact h
  | some slot =>
    rw [Coordinator.record_of_slot? h.enabled ha hs]
    have hfar : ∀ earlier, (c.cache.historyFor slot).mostRecent? = some earlier →
        c.maxAge ≤ a.start.since earlier.start := fun earlier hearlier =>
      Coordinator.maxAge_le_of_replayed?_eq_none h.enabled h.tidy hs hnone hearlier
    have hmaxAge : (m.keep credential a).maxAge = m.maxAge := by rw [keep, hs]
    have hsalt : (m.keep credential a).salt = m.salt := by rw [keep, hs]
    refine ⟨h.enabled, hsalt.trans h.salt_eq, ?_, h.maxAge_pos, h.tidy.put slot a,
      h.spaced.put hfar, ?_, ?_⟩
    · rw [hmaxAge]
      exact h.lt_maxAge_iff
    · intro other
      rw [kept?_keep m hs, h.kept?_eq]
      change _ = ((c.cache.put slot a).attempts other).getLast?
      rw [h.tidy.attempts_put]
      split
      · rw [History.getLast?_trim, List.getLast?_concat]
      · rfl
    · intro other b hb
      rw [slots_keep m hs] at hb
      by_cases hother : other = slot
      · rw [if_pos hother] at hb
        rw [← Option.some.inj hb]
        exact hverdict
      · rw [if_neg hother] at hb
        exact h.verdict other b hb

variable (w : World σ)

/-- Both serve a request alike. -/
theorem Represents.turn (h : m.Represents c) (request : Request) (s : σ) :
    (c.turn w request s).1 = (m.turn w request s).1 ∧
      (m.turn w request s).2.Represents (c.turn w request s).2 := by
  have hcredential : m.credentialOf request = c.credentialOf request := by
    rw [credentialOf, h.salt_eq]
  have hagree := h.replayed?_eq (c.credentialOf request) (w.now s).1
  cases hreplayed : c.replayed? (c.credentialOf request) (w.now s).1 with
  | some earlier =>
    rw [hreplayed, ← hcredential] at hagree
    rw [Coordinator.turn_of_replayed w c request s hreplayed, Coordinator.lookedUp_eq_self h.tidy,
      turn_of_replayed w m request s hagree.symm, hcredential, repeatedMessage_eq]
    exact ⟨rfl, h⟩
  | none =>
    rw [hreplayed, ← hcredential] at hagree
    rw [Coordinator.turn_of_not_replayed w c request s hreplayed,
      Coordinator.lookedUp_eq_self h.tidy, turn_of_not_replayed w m request s hagree.symm,
      hcredential]
    exact ⟨rfl, h.record rfl hreplayed ⟨_, rfl⟩⟩

/-- Both answer an operation alike, up to the attempts that a memo forgets. -/
theorem Represents.perform (h : m.Represents c) (s : σ) (operation : Operation) :
    (c.perform w s operation).1.newest = (m.perform w s operation).1 ∧
      (m.perform w s operation).2.1.Represents (c.perform w s operation).2.1 ∧
      (c.perform w s operation).2.2 = (m.perform w s operation).2.2 := by
  cases operation with
  | authenticate request =>
    obtain ⟨hturn, hnext⟩ := h.turn w request s
    refine ⟨?_, hnext, ?_⟩
    · exact congrArg Answer.turn hturn
    · exact congrArg Turn.after hturn
  | latest credential =>
    have hentry : ((c.cache.history? credential).bind (·.mostRecent?)) = m.kept? credential := by
      rw [h.kept?_eq, h.spaced.mostRecent?_eq_getLast? h.maxAge_pos]
    simp only [Coordinator.perform, h.tidy.mostRecent_eq, hentry]
    exact ⟨rfl, h, rfl⟩
  | history credential =>
    refine ⟨?_, h, rfl⟩
    simp only [Coordinator.perform, Memo.perform, Answer.newest, h.kept?_eq]
  | count credential =>
    refine ⟨?_, h, rfl⟩
    simp only [Coordinator.perform, Memo.perform, Answer.newest, h.kept?_eq, AttemptCache.count]
    cases hlast : (c.cache.attempts credential).getLast? with
    | none => rw [List.getLast?_eq_none_iff.mp hlast]; rfl
    | some last =>
      have hpos := List.length_pos_of_mem (List.mem_of_getLast? hlast)
      exact congrArg Answer.count (Nat.min_eq_right hpos)
  | prune credential =>
    simp only [Coordinator.perform, h.tidy.prune_eq_self]
    exact ⟨rfl, h, rfl⟩
  | pruneAll =>
    simp only [Coordinator.perform, h.tidy.pruneAll_eq_self]
    exact ⟨rfl, h, rfl⟩
  | setDepth depth =>
    refine ⟨rfl, ?_, rfl⟩
    apply h.withCache (AttemptCache.tidy_setDepth _ _) (h.spaced.setDepth depth)
    intro credential
    rw [AttemptCache.attempts_setDepth, History.getLast?_trim]

/-- Both answer a whole run alike. -/
theorem Represents.run (h : m.Represents c) (operations : List Operation) (s : σ) :
    (Coordinator.run w operations c s).map (fun step => step.answer.newest) =
      Memo.run w operations m s := by
  induction operations generalizing m c s with
  | nil => rfl
  | cons operation rest ih =>
    obtain ⟨hanswer, hnext, hworld⟩ := h.perform w s operation
    simp only [Coordinator.run, Memo.run, List.map_cons]
    rw [hanswer, hworld, ih hnext]

/-- A request is repeated from a verdict of the directory or asked, and what has no key is neither
found nor kept. -/
theorem Represents.turn_cases (h : m.Represents c) (request : Request) (s : σ) :
    let t := (c.turn w request s).1
    (t.queries = [] → (c.turn w request s).2 = c ∧ ∃ answer,
      t.attempt.status = (outcome answer).1 ∧
        t.attempt.message = replayMessage (outcome answer).2) ∧
    (t.queries ≠ [] → ∃ answer, t.queries = [⟨request, answer⟩] ∧
      (t.attempt.status, t.attempt.message) = outcome answer) ∧
    ∀ credential, t.attempt.credential = some credential → credential.slot? = none →
      t.queries ≠ [] ∧ (c.turn w request s).2 = c := by
  cases hreplayed : c.replayed? (c.credentialOf request) (w.now s).1 with
  | some earlier =>
    rw [Coordinator.turn_of_replayed w c request s hreplayed, Coordinator.lookedUp_eq_self h.tidy]
    refine ⟨fun _ => ⟨rfl, ?_⟩, fun hne => absurd rfl hne, ?_⟩
    · rw [h.replayed?_eq, replayed?] at hreplayed
      have hentry := Option.eq_some_of_filter_eq_some hreplayed
      rw [kept?] at hentry
      obtain ⟨slot, -, hslot⟩ := Option.bind_eq_some_iff.mp hentry
      obtain ⟨answer, hanswer⟩ := h.verdict slot earlier hslot
      obtain ⟨hstatus, hmessage⟩ := Prod.mk.inj hanswer
      exact ⟨answer, hstatus, congrArg replayMessage hmessage⟩
    · intro credential hcredential hslot
      rw [← Option.some.inj hcredential] at hslot
      rw [Coordinator.replayed?_of_slot?_eq_none h.enabled h.tidy hslot] at hreplayed
      contradiction
  | none =>
    rw [Coordinator.turn_of_not_replayed w c request s hreplayed,
      Coordinator.lookedUp_eq_self h.tidy]
    refine ⟨fun hnil => ?_, fun _ => ⟨_, rfl, rfl⟩, ?_⟩
    · contradiction
    · intro credential hcredential hslot
      refine ⟨List.cons_ne_nil _ _, ?_⟩
      exact Coordinator.record_of_slot?_eq_none hcredential hslot

end Memo

end DirectoryAuth
