import DirectoryAuth.Proofs.Ldap.Numbering

/-! Lives of connections. Whatever a client does, the events of a connection follow one of a few
patterns: it is opened, bound once, searched on if the bind was for searches, and then left. -/
namespace DirectoryAuth.Ldap

variable {κ : Type}

/-- The events of one connection. -/
def Trace.life (trace : Trace) (n : Nat) : List Event :=
  trace.filter fun event => event.connection? = some n

def Event.isBind : Event → Bool
  | bind _ _ _ _ => true
  | _ => false

/-- The life so far of a connection that searches can be made on. -/
inductive Serving (n : Nat) : List Event → Prop
  | intro (dn password : String) (result : Result) (searches : List Event) (hcode : result.code = 0)
    (hsearches : ∀ event ∈ searches, ∃ request answer, event = .search n request (.ok answer)) :
    Serving n (.opened n :: .bind n dn password (.ok result) :: searches)

/-- All lives so far of connections that have been opened. -/
inductive Life (n : Nat) : List Event → Prop
  | serving (life : List Event) (h : Serving n life) : Life n life
  | released (life : List Event) (h : Serving n life) : Life n (life ++ [.unbind n])
  | lost (life : List Event) (request : SearchRequest) (reason : String) (h : Serving n life) :
    Life n (life ++ [.search n request (.error reason)])
  | failed (dn password reason : String) :
    Life n [.opened n, .bind n dn password (.error reason)]
  | ended (dn password : String) (result : Result) :
    Life n [.opened n, .bind n dn password (.ok result), .unbind n]

section
variable {n : Nat} {trace events life : List Event}

theorem Trace.life_append :
    Trace.life (trace ++ events) n = Trace.life trace n ++ Trace.life events n :=
  List.filter_append ..

theorem Trace.life_eq_nil (h : ∀ event ∈ events, event.connection? ≠ some n) :
    Trace.life events n = [] := by
  simpa [Trace.life] using h

theorem Trace.life_eq_self (h : ∀ event ∈ events, event.connection? = some n) :
    Trace.life events n = events := by
  simpa [Trace.life] using h

theorem Below.life_eq_nil {bound : Nat} (h : Below bound events) (hn : bound ≤ n) :
    Trace.life events n = [] := by
  apply Trace.life_eq_nil
  intro event hmem heq
  exact absurd (h event hmem n heq) (Nat.not_lt.mpr hn)

theorem Serving.search (h : Serving n life) (request : SearchRequest) (answer : SearchAnswer) :
    Serving n (life ++ [.search n request (.ok answer)]) := by
  obtain ⟨dn, password, result, searches, hcode, hsearches⟩ := h
  refine Serving.intro dn password result (searches ++ [_]) hcode ?_
  intro event hmem
  rcases List.mem_append.mp hmem with hmem | hmem
  · exact hsearches event hmem
  · exact ⟨request, answer, List.mem_singleton.mp hmem⟩

theorem Serving.unbind_not_mem (h : Serving n life) : .unbind n ∉ life := by
  obtain ⟨dn, password, result, searches, hcode, hsearches⟩ := h
  intro hmem
  have hsearch : .unbind n ∈ searches := by simpa using hmem
  obtain ⟨request, answer, heq⟩ := hsearches _ hsearch
  contradiction

theorem Life.search (h : Serving n life) (request : SearchRequest)
    (answer : Except String SearchAnswer) : Life n (life ++ [.search n request answer]) := by
  cases answer with
  | error reason => exact .lost life request reason h
  | ok answer => exact .serving _ (h.search request answer)

/-- A connection that serves has been bound once, with success. -/
theorem Serving.append (h : Serving n life) {last : List Event}
    (hlast : ∀ event ∈ last, event.isBind = false) : ∃ dn password result rest,
      life ++ last = .opened n :: .bind n dn password (.ok result) :: rest ∧ result.code = 0 ∧
        ∀ event ∈ rest, event.isBind = false := by
  obtain ⟨dn, password, result, searches, hcode, hsearches⟩ := h
  refine ⟨dn, password, result, searches ++ last, rfl, hcode, ?_⟩
  intro event hmem
  rcases List.mem_append.mp hmem with hmem | hmem
  · obtain ⟨request, answer, rfl⟩ := hsearches event hmem
    rfl
  · exact hlast event hmem

theorem Life.of_search_mem (h : Life n life) {request : SearchRequest}
    {answer : Except String SearchAnswer} (hmem : .search n request answer ∈ life) :
    ∃ dn password result rest, life = .opened n :: .bind n dn password (.ok result) :: rest ∧
      result.code = 0 ∧ ∀ event ∈ rest, event.isBind = false := by
  cases h with
  | serving _ h => simpa using h.append (List.forall_mem_nil _)
  | released _ h => exact h.append (by simp [Event.isBind])
  | lost _ request reason h => exact h.append (by simp [Event.isBind])
  | failed dn password reason => simp at hmem
  | ended dn password result => simp at hmem

/-- An element that is not in a list can stand after it at the end only. -/
theorem eq_nil_of_append_eq {α : Type} {list first later : List α} {a b : α} (hb : b ∉ list)
    (h : list ++ [a] = first ++ b :: later) : later = [] := by
  rcases later.eq_nil_or_concat with rfl | ⟨init, last, rfl⟩
  · rfl
  · have hsplit : list ++ [a] = (first ++ b :: init) ++ [last] := by
      rw [h, List.concat_eq_append, List.append_assoc, List.cons_append]
    have hlist : list = first ++ b :: init := (List.append_inj' hsplit rfl).1
    exact absurd (hlist ▸ by simp) hb

/-- Nothing follows the word that ends a connection. -/
theorem Life.unbind_last (h : Life n life) {first later : List Event}
    (hlife : life = first ++ .unbind n :: later) : later = [] := by
  have hmem : .unbind n ∈ life := by simp [hlife]
  cases h with
  | serving _ h => exact absurd hmem h.unbind_not_mem
  | released _ h => exact eq_nil_of_append_eq h.unbind_not_mem hlife
  | lost _ request reason h =>
    rcases List.mem_append.mp hmem with hmem | hmem
    · exact absurd hmem h.unbind_not_mem
    · simp at hmem
  | failed dn password reason => simp at hmem
  | ended dn password result =>
    have hnot : .unbind n ∉ [Event.opened n, .bind n dn password (.ok result)] := by simp
    exact eq_nil_of_append_eq hnot hlife

/-- Nothing follows a bind that is not answered. -/
theorem Life.eq_nil_of_error {dn password reason : String} {rest : List Event}
    (h : Life n (.opened n :: .bind n dn password (.error reason) :: rest)) : rest = [] := by
  generalize hlife : .opened n :: .bind n dn password (.error reason) :: rest = life at h
  cases h with
  | serving _ h =>
    cases h
    simp at hlife
  | released _ h =>
    cases h
    simp at hlife
  | lost _ request reason' h =>
    cases h
    simp at hlife
  | failed dn' password' reason' => exact (by simpa using hlife : _ ∧ rest = []).2
  | ended dn' password' result => simp at hlife

end

/-- A record in which all lives are in order, and the client holds a connection that serves. -/
structure Orderly (client : Client (Nat × κ)) (trace : Trace) : Prop extends
    Numbered client trace where
  lives : ∀ n < trace.next, Life n (trace.life n)
  serving : ∀ c, client.handle = some c → Serving c.1 (trace.life c.1)

namespace Orderly

variable {client client' : Client (Nat × κ)} {trace : Trace} {events : List Event}

theorem new : Orderly (κ := κ) {} [] where
  handle_lt := by simp
  below := below_nil _
  lives n hn := absurd hn (Nat.not_lt_zero n)
  serving := by simp

/-- An event that is about no connection. -/
theorem refused (h : Orderly client trace) (reason : String) :
    Orderly client (trace ++ [.refused reason]) := by
  have hnext : Trace.next (trace ++ [.refused reason]) = Trace.next trace := by
    simp [Trace.next_append, Event.isOpened]
  have hlife : ∀ n, Trace.life (trace ++ [.refused reason]) n = Trace.life trace n := by
    simp [Trace.life, Event.connection?]
  refine ⟨h.toNumbered.append ?_ ?_, ?_, ?_⟩
  · rw [hnext]
    exact h.handle_lt
  · simp [Event.connection?]
  · intro n hn
    rw [hlife]
    exact h.lives n (hnext ▸ hn)
  · intro c hc
    rw [hlife]
    exact h.serving c hc

/-- A new connection with all the events that it has so far. -/
theorem opens (h : Orderly client trace) {life : List Event} (hlife : Life trace.next life)
    (hown : ∀ event ∈ life, event.connection? = some (Trace.next trace))
    (hone : life.countP Event.isOpened = 1) : Orderly client (trace ++ life) := by
  have hnext : Trace.next (trace ++ life) = Trace.next trace + 1 := by
    rw [Trace.next_append, hone]
  have hold : ∀ n < Trace.next trace, Trace.life (trace ++ life) n = Trace.life trace n := by
    intro n hn
    have hnil : Trace.life life n = [] := by
      apply Trace.life_eq_nil
      intro event hmem heq
      rw [hown event hmem] at heq
      exact Nat.ne_of_gt hn (Option.some.inj heq)
    rw [Trace.life_append, hnil, List.append_nil]
  refine ⟨h.toNumbered.append ?_ ?_, ?_, ?_⟩
  · intro c hc
    rw [hnext]
    exact Nat.lt_succ_of_lt (h.handle_lt c hc)
  · intro event hmem n hn
    rw [hown event hmem] at hn
    rw [hnext, ← Option.some.inj hn]
    exact Nat.lt_succ_self _
  · intro n hn
    -- the new connection has exactly these events, and all others keep theirs
    rcases Nat.lt_succ_iff_lt_or_eq.mp (hnext ▸ hn) with hn | rfl
    · rw [hold n hn]
      exact h.lives n hn
    · rw [Trace.life_append, h.below.life_eq_nil (Nat.le_refl _), List.nil_append,
        Trace.life_eq_self hown]
      exact hlife
  · intro c hc
    rw [hold c.1 (h.handle_lt c hc)]
    exact h.serving c hc

/-- The last word on the connection that is held; the client may hold another one then. -/
theorem release (h : Orderly client trace)
    (hclient : ∀ c', client'.handle = some c' → (∀ c, client.handle = some c → c.1 ≠ c'.1) ∧
      c'.1 < Trace.next trace ∧ Serving c'.1 (trace.life c'.1)) :
    Orderly client' (trace ++ released client.handle) := by
  cases hhandle : client.handle with
  | none =>
    have hnumbered : Numbered client' trace := ⟨fun c' hc' => (hclient c' hc').2.1, h.below⟩
    rw [released, List.append_nil]
    exact ⟨hnumbered, h.lives, fun c' hc' => (hclient c' hc').2.2⟩
  | some c =>
    have hlt := h.handle_lt c hhandle
    have hnext : Trace.next (trace ++ [.unbind c.1]) = Trace.next trace := by
      simp [Trace.next_append, Event.isOpened]
    have hother : ∀ n, c.1 ≠ n →
        Trace.life (trace ++ [.unbind c.1]) n = Trace.life trace n := by
      intro n hn
      simp [Trace.life, Event.connection?, hn]
    refine ⟨h.toNumbered.append ?_ ?_, ?_, ?_⟩
    · intro c' hc'
      rw [released, hnext]
      exact (hclient c' hc').2.1
    · simpa [released, hnext, Event.connection?] using hlt
    · intro n hn
      rw [released]
      by_cases heq : c.1 = n
      · subst heq
        have hend : Trace.life (trace ++ [.unbind c.1]) c.1 =
            Trace.life trace c.1 ++ [.unbind c.1] := by simp [Trace.life, Event.connection?]
        rw [hend]
        exact .released _ (h.serving c hhandle)
      · rw [hother n heq]
        rw [released, hnext] at hn
        exact h.lives n hn
    · intro c' hc'
      obtain ⟨hne, -, hserving⟩ := hclient c' hc'
      rw [released, hother c'.1 (hne c hhandle)]
      exact hserving

/-- A search on the connection that is held, which is given up where the search fails. -/
theorem search (h : Orderly client trace) {c : Nat × κ} (hc : client.handle = some c)
    (request : SearchRequest) (answer : Except String SearchAnswer)
    (hclient : client'.handle = none ∨
      client'.handle = client.handle ∧ ∃ found, answer = .ok found) :
    Orderly client' (trace ++ [.search c.1 request answer]) := by
  have hnext : Trace.next (trace ++ [.search c.1 request answer]) = Trace.next trace := by
    simp [Trace.next_append, Event.isOpened]
  have hlast : Trace.life (trace ++ [.search c.1 request answer]) c.1 =
      Trace.life trace c.1 ++ [.search c.1 request answer] := by
    simp [Trace.life, Event.connection?]
  have hserving := h.serving c hc
  refine ⟨h.toNumbered.search hc request answer (hclient.imp_right And.left), ?_, ?_⟩
  · intro n hn
    by_cases heq : c.1 = n
    · subst heq
      rw [hlast]
      exact .search hserving request answer
    · have hother : Trace.life (trace ++ [.search c.1 request answer]) n = Trace.life trace n := by
        simp [Trace.life, Event.connection?, heq]
      rw [hother]
      exact h.lives n (hnext ▸ hn)
  · intro c' hc'
    rcases hclient with hnone | ⟨hsame, found, rfl⟩
    · rw [hnone] at hc'
      contradiction
    · rw [hsame, hc] at hc'
      cases hc'
      rw [hlast]
      exact hserving.search request found

theorem drops (h : Orderly client trace) :
    Orderly (⟨none, .error⟩ : Client (Nat × κ)) trace :=
  ⟨h.toNumbered.drops, h.lives, by simp⟩

theorem connects (h : Orderly client trace) {dn password : String}
    {answer : Except DirectoryError Unit}
    (hconnects : Connects dn password client.handle trace.next answer client' events) :
    Orderly client' (trace ++ events) := by
  cases hconnects with
  | refused reason =>
    rw [← List.append_assoc]
    exact (h.refused reason).release (by simp)
  | failed reason =>
    rw [← List.append_assoc]
    apply (h.opens (.failed dn password reason) (by simp [Event.connection?]) rfl).release
    simp
  | rejected result hcode =>
    rw [← List.append_assoc]
    apply (h.opens (.ended dn password result) (by simp [Event.connection?]) rfl).release
    simp
  | bound result c hcode =>
    have hserving : Serving (Trace.next trace)
        [.opened (Trace.next trace), .bind (Trace.next trace) dn password (.ok result)] :=
      .intro dn password result [] hcode (by simp)
    have hown : ∀ event ∈ [Event.opened (Trace.next trace),
        .bind (Trace.next trace) dn password (.ok result)],
        event.connection? = some (Trace.next trace) := by simp [Event.connection?]
    rw [← List.append_assoc]
    apply (h.opens (.serving _ hserving) hown rfl).release
    intro c' hc'
    cases hc'
    refine ⟨fun c hc => Nat.ne_of_lt (h.handle_lt c hc), ?_, ?_⟩
    · simp [Trace.next_append, Event.isOpened]
    · rw [Trace.life_append, h.below.life_eq_nil (Nat.le_refl _), List.nil_append,
        Trace.life_eq_self hown]
      exact hserving

theorem tries (h : Orderly client trace) {dn password : String}
    {answer : Except DirectoryError Bool} (htries : Tries dn password trace.next answer events) :
    Orderly client (trace ++ events) := by
  cases htries with
  | refused reason => exact h.refused reason
  | failed reason => exact h.opens (.failed dn password reason) (by simp [Event.connection?]) rfl
  | answered result => exact h.opens (.ended dn password result) (by simp [Event.connection?]) rfl

end Orderly

/-- Everything that a client does keeps the record in order. -/
theorem orderly_invariant : Invariant (Orderly (κ := κ)) where
  connects h hconnects := h.connects hconnects
  closes h := h.release (by simp)
  searches request answer h hc hclient := h.search hc request answer hclient
  drops h := h.drops
  tries h htries := h.tries htries

end DirectoryAuth.Ldap
