import DirectoryAuth.Ldap.Network

/-! A record of the operations on a network. Connections are numbered as they are opened. -/
namespace DirectoryAuth.Ldap

inductive Event where
  | refused (reason : String)
  | opened (connection : Nat)
  | bind (connection : Nat) (dn password : String) (answer : Except String Result)
  | search (connection : Nat) (request : SearchRequest) (answer : Except String SearchAnswer)
  | unbind (connection : Nat)

namespace Event

def isOpened : Event → Bool
  | opened _ => true
  | _ => false

/-- The filter of a search. -/
def filter? : Event → Option Filter
  | search _ request _ => some request.filter
  | _ => none

end Event

/-- The events so far, the latest last. -/
abbrev Trace := List Event

/-- The number of the next connection. -/
def Trace.next (trace : Trace) : Nat := trace.countP Event.isOpened

/-- The network with every operation recorded. -/
def Network.traced {κ σ : Type} (net : Network κ σ) : Network (Nat × κ) (σ × Trace) where
  connect s :=
    match net.connect s.1 with
    | (.ok c, t) => (.ok (s.2.next, c), t, s.2 ++ [.opened s.2.next])
    | (.error reason, t) => (.error reason, t, s.2 ++ [.refused reason])
  bind c dn password s :=
    let (answer, t) := net.bind c.2 dn password s.1
    (answer, t, s.2 ++ [.bind c.1 dn password answer])
  parses := net.parses
  search c request s :=
    let (answer, t) := net.search c.2 request s.1
    (answer, t, s.2 ++ [.search c.1 request answer])
  unbind c s := (net.unbind c.2 s.1, s.2 ++ [.unbind c.1])

/-- A search that is sent is recorded with its answer. -/
theorem Network.traced_ask_of_parses {κ σ : Type} (net : Network κ σ) (request : SearchRequest)
    (h : net.parses request.filter = true) (c : Nat × κ) (s : σ × Trace) :
    net.traced.ask c request s =
      match net.search c.2 request s.1 with
      | (.ok answer, t) => (.ok answer, t, s.2 ++ [.search c.1 request (.ok answer)])
      | (.error reason, t) =>
        (.error (.transport reason), t, s.2 ++ [.search c.1 request (.error reason)]) := by
  have hsent : net.traced.search c request s =
      ((net.search c.2 request s.1).1, (net.search c.2 request s.1).2,
        s.2 ++ [.search c.1 request (net.search c.2 request s.1).1]) := rfl
  rw [net.traced.ask_of_parses request h, hsent]
  rcases net.search c.2 request s.1 with ⟨reason | answer, t⟩ <;> rfl

end DirectoryAuth.Ldap
