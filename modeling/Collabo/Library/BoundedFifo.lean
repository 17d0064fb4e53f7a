import Collabo.Library.PartialRuns

/-!
# Bounded first-in first-out queues

The abstract queue is the list of the elements it holds, oldest first. An
implementation is compared with it call by call: the two are given the same
calls and their replies are compared. `replies_agree_iff` settles such a
comparison for every list of calls at once, from what one call does.
-/

namespace BoundedFifo

open PartialRuns

set_option autoImplicit false

variable {Element : Type*}

inductive Call (Element : Type*) where
  | enqueue (element : Element)
  | dequeue
  | clear
  deriving DecidableEq

inductive Reply (Element : Type*) where
  | accepted
  | full
  | delivered (element : Element)
  | nothing
  | cleared
  deriving DecidableEq

/-- An enqueue that would make the queue hold more than `capacity` elements is
refused and changes nothing; every other one appends. -/
def step (capacity : Nat) (held : List Element) :
    Call Element → Reply Element × List Element
  | .enqueue element =>
      if held.length < capacity then (.accepted, held ++ [element]) else (.full, held)
  | .dequeue =>
      match held with
      | [] => (.nothing, [])
      | oldest :: rest => (.delivered oldest, rest)
  | .clear => (.cleared, [])

def Callable (held : List Element) : Call Element → Prop
  | .dequeue => held ≠ []
  | _ => True

section Comparison

variable {State Event Output : Type*}

def replies (machine : State → Event → Output × State) : State → List Event → List Output
  | _, [] => []
  | state, event :: rest =>
      (machine state event).1 :: replies machine (machine state event).2 rest

def advance (machine : State → Event → Output × State) (state : State) (event : Event) :
    Option State :=
  some (machine state event).2

variable {Concrete Abstract Monitor : Type*}

/-- Two machines are run side by side, with a monitor that sees the calls only.
If related machines answer alike and stay related whenever the monitor's
condition holds, and answer differently whenever it does not, then their
replies to a list of calls agree exactly when the calls keep the condition. -/
theorem replies_agree_iff {concrete : Concrete → Event → Output × Concrete}
    {abstract : Abstract → Event → Output × Abstract} {count : Monitor → Event → Monitor}
    (related : Concrete → Abstract → Monitor → Prop) (legal : Abstract → Event → Prop)
    {condition : Monitor → Event → Prop}
    (agree : ∀ state shadow seen event, related state shadow seen → legal shadow event →
      condition seen event → (concrete state event).1 = (abstract shadow event).1 ∧
        related (concrete state event).2 (abstract shadow event).2 (count seen event))
    (differ : ∀ state shadow seen event, related state shadow seen → legal shadow event →
      ¬condition seen event → (concrete state event).1 ≠ (abstract shadow event).1)
    {events : List Event} {state : Concrete} {shadow : Abstract} {seen : Monitor}
    (initial : related state shadow seen)
    (callable : Along (advance abstract) legal shadow events) :
    replies concrete state events = replies abstract shadow events ↔
      Along (fun seen event => some (count seen event)) condition seen events := by
  induction events generalizing state shadow seen with
  | nil => simp [replies, Along]
  | cons event rest induction =>
      have later := callable.2 _ rfl
      by_cases kept : condition seen event
      · rcases agree state shadow seen event initial callable.1 kept with ⟨same, carried⟩
        have tails := induction carried later
        simp only [replies, List.cons.injEq, same, true_and, tails, Along, kept,
          Option.some.injEq, forall_eq']
      · have heads := differ state shadow seen event initial callable.1 kept
        simp only [replies, List.cons.injEq, heads, false_and, Along, kept]

end Comparison

end BoundedFifo
