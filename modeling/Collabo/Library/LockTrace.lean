import Mathlib.Tactic.TypeStar

/-!
# What one thread does to a lock

The operations of one thread on a lock with a shared and an exclusive mode, in
the order in which it makes them. The lock is not recursive: a thread that asks
for it exclusively while it holds it in either mode waits for itself.
-/

namespace LockTrace

set_option autoImplicit false

inductive Hold where
  | shared
  | exclusive
  deriving DecidableEq, Repr

inductive LockOp where
  | request (hold : Hold)
  | release
  deriving DecidableEq, Repr

def heldAfter : List Hold → List LockOp → List Hold
  | held, [] => held
  | held, .request hold :: rest => heldAfter (hold :: held) rest
  | held, .release :: rest => heldAfter held.tail rest

/-- No exclusive request is made while the thread holds the lock. -/
def NeverWaitsForItself : List Hold → List LockOp → Prop
  | _, [] => True
  | held, .request .shared :: rest => NeverWaitsForItself (.shared :: held) rest
  | held, .request .exclusive :: rest =>
      held = [] ∧ NeverWaitsForItself (.exclusive :: held) rest
  | held, .release :: rest => NeverWaitsForItself held.tail rest

/-- A scope that holds the lock: the request, what is done, and the release. -/
def holding (hold : Hold) (inner : List LockOp) : List LockOp :=
  .request hold :: (inner ++ [.release])

section Rules

theorem held_after_append (held : List Hold) (first second : List LockOp) :
    heldAfter held (first ++ second) = heldAfter (heldAfter held first) second := by
  induction first generalizing held with
  | nil => rfl
  | cons op rest induction =>
      cases op with
      | request hold => exact induction (hold :: held)
      | release => exact induction held.tail

theorem never_waits_append (held : List Hold) (first second : List LockOp) :
    NeverWaitsForItself held (first ++ second) ↔
      NeverWaitsForItself held first ∧ NeverWaitsForItself (heldAfter held first) second := by
  induction first generalizing held with
  | nil => simp [NeverWaitsForItself, heldAfter]
  | cons op rest induction =>
      cases op with
      | request hold =>
          cases hold with
          | shared => exact induction (.shared :: held)
          | exclusive =>
              simp only [List.cons_append, NeverWaitsForItself, heldAfter,
                induction (.exclusive :: held), and_assoc]
      | release => exact induction held.tail

theorem never_waits_holding_exclusive (held : List Hold) (inner : List LockOp) :
    NeverWaitsForItself held (holding .exclusive inner) ↔
      held = [] ∧ NeverWaitsForItself (.exclusive :: held) inner := by
  simp only [holding, NeverWaitsForItself, never_waits_append, and_true]

theorem held_after_holding {held : List Hold} {hold : Hold} {inner : List LockOp}
    (balanced : heldAfter (hold :: held) inner = hold :: held) :
    heldAfter held (holding hold inner) = held := by
  simp only [holding, heldAfter, held_after_append, balanced, List.tail_cons]

end Rules

end LockTrace
