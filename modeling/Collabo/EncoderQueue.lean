import Mathlib.Data.List.Basic
import Mathlib.Data.Int.Notation
import Mathlib.Tactic.Common

/-!
# The element queue of the encoder

A transcription of `EncoderCQ`. The positions `front` and `rear` run over
`0 .. maxsize`, the array has `maxsize` slots, and the slot of a position is the
one before it. Nothing in the source checks a slot index against the array, so
each operation also reports the indices it used. A store outside the array
leaves the array as it was and a load outside it yields no element.
-/

namespace Collabo.EncoderQueue

set_option autoImplicit false

inductive QueueMsg where
  | success
  | stop
  | noElement
  | full
  deriving DecidableEq, Repr

/-- `data` stands for the buffer that the pointer owns. -/
structure EncoderElement (Payload : Type) where
  data : Payload
  size : Int
  fake : Bool
  deriving DecidableEq, Repr

/-- A slot that was never written holds no element. -/
structure EncoderCQ (Payload : Type) where
  front : Nat
  rear : Nat
  maxsize : Nat
  queue : List (Option (EncoderElement Payload))
  isStop : Bool
  isWait : Bool
  deriving DecidableEq, Repr

variable {Payload : Type}

def EncoderCQ.ofSize (mIsWait : Bool) (size : Nat) : EncoderCQ Payload where
  front := 0
  rear := 0
  maxsize := size
  queue := List.replicate size none
  isStop := false
  isWait := mIsWait

/-- The constructor without a size, which `Encoder` uses for both its queues. -/
def EncoderCQ.new (mIsWait : Bool) : EncoderCQ Payload := EncoderCQ.ofSize mIsWait 40

def storeAt (queue : List (Option (EncoderElement Payload))) (index : Int)
    (element : EncoderElement Payload) : List (Option (EncoderElement Payload)) :=
  if 0 ≤ index then queue.set index.toNat (some element) else queue

def loadAt (queue : List (Option (EncoderElement Payload))) (index : Int) :
    Option (EncoderElement Payload) :=
  if 0 ≤ index then (queue[index.toNat]?).join else none

/-- What a call returned, the slots it addressed and the queue it left. -/
structure Done (Payload : Type) where
  msg : QueueMsg
  element : Option (EncoderElement Payload)
  accessed : List Int
  queue : EncoderCQ Payload
  deriving DecidableEq, Repr

def EncoderCQ.enqueue (q : EncoderCQ Payload) (element : EncoderElement Payload) : Done Payload :=
  if q.isStop then { msg := .stop, element := none, accessed := [], queue := q }
  else if q.front = q.rear + 1 then
    { msg := .full, element := none, accessed := [], queue := q }
  else
    let rear := if q.rear = q.maxsize then 0 else q.rear + 1
    let slot : Int := (rear : Int) - 1
    { msg := .success
      element := none
      accessed := [slot]
      queue := { q with rear := rear, queue := storeAt q.queue slot element } }

/-- A call that reaches `cond.wait` has no result of its own. -/
def EncoderCQ.dequeue (q : EncoderCQ Payload) : Option (Done Payload) :=
  if q.front = q.rear ∧ ¬q.isWait then
    some { msg := .noElement, element := none, accessed := [], queue := q }
  else if q.front = q.rear ∧ ¬q.isStop then none
  else if q.isStop then
    some { msg := .stop, element := none, accessed := [], queue := q }
  else
    let front := if q.front = q.maxsize then 0 else q.front + 1
    let slot : Int := (front : Int) - 1
    some
      { msg := .success
        element := loadAt q.queue slot
        accessed := [slot]
        queue := { q with front := front } }

def EncoderCQ.clearedSlots (q : EncoderCQ Payload) : List Nat :=
  if q.front ≤ q.rear then List.range' q.front (q.rear - q.front)
  else List.range q.rear ++ List.range' q.front (q.maxsize - q.front)

structure Cleared (Payload : Type) where
  released : List Payload
  accessed : List Int
  queue : EncoderCQ Payload
  deriving DecidableEq, Repr

def EncoderCQ.clear (q : EncoderCQ Payload) : Cleared Payload where
  released := q.clearedSlots.filterMap fun slot =>
    (loadAt q.queue (slot : Int)).map EncoderElement.data
  accessed := q.clearedSlots.map Int.ofNat
  queue := { q with rear := 0, front := 0 }

def EncoderCQ.size (q : EncoderCQ Payload) : Int :=
  if q.front ≤ q.rear then (q.rear : Int) - q.front else (q.maxsize : Int) + q.rear - q.front

def EncoderCQ.start (q : EncoderCQ Payload) : EncoderCQ Payload := { q with isStop := false }

def EncoderCQ.stop (q : EncoderCQ Payload) : EncoderCQ Payload := { q with isStop := true }

/-- The slots from `front` up to `rear`, which is where the held elements lie as
long as no position has wrapped. -/
def EncoderCQ.heldSlots (q : EncoderCQ Payload) : List (Option (EncoderElement Payload)) :=
  (q.queue.take q.rear).drop q.front

/-- The queue holds exactly `held`, oldest first, and neither position has
wrapped since it was last empty at the start of the array. -/
structure Holds (q : EncoderCQ Payload) (held : List (EncoderElement Payload)) : Prop where
  ordered : q.front ≤ q.rear
  bounded : q.rear ≤ q.maxsize
  slots : q.queue.length = q.maxsize
  contents : q.heldSlots = held.map some

def Inside (maxsize : Nat) (accessed : List Int) : Prop :=
  ∀ slot ∈ accessed, 0 ≤ slot ∧ slot < maxsize

instance (maxsize : Nat) (accessed : List Int) : Decidable (Inside maxsize accessed) :=
  inferInstanceAs (Decidable (∀ slot ∈ accessed, 0 ≤ slot ∧ slot < maxsize))

theorem holds_of_size (mIsWait : Bool) (size : Nat) :
    Holds (EncoderCQ.ofSize mIsWait size : EncoderCQ Payload) [] where
  ordered := Nat.le_refl _
  bounded := Nat.zero_le _
  slots := List.length_replicate
  contents := rfl

theorem Holds.length_eq {q : EncoderCQ Payload} {held : List (EncoderElement Payload)}
    (holds : Holds q held) : held.length = q.rear - q.front := by
  have counted := congrArg List.length holds.contents
  have ordered := holds.ordered
  have bounded := holds.bounded
  have slots := holds.slots
  simp only [EncoderCQ.heldSlots, List.length_drop, List.length_take, List.length_map] at counted
  omega

theorem Holds.start {q : EncoderCQ Payload} {held : List (EncoderElement Payload)}
    (holds : Holds q held) : Holds q.start held :=
  ⟨holds.ordered, holds.bounded, holds.slots, holds.contents⟩

theorem Holds.stop {q : EncoderCQ Payload} {held : List (EncoderElement Payload)}
    (holds : Holds q held) : Holds q.stop held :=
  ⟨holds.ordered, holds.bounded, holds.slots, holds.contents⟩

theorem enqueue_keeps_flag (q : EncoderCQ Payload) (element : EncoderElement Payload) :
    (q.enqueue element).queue.isStop = q.isStop := by
  unfold EncoderCQ.enqueue
  split_ifs <;> rfl

theorem enqueue_keeps_waits (q : EncoderCQ Payload) (element : EncoderElement Payload) :
    (q.enqueue element).queue.isWait = q.isWait := by
  unfold EncoderCQ.enqueue
  split_ifs <;> rfl

theorem store_at_slot (queue : List (Option (EncoderElement Payload))) (slot : Nat)
    (element : EncoderElement Payload) :
    storeAt queue (slot : Int) element = queue.set slot (some element) := by
  rw [storeAt, if_pos (Int.natCast_nonneg slot), Int.toNat_natCast]

theorem load_at_slot (queue : List (Option (EncoderElement Payload))) (slot : Nat) :
    loadAt queue (slot : Int) = (queue[slot]?).join := by
  rw [loadAt, if_pos (Int.natCast_nonneg slot), Int.toNat_natCast]

theorem slot_of_position (position : Nat) :
    ((position + 1 : Nat) - 1 : Int) = (position : Int) := by
  omega

private theorem take_set_succ {Item : Type} (items : List Item) (position : Nat) (item : Item)
    (bound : position < items.length) :
    (items.set position item).take (position + 1) = items.take position ++ [item] := by
  have bounded : position < (items.set position item).length := by simpa using bound
  rw [List.take_succ_eq_append_getElem bounded, List.getElem_set_self, List.take_set_of_le]
  exact Nat.le_refl position

theorem enqueue_appends {q : EncoderCQ Payload} {held : List (EncoderElement Payload)}
    (holds : Holds q held) (running : q.isStop = false) (room : q.rear < q.maxsize)
    (element : EncoderElement Payload) :
    q.enqueue element =
        { msg := .success
          element := none
          accessed := [(q.rear : Int)]
          queue := { q with
            rear := q.rear + 1
            queue := q.queue.set q.rear (some element) } } ∧
      Holds (q.enqueue element).queue (held ++ [element]) := by
  have ordered := holds.ordered
  have notFull : q.front ≠ q.rear + 1 := by omega
  have notEnd : q.rear ≠ q.maxsize := by omega
  have result : q.enqueue element =
      { msg := .success
        element := none
        accessed := [(q.rear : Int)]
        queue := { q with
          rear := q.rear + 1
          queue := q.queue.set q.rear (some element) } } := by
    simp only [EncoderCQ.enqueue, running, Bool.false_eq_true, if_false, if_neg notFull,
      if_neg notEnd, slot_of_position, store_at_slot]
  refine ⟨result, ?_⟩
  rw [result]
  refine ⟨by simp only; omega, by simp only; omega, by simpa using holds.slots, ?_⟩
  have inside : q.rear < q.queue.length := by rw [holds.slots]; exact room
  have frontInside : q.front ≤ (q.queue.take q.rear).length := by
    rw [List.length_take]
    omega
  simp only [EncoderCQ.heldSlots]
  rw [take_set_succ _ _ _ inside, List.drop_append_of_le_length frontInside]
  have contents := holds.contents
  rw [EncoderCQ.heldSlots] at contents
  rw [contents, List.map_append, List.map_cons, List.map_nil]

/-- A dequeue of a queue that holds something delivers its oldest element. -/
theorem dequeue_delivers {q : EncoderCQ Payload} {oldest : EncoderElement Payload}
    {rest : List (EncoderElement Payload)} (holds : Holds q (oldest :: rest))
    (running : q.isStop = false) :
    q.dequeue =
        some
          { msg := .success
            element := some oldest
            accessed := [(q.front : Int)]
            queue := { q with front := q.front + 1 } } ∧
      Holds { q with front := q.front + 1 } rest := by
  have counted := holds.length_eq
  have bounded := holds.bounded
  have below : q.front < q.rear := by simp only [List.length_cons] at counted; omega
  have notEmpty : q.front ≠ q.rear := by omega
  have notEnd : q.front ≠ q.maxsize := by omega
  have contents := holds.contents
  have shape : q.front < (q.queue.take q.rear).length := by
    rw [List.length_take, holds.slots]
    omega
  rw [EncoderCQ.heldSlots, List.drop_eq_getElem_cons shape, List.map_cons] at contents
  obtain ⟨headSlot, tailSlots⟩ := List.cons.inj contents
  have slot : q.queue[q.front]? = some (some oldest) := by
    rw [List.getElem_take] at headSlot
    rw [List.getElem?_eq_getElem (by rw [holds.slots]; omega), headSlot]
  refine ⟨?_, ⟨by simp only; omega, bounded, holds.slots, tailSlots⟩⟩
  simp only [EncoderCQ.dequeue, notEmpty, false_and, if_false, running, Bool.false_eq_true,
    if_neg notEnd, slot_of_position, load_at_slot, slot, Option.join_some]

theorem clear_empties {q : EncoderCQ Payload} {held : List (EncoderElement Payload)}
    (holds : Holds q held) : Holds q.clear.queue [] where
  ordered := Nat.le_refl _
  bounded := Nat.zero_le _
  slots := holds.slots
  contents := by simp [EncoderCQ.heldSlots, EncoderCQ.clear]

/-- An enqueue at the last position stores in front of the array, whatever the
queue holds. -/
theorem enqueue_past_end {q : EncoderCQ Payload} {held : List (EncoderElement Payload)}
    (holds : Holds q held) (running : q.isStop = false) (full : q.rear = q.maxsize)
    (element : EncoderElement Payload) :
    q.enqueue element =
      { msg := .success
        element := none
        accessed := [-1]
        queue := { q with rear := 0 } } := by
  have ordered := holds.ordered
  have notFull : q.front ≠ q.rear + 1 := by omega
  simp only [EncoderCQ.enqueue, running, Bool.false_eq_true, if_false, if_neg notFull, if_pos full,
    storeAt]
  rfl

end Collabo.EncoderQueue
