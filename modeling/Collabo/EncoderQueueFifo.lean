import Collabo.EncoderQueue
import Collabo.Library.BoundedFifo

/-!
# The element queue against a bounded FIFO

`EncoderCQ` and the abstract queue of the same capacity are given the same
calls. A call that addresses a slot outside the array has no defined reply. The
two agree exactly while no more enqueues than the capacity have been made since
the queue was built or last cleared: at the last position `rear` wraps to zero,
the test for a full queue does not see it, and the slot of position zero lies in
front of the array.
-/

namespace Collabo.EncoderQueueFifo

open PartialRuns BoundedFifo Collabo.EncoderQueue

set_option autoImplicit false

variable {Payload : Type}

abbrev QueueCall (Payload : Type) := Call (EncoderElement Payload)
abbrev QueueReply (Payload : Type) := Option (Reply (EncoderElement Payload))

/-- A reply counts only if every access of the call fell inside the array. -/
def observed (maxsize : Nat) (accessed : List Int) (reply : QueueReply Payload) :
    QueueReply Payload :=
  if Inside maxsize accessed then reply else none

def call (q : EncoderCQ Payload) : QueueCall Payload → QueueReply Payload × EncoderCQ Payload
  | .enqueue element =>
      let done := q.enqueue element
      let reply : QueueReply Payload :=
        match done.msg with
        | .success => some .accepted
        | .full => some .full
        | .stop => none
        | .noElement => none
      (observed q.maxsize done.accessed reply, done.queue)
  | .dequeue =>
      match q.dequeue with
      | none => (some .nothing, q)
      | some done =>
          let reply : QueueReply Payload :=
            match done.msg with
            | .success => done.element.map Reply.delivered
            | .noElement => some .nothing
            | .stop => none
            | .full => none
          (observed q.maxsize done.accessed reply, done.queue)
  | .clear => (observed q.maxsize q.clear.accessed (some .cleared), q.clear.queue)

/-- The bounded FIFO that the queue is compared with. -/
def expected (maxsize : Nat) (held : List (EncoderElement Payload)) (event : QueueCall Payload) :
    QueueReply Payload × List (EncoderElement Payload) :=
  (some (step maxsize held event).1, (step maxsize held event).2)

def enqueuesSinceClear (used : Nat) : QueueCall Payload → Nat
  | .enqueue _ => used + 1
  | .dequeue => used
  | .clear => 0

def FindsSlot (maxsize used : Nat) : QueueCall Payload → Prop
  | .enqueue _ => used < maxsize
  | .dequeue => True
  | .clear => True

/-- Between two clears, and before the first, at most `maxsize` enqueues are made. -/
def AtMostCapacityEnqueues (maxsize : Nat) (calls : List (QueueCall Payload)) : Prop :=
  Along (fun used event => some (enqueuesSinceClear used event)) (FindsSlot maxsize) 0 calls

/-- The queue is not stopped, holds what the abstract queue holds, and `rear`
counts the enqueues since the last clear. -/
structure Related (maxsize : Nat) (q : EncoderCQ Payload) (held : List (EncoderElement Payload))
    (used : Nat) : Prop where
  holds : Holds q held
  running : q.isStop = false
  capacity : q.maxsize = maxsize
  counted : q.rear = used

theorem related_of_size (mIsWait : Bool) (maxsize : Nat) :
    Related maxsize (EncoderCQ.ofSize mIsWait maxsize : EncoderCQ Payload) [] 0 where
  holds := holds_of_size mIsWait maxsize
  running := rfl
  capacity := rfl
  counted := rfl

theorem inside_slot {maxsize slot : Nat} (bound : slot < maxsize) :
    Inside maxsize [(slot : Int)] := by
  intro index member
  rw [List.mem_singleton.mp member]
  omega

theorem inside_cleared {q : EncoderCQ Payload} {held : List (EncoderElement Payload)}
    (holds : Holds q held) : Inside q.maxsize q.clear.accessed := by
  intro index member
  obtain ⟨slot, slotMember, rfl⟩ := List.mem_map.mp member
  have ordered := holds.ordered
  have bounded := holds.bounded
  rw [EncoderCQ.clearedSlots, if_pos ordered, List.mem_range'_1] at slotMember
  simp only [Int.ofNat_eq_natCast]
  omega

theorem enqueue_agrees {maxsize used : Nat} {q : EncoderCQ Payload}
    {held : List (EncoderElement Payload)} (related : Related maxsize q held used)
    (room : used < maxsize) (element : EncoderElement Payload) :
    (call q (.enqueue element)).1 = (expected maxsize held (.enqueue element)).1 ∧
      Related maxsize (call q (.enqueue element)).2 (expected maxsize held (.enqueue element)).2
        (used + 1) := by
  have slotLeft : q.rear < q.maxsize := by rw [related.counted, related.capacity]; exact room
  obtain ⟨result, appended⟩ := enqueue_appends related.holds related.running slotLeft element
  have counted := related.holds.length_eq
  have notFull : held.length < maxsize := by
    have capacity := related.capacity
    omega
  simp only [call, expected, step, if_pos notFull]
  rw [result] at appended ⊢
  refine ⟨?_, ⟨appended, related.running, related.capacity, ?_⟩⟩
  · rw [observed, if_pos (inside_slot slotLeft)]
  · simp only [related.counted]

theorem dequeue_agrees {maxsize used : Nat} {q : EncoderCQ Payload}
    {held : List (EncoderElement Payload)} (related : Related maxsize q held used)
    (nonempty : held ≠ []) :
    (call q .dequeue).1 = (expected maxsize held .dequeue).1 ∧
      Related maxsize (call q .dequeue).2 (expected maxsize held .dequeue).2 used := by
  cases held with
  | nil => exact absurd rfl nonempty
  | cons oldest rest =>
      obtain ⟨result, remaining⟩ := dequeue_delivers related.holds related.running
      have slotInside : q.front < q.maxsize := by
        have counted := related.holds.length_eq
        have bounded := related.holds.bounded
        simp only [List.length_cons] at counted
        omega
      simp only [call, expected, step, result]
      refine ⟨?_, ⟨remaining, related.running, related.capacity, related.counted⟩⟩
      rw [observed, if_pos (inside_slot slotInside)]
      rfl

theorem clear_agrees {maxsize used : Nat} {q : EncoderCQ Payload}
    {held : List (EncoderElement Payload)} (related : Related maxsize q held used) :
    (call q .clear).1 = (expected maxsize held .clear).1 ∧
      Related maxsize (call q .clear).2 (expected maxsize held .clear).2 0 := by
  simp only [call, expected, step]
  refine ⟨?_, ⟨clear_empties related.holds, related.running, related.capacity, rfl⟩⟩
  rw [observed, if_pos (inside_cleared related.holds)]

/-- The call that makes the replies part: the store goes to the slot in front of
the array. -/
theorem enqueue_past_end_differs {maxsize used : Nat} {q : EncoderCQ Payload}
    {held : List (EncoderElement Payload)} (related : Related maxsize q held used)
    (past : ¬used < maxsize) (element : EncoderElement Payload) :
    (call q (.enqueue element)).1 ≠ (expected maxsize held (.enqueue element)).1 := by
  have atEnd : q.rear = q.maxsize := by
    have bounded := related.holds.bounded
    have counted := related.counted
    have capacity := related.capacity
    omega
  have outside : ¬Inside q.maxsize [-1] := by
    intro inside
    have nonneg := (inside (-1) (List.mem_singleton.mpr rfl)).1
    omega
  simp only [call, enqueue_past_end related.holds related.running atEnd, expected]
  rw [observed, if_neg outside]
  exact (Option.some_ne_none _).symm

/-- For every capacity and every list of calls that dequeues only what the FIFO
holds, the replies are those of the bounded FIFO exactly when at most
`maxsize` enqueues are made between two clears. -/
theorem queue_refines_fifo_iff (mIsWait : Bool) (maxsize : Nat)
    (calls : List (QueueCall Payload))
    (callable : Along (advance (expected maxsize)) Callable [] calls) :
    replies call (EncoderCQ.ofSize mIsWait maxsize) calls =
        replies (expected maxsize) [] calls ↔
      AtMostCapacityEnqueues maxsize calls := by
  refine replies_agree_iff (Related maxsize) Callable ?_ ?_
    (related_of_size mIsWait maxsize) callable
  · intro q held used event related legal condition
    cases event with
    | enqueue element => exact enqueue_agrees related condition element
    | dequeue => exact dequeue_agrees related legal
    | clear => exact clear_agrees related
  · intro q held used event related legal broken
    cases event with
    | enqueue element => exact enqueue_past_end_differs related broken element
    | dequeue => exact absurd trivial broken
    | clear => exact absurd trivial broken

def sampleElement (data : Nat) : EncoderElement Nat := { data := data, size := 1, fake := false }

theorem queue_refines_fifo_iff_one :
    replies call (EncoderCQ.ofSize true 1)
        [.enqueue (sampleElement 7), .dequeue, .clear, .enqueue (sampleElement 8)] =
      replies (expected 1) []
        [.enqueue (sampleElement 7), .dequeue, .clear, .enqueue (sampleElement 8)] :=
  (queue_refines_fifo_iff true 1 _
    (by simp [Along, advance, expected, step, Callable, sampleElement])).mpr
    (by simp [AtMostCapacityEnqueues, Along, FindsSlot, enqueuesSinceClear])

/-- A queue of capacity one that holds an element takes a second one: the enqueue
reports success instead of a full queue, addresses the slot in front of the
array, and leaves a queue of size zero. -/
theorem second_enqueue_of_one_slot_is_not_refused :
    let once := ((EncoderCQ.ofSize true 1).enqueue (sampleElement 7)).queue
    let twice := once.enqueue (sampleElement 8)
    once.size = 1 ∧ twice.msg = .success ∧ twice.accessed = [-1] ∧ twice.queue.size = 0 ∧
      replies call (EncoderCQ.ofSize true 1)
          [.enqueue (sampleElement 7), .enqueue (sampleElement 8)] ≠
        replies (expected 1) [] [.enqueue (sampleElement 7), .enqueue (sampleElement 8)] := by
  decide

end Collabo.EncoderQueueFifo
