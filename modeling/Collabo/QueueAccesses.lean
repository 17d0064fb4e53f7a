import Collabo.EncoderQueue
import Collabo.Library.PartialRuns

/-!
# The slots that the calls of the element queue address

A run of calls, with `start` and `stop` among them and with each wait of a
`dequeue` ending at any later time. A position is moved to zero behind the last
one, and the slot of position zero lies in front of the array. Which call gets
there depends on how much was accepted and taken since the last `clear`, and not
on how much the queue holds.
-/

namespace Collabo.QueueAccesses

open PartialRuns Collabo.EncoderQueue

set_option autoImplicit false

variable {Payload : Type}

def dequeueAfterWait (q : EncoderCQ Payload) : Done Payload :=
  if q.isStop then { msg := .stop, element := none, accessed := [], queue := q }
  else
    let front := if q.front = q.maxsize then 0 else q.front + 1
    let slot : Int := (front : Int) - 1
    { msg := .success
      element := loadAt q.queue slot
      accessed := [slot]
      queue := { q with front := front } }

/-- `waiting` counts the calls of `dequeue` in their waits; `accepted` and `taken`
count the elements that went in and out since the queue was built or cleared. -/
structure Used (Payload : Type) where
  q : EncoderCQ Payload
  waiting : Nat
  accepted : Nat
  taken : Nat
  deriving DecidableEq, Repr

inductive QueueCall (Payload : Type) where
  | enqueue (element : EncoderElement Payload)
  | dequeue
  | waitEnds
  | clear
  | start
  | stop

def unused (mIsWait : Bool) (maxsize : Nat) : Used Payload where
  q := EncoderCQ.ofSize mIsWait maxsize
  waiting := 0
  accepted := 0
  taken := 0

def counted (msg : QueueMsg) : Nat := if msg = .success then 1 else 0

/-- A `dequeue` that waits returns nothing yet. -/
def step (used : Used Payload) : QueueCall Payload → Option (Used Payload)
  | .enqueue element =>
      let done := used.q.enqueue element
      some { used with q := done.queue, accepted := used.accepted + counted done.msg }
  | .dequeue =>
      match used.q.dequeue with
      | none => some { used with waiting := used.waiting + 1 }
      | some done => some { used with q := done.queue, taken := used.taken + counted done.msg }
  | .waitEnds =>
      let done := dequeueAfterWait used.q
      match used.waiting with
      | 0 => none
      | others + 1 =>
          some
            { used with
              q := done.queue
              waiting := others
              taken := used.taken + counted done.msg }
  | .clear => some { used with q := used.q.clear.queue, accepted := 0, taken := 0 }
  | .start => some { used with q := used.q.start }
  | .stop => some { used with q := used.q.stop }

def accessed (used : Used Payload) : QueueCall Payload → List Int
  | .enqueue element => (used.q.enqueue element).accessed
  | .dequeue =>
      match used.q.dequeue with
      | none => []
      | some done => done.accessed
  | .waitEnds => (dequeueAfterWait used.q).accessed
  | .clear => used.q.clear.accessed
  | .start => []
  | .stop => []

def AccessesInside (used : Used Payload) (call : QueueCall Payload) : Prop :=
  Inside used.q.maxsize (accessed used call)

def Accepts (q : EncoderCQ Payload) : Prop := q.isStop = false ∧ q.front ≠ q.rear + 1

def Takes (q : EncoderCQ Payload) : Prop := q.isStop = false ∧ q.front ≠ q.rear

/-- Neither more elements than the capacity are accepted between two calls of
`clear`, nor are more taken. -/
def WithinCapacity (used : Used Payload) : QueueCall Payload → Prop
  | .enqueue _ => Accepts used.q → used.accepted < used.q.maxsize
  | .dequeue => Takes used.q → used.taken < used.q.maxsize
  | .waitEnds => used.q.isStop = false → used.taken < used.q.maxsize
  | .clear => True
  | .start => True
  | .stop => True

/-- No position has been moved back to zero since the last `clear`. -/
structure Unwrapped (used : Used Payload) : Prop where
  rear : used.q.rear = used.accepted
  front : used.q.front = used.taken
  rearBounded : used.q.rear ≤ used.q.maxsize
  frontBounded : used.q.front ≤ used.q.maxsize

def nextPosition (maxsize position : Nat) : Nat := if position = maxsize then 0 else position + 1

theorem enqueue_accepts {q : EncoderCQ Payload} (accepts : Accepts q)
    (element : EncoderElement Payload) :
    let slot : Int := (nextPosition q.maxsize q.rear : Int) - 1
    q.enqueue element =
      { msg := .success
        element := none
        accessed := [slot]
        queue := { q with
          rear := nextPosition q.maxsize q.rear
          queue := storeAt q.queue slot element } } := by
  rcases accepts with ⟨running, room⟩
  simp only [EncoderCQ.enqueue, running, Bool.false_eq_true, if_false, if_neg room, nextPosition]

theorem enqueue_refuses {q : EncoderCQ Payload} (refuses : ¬Accepts q)
    (element : EncoderElement Payload) :
    (q.enqueue element).accessed = [] ∧ (q.enqueue element).queue = q ∧
      (q.enqueue element).msg ≠ .success := by
  unfold EncoderCQ.enqueue
  split_ifs with stopped full last
  · exact ⟨rfl, rfl, QueueMsg.noConfusion⟩
  · exact ⟨rfl, rfl, QueueMsg.noConfusion⟩
  · exact absurd ⟨by simpa using stopped, full⟩ refuses
  · exact absurd ⟨by simpa using stopped, full⟩ refuses

theorem after_wait_takes {q : EncoderCQ Payload} (running : q.isStop = false) :
    let slot : Int := (nextPosition q.maxsize q.front : Int) - 1
    dequeueAfterWait q =
      { msg := .success
        element := loadAt q.queue slot
        accessed := [slot]
        queue := { q with front := nextPosition q.maxsize q.front } } := by
  simp only [dequeueAfterWait, running, Bool.false_eq_true, if_false, nextPosition]

theorem after_wait_stopped {q : EncoderCQ Payload} (stopped : q.isStop = true) :
    dequeueAfterWait q = { msg := .stop, element := none, accessed := [], queue := q } := by
  simp only [dequeueAfterWait, stopped, if_true]

/-- A dequeue that does not wait goes on like one whose wait is over. -/
theorem dequeue_takes {q : EncoderCQ Payload} (takes : Takes q) :
    q.dequeue = some (dequeueAfterWait q) := by
  rcases takes with ⟨running, nonempty⟩
  simp only [EncoderCQ.dequeue, dequeueAfterWait, nonempty, false_and, if_false, running,
    Bool.false_eq_true]

theorem dequeue_idle {q : EncoderCQ Payload} {done : Done Payload} (idle : ¬Takes q)
    (returned : q.dequeue = some done) :
    done.accessed = [] ∧ done.queue = q ∧ done.msg ≠ .success := by
  unfold EncoderCQ.dequeue at returned
  split_ifs at returned with polled blocked stopped
  · cases returned
    exact ⟨rfl, rfl, QueueMsg.noConfusion⟩
  · cases returned
    exact ⟨rfl, rfl, QueueMsg.noConfusion⟩
  · exact absurd ⟨by simpa using stopped, fun empty => blocked ⟨empty, stopped⟩⟩ idle
  · exact absurd ⟨by simpa using stopped, fun empty => blocked ⟨empty, stopped⟩⟩ idle

theorem inside_nil (maxsize : Nat) : Inside maxsize [] := fun _ member => nomatch member

theorem next_slot_inside_iff {position maxsize : Nat} (bounded : position ≤ maxsize) :
    Inside maxsize [(nextPosition maxsize position : Int) - 1] ↔ position < maxsize := by
  simp only [Inside, List.forall_mem_singleton, nextPosition]
  split_ifs with last
  · exact iff_of_false (fun inside => absurd inside.1 (by decide)) (by omega)
  · exact iff_of_true ⟨by omega, by omega⟩ (by omega)

theorem cleared_inside {used : Used Payload} (unwrapped : Unwrapped used) :
    Inside used.q.maxsize used.q.clear.accessed := by
  have rearBounded := unwrapped.rearBounded
  intro index member
  rcases List.mem_map.mp member with ⟨slot, slotMember, same⟩
  rw [← same, Int.ofNat_eq_natCast]
  unfold EncoderCQ.clearedSlots at slotMember
  split_ifs at slotMember with ordered
  · have within := List.mem_range'_1.mp slotMember
    omega
  · rcases List.mem_append.mp slotMember with low | high
    · have within := List.mem_range.mp low
      omega
    · have within := List.mem_range'_1.mp high
      omega

theorem counted_refusal {msg : QueueMsg} (failed : msg ≠ .success) : counted msg = 0 :=
  if_neg failed

section Calls

variable {used : Used Payload} (unwrapped : Unwrapped used)

include unwrapped

theorem enqueue_inside_iff (element : EncoderElement Payload) :
    AccessesInside used (.enqueue element) ↔ WithinCapacity used (.enqueue element) := by
  have room := next_slot_inside_iff unwrapped.rearBounded
  change Inside used.q.maxsize (used.q.enqueue element).accessed ↔
    (Accepts used.q → used.accepted < used.q.maxsize)
  by_cases accepts : Accepts used.q
  · rw [enqueue_accepts accepts, ← unwrapped.rear]
    exact room.trans ⟨fun inside _ => inside, fun inside => inside accepts⟩
  · rw [(enqueue_refuses accepts element).1]
    exact iff_of_true (inside_nil _) fun other => absurd other accepts

theorem after_wait_inside_iff :
    AccessesInside used .waitEnds ↔ WithinCapacity used .waitEnds := by
  have room := next_slot_inside_iff unwrapped.frontBounded
  change Inside used.q.maxsize (dequeueAfterWait used.q).accessed ↔
    (used.q.isStop = false → used.taken < used.q.maxsize)
  cases flag : used.q.isStop with
  | false =>
      rw [after_wait_takes flag, ← unwrapped.front]
      exact room.trans ⟨fun inside _ => inside, fun inside => inside rfl⟩
  | true =>
      rw [after_wait_stopped flag]
      exact iff_of_true (inside_nil _) Bool.noConfusion

theorem dequeue_inside_iff : AccessesInside used .dequeue ↔ WithinCapacity used .dequeue := by
  by_cases takes : Takes used.q
  · have same : AccessesInside used .dequeue ↔ AccessesInside used .waitEnds := by
      simp only [AccessesInside, accessed, dequeue_takes takes]
    apply same.trans
    apply (after_wait_inside_iff unwrapped).trans
    exact ⟨fun inside _ => inside takes.1, fun inside _ => inside takes⟩
  · apply iff_of_true _ fun other => absurd other takes
    cases returned : used.q.dequeue with
    | none =>
        simp only [AccessesInside, accessed, returned]
        exact inside_nil _
    | some done =>
        simp only [AccessesInside, accessed, returned, (dequeue_idle takes returned).1]
        exact inside_nil _

theorem accesses_inside_step (call : QueueCall Payload) :
    AccessesInside used call ↔ WithinCapacity used call := by
  cases call with
  | enqueue element => exact enqueue_inside_iff unwrapped element
  | dequeue => exact dequeue_inside_iff unwrapped
  | waitEnds => exact after_wait_inside_iff unwrapped
  | clear => exact iff_of_true (cleared_inside unwrapped) trivial
  | start => exact iff_of_true (inside_nil _) trivial
  | stop => exact iff_of_true (inside_nil _) trivial

theorem taken_unwrapped (running : used.q.isStop = false) (room : used.taken < used.q.maxsize)
    (waiting : Nat) :
    Unwrapped
      { used with
        q := (dequeueAfterWait used.q).queue
        waiting := waiting
        taken := used.taken + counted (dequeueAfterWait used.q).msg } := by
  have front := unwrapped.front
  rw [after_wait_takes running, nextPosition, if_neg (by omega)]
  exact
    { rear := unwrapped.rear
      front := congrArg (· + 1) front
      rearBounded := unwrapped.rearBounded
      frontBounded := by
        change used.q.front + 1 ≤ used.q.maxsize
        omega }

theorem accepted_unwrapped {element : EncoderElement Payload} (accepts : Accepts used.q)
    (room : used.accepted < used.q.maxsize) :
    Unwrapped
      { used with
        q := (used.q.enqueue element).queue
        accepted := used.accepted + counted (used.q.enqueue element).msg } := by
  have rear := unwrapped.rear
  rw [enqueue_accepts accepts, nextPosition, if_neg (by omega)]
  exact
    { rear := congrArg (· + 1) rear
      front := unwrapped.front
      rearBounded := by
        change used.q.rear + 1 ≤ used.q.maxsize
        omega
      frontBounded := unwrapped.frontBounded }

/-- A step that leaves the positions and what was counted leaves them in order. -/
theorem unmoved_unwrapped {following : Used Payload} (rear : following.q.rear = used.q.rear)
    (front : following.q.front = used.q.front) (maxsize : following.q.maxsize = used.q.maxsize)
    (accepted : following.accepted = used.accepted) (taken : following.taken = used.taken) :
    Unwrapped following where
  rear := by rw [rear, accepted, unwrapped.rear]
  front := by rw [front, taken, unwrapped.front]
  rearBounded := by rw [rear, maxsize]; exact unwrapped.rearBounded
  frontBounded := by rw [front, maxsize]; exact unwrapped.frontBounded

theorem step_unwrapped {call : QueueCall Payload} {following : Used Payload}
    (within : WithinCapacity used call) (stepped : step used call = some following) :
    Unwrapped following := by
  cases call with
  | enqueue element =>
      cases stepped
      by_cases accepts : Accepts used.q
      · exact accepted_unwrapped unwrapped accepts (within accepts)
      · rcases enqueue_refuses accepts element with ⟨_, same, failed⟩
        rw [same, counted_refusal failed]
        exact unmoved_unwrapped unwrapped rfl rfl rfl rfl rfl
  | dequeue =>
      by_cases takes : Takes used.q
      · simp only [step, dequeue_takes takes] at stepped
        cases stepped
        exact taken_unwrapped unwrapped takes.1 (within takes) used.waiting
      · cases returned : used.q.dequeue with
        | none =>
            simp only [step, returned] at stepped
            cases stepped
            exact unmoved_unwrapped unwrapped rfl rfl rfl rfl rfl
        | some done =>
            simp only [step, returned] at stepped
            cases stepped
            rcases dequeue_idle takes returned with ⟨_, same, failed⟩
            rw [same, counted_refusal failed]
            exact unmoved_unwrapped unwrapped rfl rfl rfl rfl rfl
  | waitEnds =>
      cases waiting : used.waiting with
      | zero =>
          simp only [step, waiting] at stepped
          cases stepped
      | succ others =>
          simp only [step, waiting] at stepped
          cases stepped
          cases flag : used.q.isStop with
          | false => exact taken_unwrapped unwrapped flag (within flag) others
          | true =>
              rw [after_wait_stopped flag]
              exact unmoved_unwrapped unwrapped rfl rfl rfl rfl rfl
  | clear =>
      cases stepped
      exact ⟨rfl, rfl, Nat.zero_le _, Nat.zero_le _⟩
  | start =>
      cases stepped
      exact unmoved_unwrapped unwrapped rfl rfl rfl rfl rfl
  | stop =>
      cases stepped
      exact unmoved_unwrapped unwrapped rfl rfl rfl rfl rfl

end Calls

theorem unused_unwrapped (mIsWait : Bool) (maxsize : Nat) :
    Unwrapped (unused mIsWait maxsize : Used Payload) where
  rear := rfl
  front := rfl
  rearBounded := Nat.zero_le _
  frontBounded := Nat.zero_le _

/-- Every access of a run falls inside the array just when no more elements than
the capacity are accepted, and no more are taken, between two calls of `clear`. -/
theorem accesses_inside_iff (mIsWait : Bool) (maxsize : Nat) (calls : List (QueueCall Payload)) :
    Along step AccessesInside (unused mIsWait maxsize) calls ↔
      Along step WithinCapacity (unused mIsWait maxsize) calls := by
  refine along_iff_of_invariant (fun _ _ => True) Unwrapped ?_ ?_
    (unused_unwrapped mIsWait maxsize) (along_of_forall (fun _ _ => trivial) calls)
  · intro used call unwrapped _
    exact accesses_inside_step unwrapped call
  · intro used call following unwrapped _ inside stepped
    exact step_unwrapped unwrapped ((accesses_inside_step unwrapped call).mp inside) stepped

/-- The second element of a queue with one slot goes in front of the array, though
the first one has been taken out before. -/
theorem second_accepted_in_front :
    ¬∀ (mIsWait : Bool) (maxsize : Nat), 1 ≤ maxsize → ∀ calls : List (QueueCall Nat),
      Along step AccessesInside (unused mIsWait maxsize) calls := by
  intro always
  have element : EncoderElement Nat := { data := 7, size := 1, fake := false }
  have along := always true 1 (Nat.le_refl 1) [.enqueue element, .dequeue, .enqueue element]
  have third := (((along.2 _ rfl).2 _ rfl).1 : Inside 1 [-1])
  exact absurd (third (-1) List.mem_cons_self).1 (by decide)

end Collabo.QueueAccesses
