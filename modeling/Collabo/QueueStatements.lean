import Collabo.EncoderQueue

/-!
# The calls of the element queue, statement by statement

`enqueue` and `dequeue` hold locks of different mutexes, and `start` and `stop`
hold none, so another thread can run between any two statements of a call. A
call that nothing interrupts is the one of `EncoderCQ`.
-/

namespace Collabo.QueueStatements

open Collabo.EncoderQueue

set_option autoImplicit false

variable {Payload : Type}

inductive EnqueuePlace where
  | testsIsStop
  | testsFull
  | advancesRear
  | stores
  | notifies
  deriving DecidableEq, Repr

/-- `waits` is the inside of `cond.wait`. -/
inductive DequeuePlace where
  | testsEmpty
  | testsIsWait
  | testsIsStop
  | waits
  | testsIsStopAgain
  | advancesFront
  | loads
  deriving DecidableEq, Repr

inductive Progress (Place Payload : Type) where
  | goesOn (place : Place)
  | returns (msg : QueueMsg) (element : Option (EncoderElement Payload))
  deriving DecidableEq, Repr

def enqueueStatement (q : EncoderCQ Payload) (element : EncoderElement Payload) :
    EnqueuePlace → Progress EnqueuePlace Payload × EncoderCQ Payload
  | .testsIsStop => (if q.isStop then .returns .stop none else .goesOn .testsFull, q)
  | .testsFull => (if q.front = q.rear + 1 then .returns .full none else .goesOn .advancesRear, q)
  | .advancesRear =>
      (.goesOn .stores, { q with rear := if q.rear = q.maxsize then 0 else q.rear + 1 })
  | .stores => (.goesOn .notifies, { q with queue := storeAt q.queue ((q.rear : Int) - 1) element })
  | .notifies => (.returns .success none, q)

/-- The statement at `waits` is the end of the wait. -/
def dequeueStatement (q : EncoderCQ Payload) :
    DequeuePlace → Progress DequeuePlace Payload × EncoderCQ Payload
  | .testsEmpty => (if q.front = q.rear then .goesOn .testsIsWait else .goesOn .testsIsStopAgain, q)
  | .testsIsWait => (if q.isWait then .goesOn .testsIsStop else .returns .noElement none, q)
  | .testsIsStop => (if q.isStop then .goesOn .testsIsStopAgain else .goesOn .waits, q)
  | .waits => (.goesOn .testsIsStopAgain, q)
  | .testsIsStopAgain => (if q.isStop then .returns .stop none else .goesOn .advancesFront, q)
  | .advancesFront =>
      (.goesOn .loads, { q with front := if q.front = q.maxsize then 0 else q.front + 1 })
  | .loads => (.returns .success (loadAt q.queue ((q.front : Int) - 1)), q)

structure Returned (Payload : Type) where
  msg : QueueMsg
  element : Option (EncoderElement Payload)
  queue : EncoderCQ Payload
  deriving DecidableEq, Repr

def returned (done : Done Payload) : Returned Payload where
  msg := done.msg
  element := done.element
  queue := done.queue

def enqueueAlone (q : EncoderCQ Payload) (element : EncoderElement Payload) :
    Nat → EnqueuePlace → Option (Returned Payload)
  | 0, _ => none
  | count + 1, place =>
      match enqueueStatement q element place with
      | (.goesOn next, following) => enqueueAlone following element count next
      | (.returns msg out, following) => some { msg := msg, element := out, queue := following }

def dequeueAlone (q : EncoderCQ Payload) : Nat → DequeuePlace → Option (Returned Payload)
  | 0, _ => none
  | _ + 1, .waits => none
  | count + 1, place =>
      match dequeueStatement q place with
      | (.goesOn next, following) => dequeueAlone following count next
      | (.returns msg out, following) => some { msg := msg, element := out, queue := following }

theorem enqueue_alone (q : EncoderCQ Payload) (element : EncoderElement Payload) :
    enqueueAlone q element 5 .testsIsStop = some (returned (q.enqueue element)) := by
  cases stopped : q.isStop with
  | true => simp [enqueueAlone, enqueueStatement, EncoderCQ.enqueue, returned, stopped]
  | false =>
      by_cases full : q.front = q.rear + 1
      · simp [enqueueAlone, enqueueStatement, EncoderCQ.enqueue, returned, stopped, full]
      · simp [enqueueAlone, enqueueStatement, EncoderCQ.enqueue, returned, stopped, full]

theorem dequeue_alone (q : EncoderCQ Payload) :
    dequeueAlone q 6 .testsEmpty = q.dequeue.map returned := by
  by_cases empty : q.front = q.rear
  · cases waits : q.isWait with
    | false =>
        simp [dequeueAlone, dequeueStatement, EncoderCQ.dequeue, returned, empty, waits]
    | true =>
        cases stopped : q.isStop with
        | true =>
            simp [dequeueAlone, dequeueStatement, EncoderCQ.dequeue, returned, empty, waits,
              stopped]
        | false => simp [dequeueAlone, dequeueStatement, EncoderCQ.dequeue, empty, waits, stopped]
  · cases stopped : q.isStop with
    | true => simp [dequeueAlone, dequeueStatement, EncoderCQ.dequeue, returned, empty, stopped]
    | false => simp [dequeueAlone, dequeueStatement, EncoderCQ.dequeue, returned, empty, stopped]

section Flags

variable (q : EncoderCQ Payload) (place : DequeuePlace)

theorem dequeue_statement_flag : (dequeueStatement q place).2.isStop = q.isStop := by
  cases place <;> rfl

theorem dequeue_statement_waits : (dequeueStatement q place).2.isWait = q.isWait := by
  cases place <;> rfl

/-- The call has seen that the queue is not stopped and will return an element. -/
def Committed (place : DequeuePlace) : Prop := place = .advancesFront ∨ place = .loads

instance : Decidable (Committed place) := inferInstanceAs (Decidable (_ ∨ _))

/-- A call on a stopped queue that waits does not commit itself any more. -/
theorem stopped_goes_on {next : DequeuePlace} {following : EncoderCQ Payload}
    (stopped : q.isStop = true) (before : ¬Committed place)
    (went : dequeueStatement q place = (.goesOn next, following)) : ¬Committed next := by
  cases place with
  | testsEmpty =>
      by_cases empty : q.front = q.rear
      · simp [dequeueStatement, empty] at went
        simp [← went.1, Committed]
      · simp [dequeueStatement, empty] at went
        simp [← went.1, Committed]
  | testsIsWait =>
      cases waits : q.isWait with
      | true =>
          simp [dequeueStatement, waits] at went
          simp [← went.1, Committed]
      | false => simp [dequeueStatement, waits] at went
  | testsIsStop =>
      simp [dequeueStatement, stopped] at went
      simp [← went.1, Committed]
  | waits =>
      simp [dequeueStatement] at went
      simp [← went.1, Committed]
  | testsIsStopAgain => simp [dequeueStatement, stopped] at went
  | advancesFront => exact absurd (.inl rfl) before
  | loads => exact absurd (.inr rfl) before

theorem stopped_returns {msg : QueueMsg} {element : Option (EncoderElement Payload)}
    {following : EncoderCQ Payload} (stopped : q.isStop = true) (waits : q.isWait = true)
    (before : ¬Committed place)
    (returned : dequeueStatement q place = (.returns msg element, following)) : msg = .stop := by
  cases place with
  | testsEmpty =>
      by_cases empty : q.front = q.rear
      · simp [dequeueStatement, empty] at returned
      · simp [dequeueStatement, empty] at returned
  | testsIsWait => simp [dequeueStatement, waits] at returned
  | testsIsStop => simp [dequeueStatement, stopped] at returned
  | waits => simp [dequeueStatement] at returned
  | testsIsStopAgain =>
      simp [dequeueStatement, stopped] at returned
      exact returned.1.1.symm
  | advancesFront => exact absurd (.inl rfl) before
  | loads => exact absurd (.inr rfl) before

end Flags

end Collabo.QueueStatements
