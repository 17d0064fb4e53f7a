import Collabo.Library.Custody
import Collabo.QueueAccesses

/-!
# What becomes of the payloads of the element queue

A payload that is accepted is to be handed out by `dequeue` or deleted by `clear`.
The runs are those of the slots, with a book of the payloads. `size` and `clear`
find the elements by the positions alone, so once a position has come round they
look for them where they are not.
-/

namespace Collabo.QueuePayloads

open PartialRuns Custody Collabo.EncoderQueue Collabo.QueueAccesses

set_option autoImplicit false

variable {Payload : Type}

def payloadOf (element : Option (EncoderElement Payload)) : Option Payload :=
  element.map EncoderElement.data

def deleted (q : EncoderCQ Payload) : List (Option Payload) :=
  q.clearedSlots.map fun slot : Nat => payloadOf (loadAt q.queue (slot : Int))

structure Ledger (Payload : Type) where
  used : Used Payload
  book : Book (Option Payload)

def opened (mIsWait : Bool) (maxsize : Nat) : Ledger Payload where
  used := unused mIsWait maxsize
  book := Book.blank

/-- A `dequeue` that reports success has handed out what it loaded. -/
def handOut (done : Done Payload) (book : Book (Option Payload)) : Book (Option Payload) :=
  if done.msg = .success then book.deliver (payloadOf done.element) else book

def record (q : EncoderCQ Payload) (book : Book (Option Payload)) :
    QueueCall Payload → Book (Option Payload)
  | .enqueue element =>
      if (q.enqueue element).msg = .success then book.accept (some element.data) else book
  | .dequeue =>
      match q.dequeue with
      | none => book
      | some done => handOut done book
  | .waitEnds => handOut (dequeueAfterWait q) book
  | .clear => book.release (deleted q)
  | .start => book
  | .stop => book

def step (ledger : Ledger Payload) (call : QueueCall Payload) : Option (Ledger Payload) :=
  (QueueAccesses.step ledger.used call).map fun used =>
    { used := used, book := record ledger.used.q ledger.book call }

/-- `size` is the number of payloads that are still held, and `clear` would delete
each of them once, nothing else, and leave the queue empty. -/
structure Accounted (ledger : Ledger Payload) : Prop where
  size : ledger.used.q.size = ledger.book.outstanding
  cleared : Balanced ledger.book (deleted ledger.used.q)
  emptied : ledger.used.q.clear.queue.size = 0

/-- What is claimed of a call is claimed of the state that it leads to. -/
def KeepsAccounts (ledger : Ledger Payload) (call : QueueCall Payload) : Prop :=
  ∀ following, step ledger call = some following → Accounted following

/-- No more elements than the capacity are accepted between two calls of `clear`,
and a wait ends with an element to take, or with the queue stopped. -/
def WithinOnePass (ledger : Ledger Payload) : QueueCall Payload → Prop
  | .enqueue _ => Accepts ledger.used.q → ledger.used.accepted < ledger.used.q.maxsize
  | .dequeue => True
  | .waitEnds =>
      0 < ledger.used.waiting → ledger.used.q.isStop = false →
        ledger.used.taken < ledger.used.accepted
  | .clear => True
  | .start => True
  | .stop => True

/-- The queue holds these elements, in one piece, and the book is balanced by them. -/
structure Keeps (ledger : Ledger Payload) (held : List (EncoderElement Payload)) : Prop where
  unwrapped : Unwrapped ledger.used
  holds : Holds ledger.used.q held
  balanced : Balanced ledger.book (held.map fun element => some element.data)

/-- An element is let in only where the queue holds fewer than its capacity. -/
def BelowCapacity (ledger : Ledger Payload) : QueueCall Payload → Prop
  | .enqueue _ => Accepts ledger.used.q → ledger.book.outstanding < ledger.used.q.maxsize
  | .dequeue => True
  | .waitEnds => True
  | .clear => True
  | .start => True
  | .stop => True

section Slots

variable {q : EncoderCQ Payload} {held : List (EncoderElement Payload)}

theorem clear_released (q : EncoderCQ Payload) : q.clear.released = (deleted q).filterMap id := by
  have slots : q.clearedSlots.flatMap (fun slot : Nat => [(slot : Int)]) =
      q.clearedSlots.map Int.ofNat := List.map_eq_flatMap.symm
  unfold deleted
  rw [List.filterMap_map]
  change List.filterMap _ (q.clearedSlots.flatMap fun slot : Nat => [(slot : Int)]) = _
  rw [slots, List.filterMap_map]
  rfl

theorem slots_loaded (queue : List (Option (EncoderElement Payload))) (front rear : Nat)
    (bounded : rear ≤ queue.length) :
    (List.range' front (rear - front)).map (fun slot : Nat => loadAt queue (slot : Int)) =
      (queue.take rear).drop front := by
  apply List.ext_getElem
  · rw [List.length_map, List.length_range', List.length_drop, List.length_take]
    omega
  · intro index inRange inQueue
    rw [List.length_map, List.length_range'] at inRange
    have inside : front + index < queue.length := by omega
    rw [List.getElem_map, List.getElem_range', load_at_slot, List.getElem_drop, List.getElem_take,
      Nat.one_mul, List.getElem?_eq_getElem inside]
    rfl

/-- As long as no position has come round, `clear` deletes what the queue holds. -/
theorem deleted_held (holds : Holds q held) :
    deleted q = held.map fun element => some element.data := by
  have bounded : q.rear ≤ q.queue.length := by
    rw [holds.slots]
    exact holds.bounded
  have loaded := slots_loaded q.queue q.front q.rear bounded
  have contents := holds.contents
  rw [EncoderCQ.heldSlots, ← loaded] at contents
  have pointers := congrArg (List.map payloadOf) contents
  rw [List.map_map, List.map_map] at pointers
  unfold deleted
  rw [EncoderCQ.clearedSlots, if_pos holds.ordered]
  exact pointers

theorem held_size (holds : Holds q held) : q.size = held.length := by
  have ordered := holds.ordered
  rw [EncoderCQ.size, if_pos ordered, holds.length_eq]
  omega

end Slots

def Ledger.taking (ledger : Ledger Payload) (waiting : Nat) : Ledger Payload where
  used :=
    { ledger.used with
      q := (dequeueAfterWait ledger.used.q).queue
      waiting := waiting
      taken := ledger.used.taken + counted (dequeueAfterWait ledger.used.q).msg }
  book := handOut (dequeueAfterWait ledger.used.q) ledger.book

section Calls

variable {ledger following : Ledger Payload} {held : List (EncoderElement Payload)}

theorem dequeue_taking (takes : Takes ledger.used.q) :
    step ledger .dequeue = some (ledger.taking ledger.used.waiting) := by
  simp only [step, QueueAccesses.step, record, dequeue_takes takes, Option.map_some]
  rfl

theorem wait_ends_taking {others : Nat} (waiting : ledger.used.waiting = others + 1) :
    step ledger .waitEnds = some (ledger.taking others) := by
  simp only [step, QueueAccesses.step, record, waiting, Option.map_some]
  rfl

theorem Keeps.outstanding (keeps : Keeps ledger held) : ledger.book.outstanding = held.length := by
  rw [balanced_outstanding keeps.balanced, List.length_map]

theorem Keeps.accounted (keeps : Keeps ledger held) : Accounted ledger where
  size := by
    rw [held_size keeps.holds, keeps.outstanding]
  cleared := by
    rw [deleted_held keeps.holds]
    exact keeps.balanced
  emptied := rfl

theorem unmoved_kept (keeps : Keeps ledger held) (waiting : Nat) :
    ∃ left, Keeps { ledger with used := { ledger.used with waiting := waiting } } left :=
  ⟨held, unmoved_unwrapped keeps.unwrapped rfl rfl rfl rfl rfl, keeps.holds, keeps.balanced⟩

theorem enqueue_kept (keeps : Keeps ledger held) {element : EncoderElement Payload}
    (within : WithinOnePass ledger (.enqueue element))
    (stepped : step ledger (.enqueue element) = some following) :
    ∃ left, Keeps following left := by
  cases stepped
  by_cases accepts : Accepts ledger.used.q
  · have room : ledger.used.q.rear < ledger.used.q.maxsize := by
      rw [keeps.unwrapped.rear]
      exact within accepts
    obtain ⟨result, holds⟩ := enqueue_appends keeps.holds accepts.1 room element
    have unwrapped := @accepted_unwrapped _ _ keeps.unwrapped element accepts (within accepts)
    refine ⟨held ++ [element], unwrapped, holds, ?_⟩
    rw [record, result, if_pos rfl, List.map_append]
    exact accept_balanced keeps.balanced
  · obtain ⟨-, same, failed⟩ := enqueue_refuses accepts element
    refine ⟨held, ?_, ?_, ?_⟩
    · rw [same, counted_refusal failed]
      exact keeps.unwrapped
    · rw [same]
      exact keeps.holds
    · rw [record, if_neg failed]
      exact keeps.balanced

theorem taken_kept (keeps : Keeps ledger held) (running : ledger.used.q.isStop = false)
    (nonempty : ledger.used.taken < ledger.used.accepted) (waiting : Nat) :
    ∃ left, Keeps (ledger.taking waiting) left := by
  have front := keeps.unwrapped.front
  have rear := keeps.unwrapped.rear
  have bounded := keeps.unwrapped.rearBounded
  have number := keeps.holds.length_eq
  have room : ledger.used.taken < ledger.used.q.maxsize := by omega
  have unwrapped := taken_unwrapped keeps.unwrapped running room waiting
  cases held with
  | nil =>
      rw [List.length_nil] at number
      omega
  | cons oldest rest =>
      obtain ⟨delivers, holds⟩ := dequeue_delivers keeps.holds running
      have takes : Takes ledger.used.q := ⟨running, by omega⟩
      rw [dequeue_takes takes] at delivers
      have result := Option.some.inj delivers
      refine ⟨rest, unwrapped, ?_, ?_⟩
      · rw [Ledger.taking, result]
        exact holds
      · rw [Ledger.taking, result, handOut, if_pos rfl]
        exact deliver_balanced keeps.balanced

theorem dequeue_kept (keeps : Keeps ledger held)
    (stepped : step ledger .dequeue = some following) : ∃ left, Keeps following left := by
  have front := keeps.unwrapped.front
  have rear := keeps.unwrapped.rear
  have ordered := keeps.holds.ordered
  by_cases takes : Takes ledger.used.q
  · have nonempty : ledger.used.taken < ledger.used.accepted := by
      have moves := takes.2
      omega
    rw [dequeue_taking takes] at stepped
    cases stepped
    exact taken_kept keeps takes.1 nonempty ledger.used.waiting
  · cases returned : ledger.used.q.dequeue with
    | none =>
        simp only [step, QueueAccesses.step, record, returned, Option.map_some] at stepped
        cases stepped
        exact unmoved_kept keeps _
    | some done =>
        obtain ⟨-, same, failed⟩ := dequeue_idle takes returned
        simp only [step, QueueAccesses.step, record, returned, Option.map_some, handOut,
          if_neg failed, counted_refusal failed, same] at stepped
        cases stepped
        exact unmoved_kept keeps _

theorem wait_ends_kept (keeps : Keeps ledger held) (within : WithinOnePass ledger .waitEnds)
    (stepped : step ledger .waitEnds = some following) : ∃ left, Keeps following left := by
  cases waiting : ledger.used.waiting with
  | zero =>
      simp only [step, QueueAccesses.step, waiting, Option.map_none] at stepped
      cases stepped
  | succ others =>
      rw [wait_ends_taking waiting] at stepped
      cases stepped
      cases flag : ledger.used.q.isStop with
      | false =>
          have nonempty := within (by omega) flag
          exact taken_kept keeps flag nonempty others
      | true =>
          rw [Ledger.taking, after_wait_stopped flag]
          exact unmoved_kept keeps others

theorem clear_kept (keeps : Keeps ledger held) (stepped : step ledger .clear = some following) :
    ∃ left, Keeps following left := by
  cases stepped
  refine ⟨[], ⟨rfl, rfl, Nat.zero_le _, Nat.zero_le _⟩, clear_empties keeps.holds, ?_⟩
  rw [record, deleted_held keeps.holds]
  exact release_balanced keeps.balanced

theorem step_kept {call : QueueCall Payload} (keeps : Keeps ledger held)
    (within : WithinOnePass ledger call) (stepped : step ledger call = some following) :
    ∃ left, Keeps following left := by
  cases call with
  | enqueue element => exact enqueue_kept keeps within stepped
  | dequeue => exact dequeue_kept keeps stepped
  | waitEnds => exact wait_ends_kept keeps within stepped
  | clear => exact clear_kept keeps stepped
  | start =>
      cases stepped
      exact ⟨held, unmoved_unwrapped keeps.unwrapped rfl rfl rfl rfl rfl, keeps.holds.start,
        keeps.balanced⟩
  | stop =>
      cases stepped
      exact ⟨held, unmoved_unwrapped keeps.unwrapped rfl rfl rfl rfl rfl, keeps.holds.stop,
        keeps.balanced⟩

/-- An element that is accepted at the last position is not among those that `size`
counts. -/
theorem past_end_uncounted (keeps : Keeps ledger held) {element : EncoderElement Payload}
    (accepts : Accepts ledger.used.q) (past : ¬ledger.used.accepted < ledger.used.q.maxsize) :
    ¬KeepsAccounts ledger (.enqueue element) := by
  intro claimed
  have rear := keeps.unwrapped.rear
  have bounded := keeps.unwrapped.rearBounded
  have ordered := keeps.holds.ordered
  have number := keeps.holds.length_eq
  have result := enqueue_past_end keeps.holds accepts.1 (by omega) element
  have size := (claimed _ rfl).size
  simp only [record, result, if_pos, accept_outstanding, keeps.outstanding, EncoderCQ.size] at size
  split_ifs at size with atStart
  · omega
  · omega

/-- Nor is one missing from them that was taken where there was none. -/
theorem none_taken_uncounted (keeps : Keeps ledger held) (waits : 0 < ledger.used.waiting)
    (running : ledger.used.q.isStop = false)
    (empty : ¬ledger.used.taken < ledger.used.accepted) : ¬KeepsAccounts ledger .waitEnds := by
  intro claimed
  have rear := keeps.unwrapped.rear
  have front := keeps.unwrapped.front
  have bounded := keeps.unwrapped.rearBounded
  have ordered := keeps.holds.ordered
  have number := keeps.holds.length_eq
  cases waiting : ledger.used.waiting with
  | zero => omega
  | succ others =>
      have size := (claimed _ (wait_ends_taking waiting)).size
      simp only [Ledger.taking, after_wait_takes running, handOut, if_pos, deliver_outstanding,
        keeps.outstanding, EncoderCQ.size, nextPosition] at size
      split_ifs at size with last atStart ahead
      all_goals omega

theorem keeps_accounts_step (keeps : Keeps ledger held) (call : QueueCall Payload) :
    KeepsAccounts ledger call ↔ WithinOnePass ledger call := by
  constructor
  · intro claimed
    cases call with
    | enqueue element =>
        intro accepts
        by_contra past
        exact past_end_uncounted keeps accepts past claimed
    | waitEnds =>
        intro waits running
        by_contra empty
        exact none_taken_uncounted keeps waits running empty claimed
    | dequeue => trivial
    | clear => trivial
    | start => trivial
    | stop => trivial
  · intro within following stepped
    obtain ⟨left, kept⟩ := step_kept keeps within stepped
    exact kept.accounted

end Calls

theorem opened_keeps (mIsWait : Bool) (maxsize : Nat) :
    Keeps (opened mIsWait maxsize : Ledger Payload) [] where
  unwrapped := unused_unwrapped mIsWait maxsize
  holds := holds_of_size mIsWait maxsize
  balanced := blank_balanced

/-- In every state of a run `size` counts the payloads accepted and not yet handed
out or deleted, and `clear` deletes each of these once, just when no more than the
capacity are accepted between two calls of `clear` and each wait ends with an
element to take. -/
theorem payloads_accounted_iff (mIsWait : Bool) (maxsize : Nat)
    (calls : List (QueueCall Payload)) :
    Along step KeepsAccounts (opened mIsWait maxsize) calls ↔
      Along step WithinOnePass (opened mIsWait maxsize) calls := by
  refine along_iff_of_invariant (fun _ _ => True) (fun ledger => ∃ held, Keeps ledger held) ?_ ?_
    ⟨[], opened_keeps mIsWait maxsize⟩ (along_of_forall (fun _ _ => trivial) calls)
  · intro ledger call kept _
    obtain ⟨held, keeps⟩ := kept
    exact keeps_accounts_step keeps call
  · intro ledger call following kept _ claimed stepped
    obtain ⟨held, keeps⟩ := kept
    exact step_kept keeps ((keeps_accounts_step keeps call).mp claimed) stepped

/-- A queue with one slot that has handed out its first element accepts a second
one, has the size zero and would not delete it. -/
theorem second_accepted_uncounted :
    ¬∀ (mIsWait : Bool) (maxsize : Nat), 1 ≤ maxsize → ∀ calls : List (QueueCall Nat),
      Along step BelowCapacity (opened mIsWait maxsize) calls →
        Along step KeepsAccounts (opened mIsWait maxsize) calls := by
  intro always
  let element : EncoderElement Nat := { data := 7, size := 1, fake := false }
  have below : Along step BelowCapacity (opened true 1)
      [.enqueue element, .dequeue, .enqueue element] := by
    apply along_cons rfl
    · intro _
      decide
    apply along_cons rfl trivial
    apply along_cons rfl
    · intro _
      decide
    trivial
  have along := always true 1 (Nat.le_refl 1) _ below
  have last := ((along.2 _ rfl).2 _ rfl).1 _ rfl
  exact absurd last.size (by decide)

end Collabo.QueuePayloads
