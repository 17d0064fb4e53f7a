import Collabo.QueueStatements
import Collabo.Library.PartialRuns
import Mathlib.Data.List.Perm.Subperm

/-!
# The element queue between threads

One thread calls `enqueue`, one calls `dequeue`, and any number of them call
`start` and `stop`, statement by statement. The emptiness test is not repeated
after the wait, and `enqueue` moves `rear` before it stores.
-/

namespace Collabo.QueueThreads

open PartialRuns Collabo.EncoderQueue Collabo.QueueStatements

set_option autoImplicit false

variable {Payload : Type}

/-- `stopping` counts the calls of `stop` between their two statements. What
`rear` was moved for and what was dequeued is recorded in `accepted` and
`delivered`, and `foundEmpty` how many had been accepted when the running
`dequeue` found the queue empty, if it did. -/
structure Threads (Payload : Type) where
  q : EncoderCQ Payload
  enqueuing : Option (EnqueuePlace × EncoderElement Payload)
  dequeuing : Option DequeuePlace
  stopping : Nat
  accepted : List (EncoderElement Payload)
  delivered : List (EncoderElement Payload)
  foundEmpty : Option Nat

/-- A wait may end at any time, so what `notify_one` does leaves no trace. -/
inductive QueueEvent (Payload : Type) where
  | callsEnqueue (element : EncoderElement Payload)
  | enqueueGoesOn
  | callsDequeue
  | dequeueGoesOn
  | starts
  | stopNotifies
  | stopRaises

def waitingQueue (maxsize : Nat) : Threads Payload where
  q := EncoderCQ.ofSize true maxsize
  enqueuing := none
  dequeuing := none
  stopping := 0
  accepted := []
  delivered := []
  foundEmpty := none

def enqueueGoesOn (t : Threads Payload) (place : EnqueuePlace) (element : EncoderElement Payload) :
    Threads Payload :=
  let accepted := if place = .advancesRear then t.accepted ++ [element] else t.accepted
  match enqueueStatement t.q element place with
  | (.goesOn next, q) => { t with q := q, enqueuing := some (next, element), accepted := accepted }
  | (.returns _ _, q) => { t with q := q, enqueuing := none, accepted := accepted }

def dequeueGoesOn (t : Threads Payload) (place : DequeuePlace) : Threads Payload :=
  let foundEmpty :=
    if place = .testsEmpty ∧ t.q.front = t.q.rear then some t.accepted.length else t.foundEmpty
  match dequeueStatement t.q place with
  | (.goesOn next, q) => { t with q := q, dequeuing := some next, foundEmpty := foundEmpty }
  | (.returns _ element, q) =>
      { t with
        q := q
        dequeuing := none
        foundEmpty := none
        delivered := t.delivered ++ element.toList }

def step (t : Threads Payload) : QueueEvent Payload → Option (Threads Payload)
  | .callsEnqueue element =>
      match t.enqueuing with
      | none => some { t with enqueuing := some (.testsIsStop, element) }
      | some _ => none
  | .enqueueGoesOn => t.enqueuing.map fun call => enqueueGoesOn t call.1 call.2
  | .callsDequeue =>
      match t.dequeuing with
      | none => some { t with dequeuing := some .testsEmpty, foundEmpty := none }
      | some _ => none
  | .dequeueGoesOn => t.dequeuing.map (dequeueGoesOn t)
  | .starts => some { t with q := t.q.start }
  | .stopNotifies => some { t with stopping := t.stopping + 1 }
  | .stopRaises =>
      match t.stopping with
      | 0 => none
      | others + 1 => some { t with q := t.q.stop, stopping := others }

/-- `front` is not moved past `rear`, a successful `dequeue` yields an element
that was accepted and not yet dequeued, and `rear` is moved to a position that
has a slot to store in. -/
def DeliversAccepted (t : Threads Payload) : QueueEvent Payload → Prop
  | .enqueueGoesOn =>
      ∀ element, t.enqueuing = some (.advancesRear, element) →
        0 < (enqueueStatement t.q element .advancesRear).2.rear
  | .dequeueGoesOn =>
      (t.dequeuing = some .advancesFront → t.q.front ≠ t.q.rear) ∧
        ∀ place element, t.dequeuing = some place →
          (dequeueStatement t.q place).1 = .returns .success element →
          ∃ out, element = some out ∧ (t.delivered ++ [out]).Subperm t.accepted
  | .callsEnqueue _ => True
  | .callsDequeue => True
  | .starts => True
  | .stopNotifies => True
  | .stopRaises => True

/-- No more is accepted than the array has slots; a `dequeue` that found the
queue empty moves `front` only when an `enqueue` has moved `rear` since; and it
does not load while `enqueue` is about to store in the slot that `rear` was just
moved to. -/
def WellTimed (t : Threads Payload) : QueueEvent Payload → Prop
  | .enqueueGoesOn =>
      ∀ element, t.enqueuing = some (.advancesRear, element) → t.accepted.length < t.q.maxsize
  | .dequeueGoesOn =>
      (t.dequeuing = some .advancesFront →
        ∀ before, t.foundEmpty = some before → before < t.accepted.length) ∧
        (t.dequeuing = some .loads →
          ∀ element, t.enqueuing = some (.stores, element) → t.q.front ≠ t.q.rear)
  | .callsEnqueue _ => True
  | .callsDequeue => True
  | .starts => True
  | .stopNotifies => True
  | .stopRaises => True

def storedCount (t : Threads Payload) : Nat :=
  match t.enqueuing with
  | some (.stores, _) => t.accepted.length - 1
  | _ => t.accepted.length

def deliveredCount (t : Threads Payload) : Nat :=
  if t.dequeuing = some .loads then t.q.front - 1 else t.q.front

/-- The place comes after the emptiness test and before the move of `front`. -/
def PastTest (place : DequeuePlace) : Prop := place ≠ .testsEmpty ∧ place ≠ .loads

/-- No position has wrapped, and slot `k` holds the accepted element `k`. -/
structure Orderly (t : Threads Payload) : Prop where
  waits : t.q.isWait = true
  slots : t.q.queue.length = t.q.maxsize
  rear : t.q.rear = t.accepted.length
  room : t.accepted.length ≤ t.q.maxsize
  front : t.q.front ≤ t.accepted.length
  stored : ∀ slot : Nat, (t.q.queue[slot]?).join = (t.accepted.take (storedCount t))[slot]?
  storing : ∀ element, t.enqueuing = some (.stores, element) →
    ∃ before, t.accepted = before ++ [element]
  untested : t.dequeuing = some .testsEmpty → t.foundEmpty = none
  moved : t.dequeuing = some .loads → 0 < t.q.front
  delivered : t.delivered = t.accepted.take (deliveredCount t)
  foundEmpty : ∀ place, t.dequeuing = some place → PastTest place →
    ∀ before, t.foundEmpty = some before → before = t.q.front
  nonempty : ∀ place, t.dequeuing = some place → PastTest place → t.foundEmpty = none →
    t.q.front < t.accepted.length

section Enqueuing

variable {t : Threads Payload} {element : EncoderElement Payload}

theorem stored_count_le (t : Threads Payload) : storedCount t ≤ t.accepted.length := by
  unfold storedCount
  split
  · omega
  · exact Nat.le_refl _

theorem delivered_count_le (orderly : Orderly t) : deliveredCount t ≤ t.accepted.length := by
  have front := orderly.front
  unfold deliveredCount
  split_ifs
  · omega
  · exact front

theorem orderly_of_place {call : Option (EnqueuePlace × EncoderElement Payload)}
    (orderly : Orderly t) (all : storedCount t = t.accepted.length)
    (noStore : ∀ element, call ≠ some (.stores, element)) :
    Orderly { t with enqueuing := call } := by
  have same : storedCount { t with enqueuing := call } = storedCount t := by
    rw [all]
    unfold storedCount
    split
    · next found => exact absurd found (noStore _)
    · rfl
  exact { orderly with
    stored := by
      rw [same]
      exact orderly.stored
    storing := fun element found => absurd found (noStore element) }

theorem advances_rear_orderly (orderly : Orderly t)
    (all : storedCount t = t.accepted.length) (room : t.accepted.length < t.q.maxsize) :
    Orderly (enqueueGoesOn t .advancesRear element) := by
  have notEnd : t.q.rear ≠ t.q.maxsize := by
    rw [orderly.rear]
    omega
  have grown : (t.accepted ++ [element]).length = t.accepted.length + 1 := by simp
  have front := orderly.front
  have count := delivered_count_le orderly
  constructor
  · exact orderly.waits
  · exact orderly.slots
  · simp only [enqueueGoesOn, enqueueStatement, if_neg notEnd, if_true, grown]
    rw [orderly.rear]
  · simp only [enqueueGoesOn, enqueueStatement, if_true, grown]
    omega
  · simp only [enqueueGoesOn, enqueueStatement, if_true, grown]
    omega
  · intro slot
    have stored := orderly.stored slot
    rw [all, List.take_length] at stored
    simpa [enqueueGoesOn, enqueueStatement, storedCount] using stored
  · intro stores found
    simp only [enqueueGoesOn, enqueueStatement, Option.some.injEq, Prod.mk.injEq, true_and]
      at found
    exact ⟨t.accepted, by simp [enqueueGoesOn, enqueueStatement, found]⟩
  · exact orderly.untested
  · exact orderly.moved
  · have kept : (t.accepted ++ [element]).take (deliveredCount t) =
        t.accepted.take (deliveredCount t) := List.take_append_of_le_length count
    exact orderly.delivered.trans kept.symm
  · exact orderly.foundEmpty
  · intro place found past missing
    have below := orderly.nonempty place found past missing
    simp only [enqueueGoesOn, enqueueStatement, if_true, grown]
    omega

theorem stores_orderly (orderly : Orderly t) (storing : t.enqueuing = some (.stores, element)) :
    Orderly (enqueueGoesOn t .stores element) := by
  rcases orderly.storing element storing with ⟨before, accepted⟩
  have rear : t.q.rear = before.length + 1 := by
    rw [orderly.rear, accepted, List.length_append, List.length_singleton]
  have inside : before.length < t.q.queue.length := by
    have room := orderly.room
    rw [orderly.slots]
    rw [accepted, List.length_append, List.length_singleton] at room
    omega
  have written : (enqueueGoesOn t .stores element).q.queue =
      t.q.queue.set before.length (some element) := by
    simp only [enqueueGoesOn, enqueueStatement, rear, slot_of_position, store_at_slot]
  have prior : storedCount t = before.length := by
    simp [storedCount, storing, accepted]
  have all : storedCount (enqueueGoesOn t .stores element) = before.length + 1 := by
    simp [enqueueGoesOn, enqueueStatement, storedCount, accepted]
  have earlier : ∀ slot : Nat, (t.q.queue[slot]?).join = before[slot]? := by
    intro slot
    rw [orderly.stored slot, prior, accepted, List.take_left]
  exact { orderly with
    slots := by
      rw [written, List.length_set]
      exact orderly.slots
    stored := by
      intro slot
      have same : (enqueueGoesOn t .stores element).accepted = before ++ [element] := accepted
      rw [written, all, same, List.take_of_length_le (by simp), List.getElem?_set]
      by_cases here : before.length = slot
      · subst here
        simp [inside]
      · rw [if_neg here, earlier slot]
        by_cases below : slot < before.length
        · rw [List.getElem?_append_left below]
        · have past : before.length + 1 ≤ slot := by omega
          rw [List.getElem?_eq_none (by omega), List.getElem?_eq_none (by simp; omega)]
    storing := by
      intro other found
      cases found }

theorem enqueue_orderly {place : EnqueuePlace} (orderly : Orderly t)
    (calling : t.enqueuing = some (place, element))
    (room : place = .advancesRear → t.accepted.length < t.q.maxsize) :
    Orderly (enqueueGoesOn t place element) := by
  have returns : storedCount t = t.accepted.length → Orderly { t with enqueuing := none } :=
    fun all => orderly_of_place orderly all (by simp)
  cases place with
  | testsIsStop =>
      have all : storedCount t = t.accepted.length := by simp [storedCount, calling]
      have goesOn : Orderly { t with enqueuing := some (.testsFull, element) } :=
        orderly_of_place orderly all (by simp)
      cases stopped : t.q.isStop with
      | true => simpa [enqueueGoesOn, enqueueStatement, stopped] using returns all
      | false => simpa [enqueueGoesOn, enqueueStatement, stopped] using goesOn
  | testsFull =>
      have all : storedCount t = t.accepted.length := by simp [storedCount, calling]
      have goesOn : Orderly { t with enqueuing := some (.advancesRear, element) } :=
        orderly_of_place orderly all (by simp)
      by_cases full : t.q.front = t.q.rear + 1
      · simpa [enqueueGoesOn, enqueueStatement, full] using returns all
      · simpa [enqueueGoesOn, enqueueStatement, full] using goesOn
  | advancesRear =>
      exact advances_rear_orderly orderly (by simp [storedCount, calling]) (room rfl)
  | stores => exact stores_orderly orderly calling
  | notifies =>
      exact returns (by simp [storedCount, calling])

end Enqueuing

section Dequeuing

variable {t : Threads Payload} {element : Option (EncoderElement Payload)}

theorem load_at_front (orderly : Orderly t) (moved : 0 < t.q.front) :
    loadAt t.q.queue ((t.q.front : Int) - 1) =
      (t.accepted.take (storedCount t))[t.q.front - 1]? := by
  rcases Nat.exists_eq_add_of_lt moved with ⟨before, front⟩
  have position : t.q.front = before + 1 := by omega
  rw [position, slot_of_position, load_at_slot, orderly.stored, Nat.add_sub_cancel]

theorem loads_iff (orderly : Orderly t) (loading : t.dequeuing = some .loads) :
    (∃ out, loadAt t.q.queue ((t.q.front : Int) - 1) = some out ∧
        (t.delivered ++ [out]).Subperm t.accepted) ↔ t.q.front ≤ storedCount t := by
  have moved := orderly.moved loading
  have count := stored_count_le t
  rw [load_at_front orderly moved]
  constructor
  · rintro ⟨out, found, _⟩
    have inside := (List.getElem?_eq_some_iff.mp found).1
    rw [List.length_take] at inside
    omega
  · intro stored
    have below : t.q.front - 1 < t.accepted.length := by omega
    have taken : t.delivered ++ [t.accepted[t.q.front - 1]] = t.accepted.take t.q.front := by
      have delivered := orderly.delivered
      rw [deliveredCount, if_pos loading] at delivered
      rw [delivered, ← List.take_succ_eq_append_getElem below, Nat.sub_add_cancel moved]
    refine ⟨t.accepted[t.q.front - 1], ?_, ?_⟩
    · rw [List.getElem?_take_of_lt (by omega), List.getElem?_eq_getElem below]
    · rw [taken]
      exact (List.take_sublist _ _).subperm

theorem loads_orderly (orderly : Orderly t) (loading : t.dequeuing = some .loads)
    (stored : t.q.front ≤ storedCount t) : Orderly (dequeueGoesOn t .loads) := by
  have moved := orderly.moved loading
  have count := stored_count_le t
  have below : t.q.front - 1 < t.accepted.length := by omega
  have found : loadAt t.q.queue ((t.q.front : Int) - 1) = some t.accepted[t.q.front - 1] := by
    rw [load_at_front orderly moved, List.getElem?_take_of_lt (by omega),
      List.getElem?_eq_getElem below]
  exact { orderly with
    untested := nofun
    moved := nofun
    delivered := by
      have delivered := orderly.delivered
      rw [deliveredCount, if_pos loading] at delivered
      have all : (dequeueGoesOn t .loads).delivered =
          t.delivered ++ [t.accepted[t.q.front - 1]] := by
        simp only [dequeueGoesOn, dequeueStatement, found, Option.toList_some]
      rw [all, delivered, ← List.take_succ_eq_append_getElem below, Nat.sub_add_cancel moved]
      rfl
    foundEmpty := nofun
    nonempty := nofun }

theorem advances_front_orderly (orderly : Orderly t) (advancing : t.dequeuing = some .advancesFront)
    (nonempty : t.q.front ≠ t.q.rear) : Orderly (dequeueGoesOn t .advancesFront) := by
  have front := orderly.front
  have rear := orderly.rear
  have room := orderly.room
  have notEnd : t.q.front ≠ t.q.maxsize := by omega
  have delivered := orderly.delivered
  rw [deliveredCount, if_neg (by simp [advancing])] at delivered
  constructor
  · exact orderly.waits
  · exact orderly.slots
  · exact orderly.rear
  · exact orderly.room
  · simp only [dequeueGoesOn, dequeueStatement, if_neg notEnd]
    omega
  · exact orderly.stored
  · exact orderly.storing
  · intro found
    cases found
  · intro _
    simp [dequeueGoesOn, dequeueStatement, notEnd]
  · simpa [dequeueGoesOn, dequeueStatement, deliveredCount, notEnd] using delivered
  · intro place found past
    cases found
    exact absurd rfl past.2
  · intro place found past
    cases found
    exact absurd rfl past.2

/-- A statement of `dequeue` before the move of `front`, after which the queue
was found empty or holds something. -/
theorem orderly_of_test {place : DequeuePlace} {foundEmpty : Option Nat} (orderly : Orderly t)
    (notLoading : t.dequeuing ≠ some .loads) (past : PastTest place)
    (empty : ∀ before, foundEmpty = some before → before = t.q.front)
    (nonempty : foundEmpty = none → t.q.front < t.accepted.length) :
    Orderly { t with dequeuing := some place, foundEmpty := foundEmpty } := by
  have delivered := orderly.delivered
  rw [deliveredCount, if_neg notLoading] at delivered
  have notLoads : place ≠ .loads := past.2
  have notTest : place ≠ .testsEmpty := past.1
  exact { orderly with
    untested := fun found => absurd (Option.some.inj found) notTest
    moved := fun found => absurd (Option.some.inj found) notLoads
    delivered := by
      rw [deliveredCount, if_neg (fun found => notLoads (Option.some.inj found))]
      exact delivered
    foundEmpty := fun _ _ _ => empty
    nonempty := fun _ _ _ => nonempty }

theorem orderly_of_return (orderly : Orderly t) (notLoading : t.dequeuing ≠ some .loads) :
    Orderly { t with dequeuing := none, foundEmpty := none, delivered := t.delivered ++ [] } := by
  have delivered := orderly.delivered
  rw [deliveredCount, if_neg notLoading] at delivered
  exact { orderly with
    untested := nofun
    moved := nofun
    delivered := by
      rw [List.append_nil, delivered]
      rfl
    foundEmpty := nofun
    nonempty := nofun }

theorem tests_empty_orderly (orderly : Orderly t) (testing : t.dequeuing = some .testsEmpty) :
    Orderly (dequeueGoesOn t .testsEmpty) := by
  have notLoading : t.dequeuing ≠ some .loads := by simp [testing]
  have front := orderly.front
  have rear := orderly.rear
  by_cases empty : t.q.front = t.q.rear
  · have moved : Orderly
        { t with dequeuing := some .testsIsWait, foundEmpty := some t.accepted.length } := by
      apply orderly_of_test orderly notLoading (by simp [PastTest])
      · intro before same
        rw [← Option.some.inj same]
        omega
      · exact nofun
    simpa [dequeueGoesOn, dequeueStatement, empty] using moved
  · have moved : Orderly
        { t with dequeuing := some .testsIsStopAgain, foundEmpty := t.foundEmpty } := by
      apply orderly_of_test orderly notLoading (by simp [PastTest])
      · intro before same
        rw [orderly.untested testing] at same
        cases same
      · intro _
        omega
    simpa [dequeueGoesOn, dequeueStatement, empty] using moved

theorem dequeue_orderly {place : DequeuePlace} (orderly : Orderly t)
    (calling : t.dequeuing = some place)
    (nonempty : place = .advancesFront → t.q.front ≠ t.q.rear)
    (stored : place = .loads → t.q.front ≤ storedCount t) : Orderly (dequeueGoesOn t place) := by
  have onward : PastTest place → ∀ next, PastTest next →
      Orderly { t with dequeuing := some next, foundEmpty := t.foundEmpty } := by
    intro past next nextPast
    have notLoading : t.dequeuing ≠ some .loads := by
      rw [calling]
      exact fun same => past.2 (Option.some.inj same)
    exact orderly_of_test orderly notLoading nextPast (orderly.foundEmpty place calling past)
      (orderly.nonempty place calling past)
  cases place with
  | testsEmpty => exact tests_empty_orderly orderly calling
  | testsIsWait =>
      have moved := onward (by simp [PastTest]) .testsIsStop (by simp [PastTest])
      simpa [dequeueGoesOn, dequeueStatement, orderly.waits] using moved
  | testsIsStop =>
      cases stopped : t.q.isStop with
      | true =>
          have moved := onward (by simp [PastTest]) .testsIsStopAgain (by simp [PastTest])
          simpa [dequeueGoesOn, dequeueStatement, stopped] using moved
      | false =>
          have moved := onward (by simp [PastTest]) .waits (by simp [PastTest])
          simpa [dequeueGoesOn, dequeueStatement, stopped] using moved
  | waits => exact onward (by simp [PastTest]) .testsIsStopAgain (by simp [PastTest])
  | testsIsStopAgain =>
      cases stopped : t.q.isStop with
      | true =>
          have returned := orderly_of_return orderly (by simp [calling])
          simpa [dequeueGoesOn, dequeueStatement, stopped] using returned
      | false =>
          have moved := onward (by simp [PastTest]) .advancesFront (by simp [PastTest])
          simpa [dequeueGoesOn, dequeueStatement, stopped] using moved
  | advancesFront => exact advances_front_orderly orderly calling (nonempty rfl)
  | loads => exact loads_orderly orderly calling (stored rfl)

theorem returns_success {q : EncoderCQ Payload} {place : DequeuePlace}
    (returned : (dequeueStatement q place).1 = .returns .success element) :
    place = .loads ∧ element = loadAt q.queue ((q.front : Int) - 1) := by
  cases place with
  | loads =>
      cases returned
      exact ⟨rfl, rfl⟩
  | testsEmpty =>
      simp only [dequeueStatement] at returned
      split_ifs at returned
  | testsIsWait =>
      simp only [dequeueStatement] at returned
      split_ifs at returned
      cases returned
  | testsIsStop =>
      simp only [dequeueStatement] at returned
      split_ifs at returned
  | waits => cases returned
  | testsIsStopAgain =>
      simp only [dequeueStatement] at returned
      split_ifs at returned
      cases returned
  | advancesFront => cases returned

end Dequeuing

section Steps

variable {t following : Threads Payload}

theorem stored_count_iff (orderly : Orderly t) (loading : t.dequeuing = some .loads) :
    t.q.front ≤ storedCount t ↔
      ∀ element, t.enqueuing = some (.stores, element) → t.q.front ≠ t.q.rear := by
  have front := orderly.front
  have rear := orderly.rear
  have moved := orderly.moved loading
  unfold storedCount
  split
  · next element storing =>
      constructor
      · intro stored _ _
        omega
      · intro apart
        have different := apart element storing
        omega
  · next notStoring => exact iff_of_true front fun element storing => absurd storing (notStoring _)

theorem delivers_accepted_iff (orderly : Orderly t) (event : QueueEvent Payload) :
    DeliversAccepted t event ↔ WellTimed t event := by
  cases event with
  | enqueueGoesOn =>
      apply forall_congr'
      intro element
      apply imp_congr_right
      intro _
      have rear := orderly.rear
      have room := orderly.room
      simp only [enqueueStatement]
      split_ifs with atEnd
      · omega
      · omega
  | dequeueGoesOn =>
      apply and_congr
      · apply imp_congr_right
        intro advancing
        have front := orderly.front
        have rear := orderly.rear
        have same := orderly.foundEmpty _ advancing (by simp [PastTest])
        have below := orderly.nonempty _ advancing (by simp [PastTest])
        cases found : t.foundEmpty with
        | none =>
            have held := below found
            refine iff_of_true (by omega) ?_
            intro before same
            cases same
        | some before =>
            have count := same before found
            simp only [Option.some.injEq, forall_eq']
            omega
      · have asked : (∀ place element, t.dequeuing = some place →
            (dequeueStatement t.q place).1 = .returns .success element →
            ∃ out, element = some out ∧ (t.delivered ++ [out]).Subperm t.accepted) ↔
            (t.dequeuing = some .loads →
              ∃ out, loadAt t.q.queue ((t.q.front : Int) - 1) = some out ∧
                (t.delivered ++ [out]).Subperm t.accepted) := by
          constructor
          · intro delivers loading
            exact delivers .loads _ loading rfl
          · intro delivers place element calling returned
            rcases returns_success returned with ⟨rfl, rfl⟩
            exact delivers calling
        rw [asked]
        apply imp_congr_right
        intro loading
        rw [loads_iff orderly loading, stored_count_iff orderly loading]
  | callsEnqueue element => exact Iff.rfl
  | callsDequeue => exact Iff.rfl
  | starts => exact Iff.rfl
  | stopNotifies => exact Iff.rfl
  | stopRaises => exact Iff.rfl

theorem step_orderly {event : QueueEvent Payload} (orderly : Orderly t)
    (timed : WellTimed t event) (stepped : step t event = some following) :
    Orderly following := by
  have delivers := (delivers_accepted_iff orderly event).mpr timed
  cases event with
  | callsEnqueue element =>
      simp only [step] at stepped
      split at stepped
      · next idle =>
          rw [← Option.some.inj stepped]
          exact orderly_of_place orderly (by simp [storedCount, idle]) (by simp)
      · cases stepped
  | enqueueGoesOn =>
      rcases Option.map_eq_some_iff.mp stepped with ⟨⟨place, element⟩, calling, rfl⟩
      apply enqueue_orderly orderly calling
      rintro rfl
      exact timed element calling
  | callsDequeue =>
      simp only [step] at stepped
      split at stepped
      · next idle =>
          rw [← Option.some.inj stepped]
          have delivered := orderly.delivered
          rw [deliveredCount, if_neg (by simp [idle])] at delivered
          exact { orderly with
            untested := fun _ => rfl
            moved := by simp
            delivered := by simpa [deliveredCount] using delivered
            foundEmpty := fun place found past => absurd (Option.some.inj found).symm past.1
            nonempty := fun place found past => absurd (Option.some.inj found).symm past.1 }
      · cases stepped
  | dequeueGoesOn =>
      rcases Option.map_eq_some_iff.mp stepped with ⟨place, calling, rfl⟩
      apply dequeue_orderly orderly calling
      · rintro rfl
        exact delivers.1 calling
      · rintro rfl
        exact (stored_count_iff orderly calling).mpr (timed.2 calling)
  | starts =>
      rw [← Option.some.inj stepped]
      exact { orderly with }
  | stopNotifies =>
      rw [← Option.some.inj stepped]
      exact { orderly with }
  | stopRaises =>
      simp only [step] at stepped
      split at stepped
      · cases stepped
      · rw [← Option.some.inj stepped]
        exact { orderly with }

end Steps

theorem waiting_queue_orderly (maxsize : Nat) :
    Orderly (waitingQueue maxsize : Threads Payload) where
  waits := rfl
  slots := List.length_replicate
  rear := rfl
  room := Nat.zero_le _
  front := Nat.le_refl _
  stored := by
    intro slot
    by_cases inside : slot < maxsize
    · simp [waitingQueue, EncoderCQ.ofSize, inside]
    · simp [waitingQueue, EncoderCQ.ofSize, inside]
  storing := nofun
  untested := nofun
  moved := nofun
  delivered := rfl
  foundEmpty := nofun
  nonempty := nofun

/-- For every queue size and every interleaving of the threads, each successful
`dequeue` yields an accepted element that was not dequeued before and `front`
stays behind `rear` exactly when the calls are well timed. -/
theorem delivers_accepted_along_iff (maxsize : Nat) (events : List (QueueEvent Payload)) :
    Along step DeliversAccepted (waitingQueue maxsize) events ↔
      Along step WellTimed (waitingQueue maxsize) events := by
  apply along_iff_of_invariant (fun _ _ => True) Orderly
  · intro t event orderly _
    exact delivers_accepted_iff orderly event
  · intro t event following orderly _ delivers stepped
    exact step_orderly orderly ((delivers_accepted_iff orderly event).mp delivers) stepped
  · exact waiting_queue_orderly maxsize
  · exact along_of_forall (fun _ _ => trivial) events

def wokenByStop : List (QueueEvent Nat) :=
  [.callsDequeue, .dequeueGoesOn, .dequeueGoesOn, .dequeueGoesOn, .stopNotifies, .dequeueGoesOn,
    .dequeueGoesOn, .dequeueGoesOn, .stopRaises, .dequeueGoesOn]

/-- `stop` wakes the wait before it raises the flag, so `dequeue` does not see
it, moves `front` past `rear` and returns a slot that was never written. -/
theorem woken_by_stop_delivers_nothing :
    ¬Along step DeliversAccepted (waitingQueue 40) wokenByStop := by
  intro delivers
  have advancing :=
    ((((((delivers.2 _ rfl).2 _ rfl).2 _ rfl).2 _ rfl).2 _ rfl).2 _ rfl).2 _ rfl
  exact advancing.1.1 rfl rfl

end Collabo.QueueThreads
