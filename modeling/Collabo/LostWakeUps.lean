import Collabo.BlockedLoops

/-!
# Wake-ups of the element queue

One thread calls `dequeue`, and any others call `enqueue`, `start` and `stop`,
statement by statement. `cond.wait` releases the mutex and starts to wait in one
step, and `notify_one` reaches a thread only while it waits. `enqueue` and
`stop` notify without the mutex under which the waiter makes its tests, and
`stop` does so before it raises the flag.
-/

namespace Collabo.LostWakeUps

open PartialRuns Collabo.EncoderQueue Collabo.QueueStatements Collabo.BlockedLoops

set_option autoImplicit false

variable {Payload : Type}

/-- `enqueueMtx` lets one `enqueue` in at a time. `stopping` counts the calls of
`stop` between their two statements. -/
structure Callers (Payload : Type) where
  q : EncoderCQ Payload
  enqueuing : Option (EnqueuePlace × EncoderElement Payload)
  dequeuing : Option Dequeuing
  stopping : Nat
  deriving DecidableEq, Repr

/-- `wakes` is a spurious wake-up. -/
inductive CallEvent (Payload : Type) where
  | callsEnqueue (element : EncoderElement Payload)
  | enqueueGoesOn
  | callsDequeue
  | dequeueGoesOn
  | wakes
  | starts
  | stopNotifies
  | stopRaises

def uncalled (q : EncoderCQ Payload) : Callers Payload where
  q := q
  enqueuing := none
  dequeuing := none
  stopping := 0

def notify (c : Callers Payload) : Callers Payload :=
  { c with dequeuing := c.dequeuing.map Dequeuing.notify }

def enqueueGoesOn (c : Callers Payload) (place : EnqueuePlace) (element : EncoderElement Payload) :
    Callers Payload :=
  let called := if place = .notifies then notify c else c
  match enqueueStatement c.q element place with
  | (.goesOn next, q) => { called with q := q, enqueuing := some (next, element) }
  | (.returns _ _, q) => { called with q := q, enqueuing := none }

def dequeueCallGoesOn (c : Callers Payload) (d : Dequeuing) : Option (Callers Payload) :=
  match dequeueGoesOn c.q d with
  | none => none
  | some (.goesOn next, q) => some { c with q := q, dequeuing := some next }
  | some (.returns _ _, q) => some { c with q := q, dequeuing := none }

def step (c : Callers Payload) : CallEvent Payload → Option (Callers Payload)
  | .callsEnqueue element =>
      match c.enqueuing with
      | none => some { c with enqueuing := some (.testsIsStop, element) }
      | some _ => none
  | .enqueueGoesOn => c.enqueuing.map fun call => enqueueGoesOn c call.1 call.2
  | .callsDequeue =>
      match c.dequeuing with
      | none => some { c with dequeuing := some dequeueBegins }
      | some _ => none
  | .dequeueGoesOn => c.dequeuing.bind (dequeueCallGoesOn c)
  | .wakes => some (notify c)
  | .starts => some { c with q := c.q.start }
  | .stopNotifies => some { notify c with stopping := c.stopping + 1 }
  | .stopRaises =>
      match c.stopping with
      | 0 => none
      | others + 1 => some { c with q := c.q.stop, stopping := others }

/-- There is neither an element nor a stop to wake up for. -/
def NothingToDo (c : Callers Payload) : Prop := Empty c.q ∧ c.q.isStop = false

instance (c : Callers Payload) : Decidable (NothingToDo c) := inferInstanceAs (Decidable (_ ∧ _))

/-- With no other call under way, `dequeue` waits without a notification only
where there is nothing to wake up for. -/
def NoWakeUpLost (c : Callers Payload) : Prop :=
  c.dequeuing = some blocked → c.enqueuing = none → c.stopping = 0 → NothingToDo c

def NoWakeUpLostNext (c : Callers Payload) (event : CallEvent Payload) : Prop :=
  ∀ following, step c event = some following → NoWakeUpLost following

/-- From this place `enqueue` gets to its notification. -/
def PastTests (place : EnqueuePlace) : Prop :=
  place = .advancesRear ∨ place = .stores ∨ place = .notifies

instance (place : EnqueuePlace) : Decidable (PastTests place) :=
  inferInstanceAs (Decidable (_ ∨ _))

def WillNotify (c : Callers Payload) : Prop :=
  ∃ place element, c.enqueuing = some (place, element) ∧ PastTests place

/-- The wait begins only where there is nothing to wake up for, and the flag is
raised only while nobody waits without a notification, or an `enqueue` is still
to notify. -/
def NotifiesInTime (c : Callers Payload) : CallEvent Payload → Prop
  | .dequeueGoesOn =>
      c.dequeuing = some { place := .waits, wait := .enters } → NothingToDo c ∨ WillNotify c
  | .stopRaises => c.dequeuing = some blocked → WillNotify c
  | .callsEnqueue _ => True
  | .enqueueGoesOn => True
  | .callsDequeue => True
  | .wakes => True
  | .starts => True
  | .stopNotifies => True

/-- Who waits without a notification has nothing to do or will be notified. -/
def Awaited (c : Callers Payload) : Prop :=
  c.dequeuing = some blocked → NothingToDo c ∨ WillNotify c

theorem no_wake_up_lost_of_awaited {c : Callers Payload} (awaited : Awaited c) :
    NoWakeUpLost c := by
  intro waits idle _
  rcases awaited waits with nothing | ⟨place, element, calling, _⟩
  · exact nothing
  · rw [idle] at calling
    cases calling

section Steps

variable {c following : Callers Payload}

theorem notify_not_blocked (c : Callers Payload) : (notify c).dequeuing ≠ some blocked := by
  unfold notify
  intro waits
  rcases Option.map_eq_some_iff.mp waits with ⟨d, _, notified⟩
  unfold Dequeuing.notify at notified
  split_ifs at notified with waiting
  · have same : Wait.notified = Wait.blocked := congrArg Dequeuing.wait notified
    cases same
  · rw [notified] at waiting
    exact waiting ⟨rfl, rfl⟩

theorem notified_awaited {enqueuing : Option (EnqueuePlace × EncoderElement Payload)}
    {q : EncoderCQ Payload} {stopping : Nat} :
    Awaited { notify c with q := q, enqueuing := enqueuing, stopping := stopping } :=
  fun waits => absurd waits (notify_not_blocked c)

/-- `dequeue` begins to wait in one step, which leaves the queue as it is. -/
theorem blocked_before {q after : EncoderCQ Payload} {d : Dequeuing}
    (went : dequeueGoesOn q d = some (.goesOn blocked, after)) :
    d = { place := .waits, wait := .enters } ∧ after = q := by
  rcases wait_before went with ⟨same, ⟨testing, lowered⟩ | entering⟩
  · obtain ⟨place, wait⟩ := d
    cases testing
    simp [dequeueGoesOn, dequeueStatement, lowered, blocked] at went
  · exact ⟨entering, same⟩

theorem enqueue_awaited {place : EnqueuePlace} {element : EncoderElement Payload}
    (awaited : Awaited c) (calling : c.enqueuing = some (place, element)) :
    Awaited (enqueueGoesOn c place element) := by
  have untested (early : ¬PastTests place) (waits : c.dequeuing = some blocked) :
      NothingToDo c := by
    rcases awaited waits with nothing | ⟨other, _, same, past⟩
    · exact nothing
    · rw [calling] at same
      cases same
      exact absurd past early
  cases place with
  | testsIsStop =>
      cases stopped : c.q.isStop with
      | true =>
          intro waits
          have waiting : c.dequeuing = some blocked := by
            simpa [enqueueGoesOn, enqueueStatement, stopped] using waits
          have lowered := (untested (by decide) waiting).2
          rw [stopped] at lowered
          cases lowered
      | false =>
          intro waits
          have waiting : c.dequeuing = some blocked := by
            simpa [enqueueGoesOn, enqueueStatement, stopped] using waits
          have nothing := untested (by decide) waiting
          apply Or.inl
          simpa [NothingToDo, enqueueGoesOn, enqueueStatement, stopped] using nothing
  | testsFull =>
      intro waits
      by_cases full : c.q.front = c.q.rear + 1
      · have waiting : c.dequeuing = some blocked := by
          simpa [enqueueGoesOn, enqueueStatement, full] using waits
        have empty : c.q.front = c.q.rear := (untested (by decide) waiting).1
        omega
      · apply Or.inr
        simp [WillNotify, enqueueGoesOn, enqueueStatement, full, PastTests]
  | advancesRear => exact fun _ => .inr ⟨.stores, element, rfl, by decide⟩
  | stores => exact fun _ => .inr ⟨.notifies, element, rfl, by decide⟩
  | notifies => exact notified_awaited

theorem dequeue_awaited {d : Dequeuing}
    (inTime : NotifiesInTime c .dequeueGoesOn) (calling : c.dequeuing = some d)
    (stepped : dequeueCallGoesOn c d = some following) : Awaited following := by
  unfold dequeueCallGoesOn at stepped
  cases went : dequeueGoesOn c.q d with
  | none =>
      simp only [went] at stepped
      cases stepped
  | some result =>
      obtain ⟨progress, q⟩ := result
      cases progress with
      | goesOn next =>
          simp only [went, Option.some.injEq] at stepped
          rw [← stepped]
          intro waits
          rw [Option.some.inj waits] at went
          rcases blocked_before went with ⟨entering, same⟩
          rw [entering] at calling
          rw [same]
          exact inTime calling
      | returns msg element =>
          simp only [went, Option.some.injEq] at stepped
          rw [← stepped]
          intro waits
          cases waits

theorem step_awaited {event : CallEvent Payload} (awaited : Awaited c)
    (inTime : NotifiesInTime c event) (stepped : step c event = some following) :
    Awaited following := by
  cases event with
  | callsEnqueue element =>
      simp only [step] at stepped
      split at stepped
      · next idle =>
          rw [← Option.some.inj stepped]
          intro waits
          rcases awaited waits with nothing | ⟨_, _, calling, _⟩
          · exact .inl nothing
          · rw [idle] at calling
            cases calling
      · cases stepped
  | enqueueGoesOn =>
      rcases Option.map_eq_some_iff.mp stepped with ⟨⟨place, element⟩, calling, rfl⟩
      exact enqueue_awaited awaited calling
  | callsDequeue =>
      simp only [step] at stepped
      split at stepped
      · rw [← Option.some.inj stepped]
        intro waits
        cases waits
      · cases stepped
  | dequeueGoesOn =>
      rcases Option.bind_eq_some_iff.mp stepped with ⟨d, calling, went⟩
      exact dequeue_awaited inTime calling went
  | wakes =>
      rw [← Option.some.inj stepped]
      exact notified_awaited
  | starts =>
      rw [← Option.some.inj stepped]
      intro waits
      rcases awaited waits with nothing | calling
      · exact .inl ⟨nothing.1, rfl⟩
      · exact .inr calling
  | stopNotifies =>
      rw [← Option.some.inj stepped]
      exact notified_awaited
  | stopRaises =>
      simp only [step] at stepped
      split at stepped
      · cases stepped
      · rw [← Option.some.inj stepped]
        exact fun waits => .inr (inTime waits)

/-- A step that is not in time strands the waiter: it has something to do, and
only a call that begins later, or chance, can still wake it. -/
theorem awaited_iff {event : CallEvent Payload} (awaited : Awaited c)
    (stepped : step c event = some following) : Awaited following ↔ NotifiesInTime c event := by
  refine ⟨?_, fun inTime => step_awaited awaited inTime stepped⟩
  intro still
  cases event with
  | dequeueGoesOn =>
      intro entering
      rcases Option.bind_eq_some_iff.mp stepped with ⟨d, calling, went⟩
      rw [entering] at calling
      cases calling
      cases went
      exact still rfl
  | stopRaises =>
      intro waits
      simp only [step] at stepped
      split at stepped
      · cases stepped
      · cases stepped
        rcases still waits with ⟨_, lowered⟩ | calling
        · cases lowered
        · exact calling
  | callsEnqueue element => trivial
  | enqueueGoesOn => trivial
  | callsDequeue => trivial
  | wakes => trivial
  | starts => trivial
  | stopNotifies => trivial

end Steps

/-- In every run over whatever queue in which the notifications come in time,
no wake-up is lost in any state. -/
theorem no_wake_up_lost_along (q : EncoderCQ Payload) (events : List (CallEvent Payload))
    (inTime : Along step NotifiesInTime (uncalled q) events) :
    NoWakeUpLost (uncalled q) ∧ Along step NoWakeUpLostNext (uncalled q) events := by
  have initial : Awaited (uncalled q) := by
    intro waits
    cases waits
  refine ⟨no_wake_up_lost_of_awaited initial, ?_⟩
  apply along_of_invariant Awaited _ _ initial inTime
  · intro c event awaited allowed following stepped
    exact no_wake_up_lost_of_awaited (step_awaited awaited allowed stepped)
  · intro c event following awaited allowed stepped
    exact step_awaited awaited allowed stepped

def enqueuedInWait : List (CallEvent Nat) :=
  [.callsDequeue, .dequeueGoesOn, .dequeueGoesOn, .dequeueGoesOn, .dequeueGoesOn,
    .callsEnqueue { data := 7, size := 1, fake := false }, .enqueueGoesOn, .enqueueGoesOn,
    .enqueueGoesOn, .enqueueGoesOn, .enqueueGoesOn, .dequeueGoesOn]

theorem no_wake_up_lost_along_in_wait :
    NoWakeUpLost (uncalled (EncoderCQ.new true : EncoderCQ Nat)) ∧
      Along step NoWakeUpLostNext (uncalled (EncoderCQ.new true)) enqueuedInWait := by
  apply no_wake_up_lost_along (EncoderCQ.new true) enqueuedInWait
  apply along_cons rfl trivial
  apply along_cons rfl nofun
  apply along_cons rfl nofun
  apply along_cons rfl nofun
  apply along_cons rfl (fun _ => .inl (by decide))
  apply along_cons rfl trivial
  apply along_cons rfl trivial
  apply along_cons rfl trivial
  apply along_cons rfl trivial
  apply along_cons rfl trivial
  apply along_cons rfl trivial
  exact along_cons rfl nofun trivial

def enqueuedBeforeWait : List (CallEvent Nat) :=
  [.callsDequeue, .dequeueGoesOn, .dequeueGoesOn, .dequeueGoesOn,
    .callsEnqueue { data := 7, size := 1, fake := false }, .enqueueGoesOn, .enqueueGoesOn,
    .enqueueGoesOn, .enqueueGoesOn, .enqueueGoesOn, .dequeueGoesOn]

def stoppedBeforeWait : List (CallEvent Nat) :=
  [.callsDequeue, .dequeueGoesOn, .dequeueGoesOn, .dequeueGoesOn, .stopNotifies, .dequeueGoesOn,
    .stopRaises]

/-- `dequeue` waits beside an element, and on a stopped queue. -/
theorem wake_ups_lost :
    ¬Along step NoWakeUpLostNext (uncalled (EncoderCQ.new true)) enqueuedBeforeWait ∧
      ¬Along step NoWakeUpLostNext (uncalled (EncoderCQ.new true)) stoppedBeforeWait := by
  constructor
  · intro runs
    have last := (((((((((((runs.2 _ rfl).2 _ rfl).2 _ rfl).2 _ rfl).2 _ rfl).2 _ rfl).2 _ rfl).2 _
      rfl).2 _ rfl).2 _ rfl).1 _ rfl)
    exact absurd (last rfl rfl rfl) (by decide)
  · intro runs
    have last := (((((((runs.2 _ rfl).2 _ rfl).2 _ rfl).2 _ rfl).2 _ rfl).2 _ rfl).1 _ rfl)
    exact absurd (last rfl rfl rfl) (by decide)

end Collabo.LostWakeUps
