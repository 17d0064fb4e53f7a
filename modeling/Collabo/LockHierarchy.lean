import Collabo.Library.LockOrder
import Collabo.LockRequests

/-!
# The mutexes of all threads

`sharedMtx` of the handlers, `encoderMtx` of the encoder, and the two mutexes of
each of its queues. The host answers the callbacks of a handler inside its
exclusive scope, where the encoder takes its own mutex. A wait of `dequeue` gives
its mutex back and counts as over at any time: a wake-up that is lost is no
deadlock here.
-/

namespace Collabo.LockHierarchy

open LockTrace LockOrder Collabo.MySQLConnector Collabo.ClientTable Collabo.EncoderSession
  Collabo.MediaStream Collabo.CollaboServer Collabo.ServerSteps Collabo.LockRequests

set_option autoImplicit false

inductive Queue where
  | videoCQ
  | audioCQ
  deriving DecidableEq, Repr

inductive Mutex where
  | sharedMtx
  | encoderMtx
  | enqueueMtx (queue : Queue)
  | dequeueMtx (queue : Queue)
  deriving DecidableEq, Repr

def rank : Mutex → Nat
  | .sharedMtx => 0
  | .encoderMtx => 1
  | .enqueueMtx _ => 2
  | .dequeueMtx _ => 3

def initializeEncoder : List (Op Mutex) := scope .encoderMtx .exclusive []

def stopEncoder : List (Op Mutex) := scope .encoderMtx .exclusive []

def isStop : List (Op Mutex) := scope .encoderMtx .exclusive []

def enqueue (queue : Queue) : List (Op Mutex) := scope (.enqueueMtx queue) .exclusive []

def dequeue (queue : Queue) (waits : Bool) : List (Op Mutex) :=
  scope (.dequeueMtx queue) .exclusive (if waits then wait (.dequeueMtx queue) .exclusive else [])

def clear (queue : Queue) : List (Op Mutex) :=
  scope (.enqueueMtx queue) .exclusive (scope (.dequeueMtx queue) .exclusive [])

def encodeAudio (stopped : Bool) : List (Op Mutex) :=
  scope .encoderMtx .shared (if stopped then [] else enqueue .audioCQ)

def stateCallback : ClbState → List (Op Mutex)
  | .startStreaming => initializeEncoder
  | .stopStreaming => stopEncoder

def hostCalls (server : Server) (event : ServerEvent) : List ClbState :=
  match (traced server event).handled with
  | .returns following =>
      following.streaming.callbacks.drop server.streaming.callbacks.length
  | .escapes following =>
      following.streaming.callbacks.drop server.streaming.callbacks.length
  | .undefined _ => []

/-- What a handler does to `sharedMtx`, with what it does in its exclusive scope. -/
def withInner (inner : List (Op Mutex)) : List LockOp → List (Op Mutex)
  | [] => []
  | .request .shared :: rest => .requests .sharedMtx .shared :: withInner inner rest
  | .request .exclusive :: rest =>
      .requests .sharedMtx .exclusive :: (inner ++ withInner inner rest)
  | .release :: rest => .releases .sharedMtx :: withInner inner rest

def handler (server : Server) (event : ServerEvent) : List (Op Mutex) :=
  withInner ((hostCalls server event).flatMap stateCallback) (traced server event).ops

/-- What a thread calls with none of the mutexes held. A handler is given with the
server that it finds. -/
inductive Call where
  | handles (server : Server) (event : ServerEvent)
  | initializes
  | stops
  | asksStop
  | encodesAudio (stopped : Bool)
  | enqueues (queue : Queue)
  | dequeues (queue : Queue) (waits : Bool)
  | clears (queue : Queue)

def Call.ops : Call → List (Op Mutex)
  | .handles server event => handler server event
  | .initializes => initializeEncoder
  | .stops => stopEncoder
  | .asksStop => isStop
  | .encodesAudio stopped => encodeAudio stopped
  | .enqueues queue => enqueue queue
  | .dequeues queue waits => dequeue queue waits
  | .clears queue => clear queue

/-- The call is no SETTING that closes a connection inside its handler. -/
def Call.ClosesNobody : Call → Prop
  | .handles server event => LockRequests.ClosesNobody server event
  | .initializes => True
  | .stops => True
  | .asksStop => True
  | .encodesAudio _ => True
  | .enqueues _ => True
  | .dequeues _ _ => True
  | .clears _ => True

def threadsOf (programs : List (List Call)) : List (Thread Mutex) :=
  programs.map fun calls => starts (calls.flatMap Call.ops)

/-- A handler calls the encoder, `encodeAudio` enqueues and `clear` takes both
mutexes of its queue. -/
structure InOrder (order : Mutex → Nat) : Prop where
  encoder : order .sharedMtx < order .encoderMtx
  audio : order .encoderMtx < order (.enqueueMtx .audioCQ)
  queues : ∀ queue, order (.enqueueMtx queue) < order (.dequeueMtx queue)

theorem rank_in_order : InOrder rank :=
  ⟨Nat.zero_lt_one, Nat.one_lt_two, fun _ => Nat.lt_succ_self 2⟩

section Inner

variable {order : Mutex → Nat}

theorem callback_keeps {held : List (Mutex × Hold)} (state : ClbState)
    (above : ∀ taken ∈ held, order taken.1 < order .encoderMtx) :
    Keeps order held (stateCallback state) := by
  cases state with
  | startStreaming => exact keeps_scope above keeps_nil
  | stopStreaming => exact keeps_scope above keeps_nil

theorem callback_balanced (held : List (Mutex × Hold)) (state : ClbState) :
    holdsAfter held (stateCallback state) = held := by
  cases state with
  | startStreaming => exact holds_after_scope rfl
  | stopStreaming => exact holds_after_scope rfl

theorem callbacks_balanced (states : List ClbState) (held : List (Mutex × Hold)) :
    holdsAfter held (states.flatMap stateCallback) = held :=
  holds_after_flat_map fun state _ => callback_balanced held state

end Inner

section Handlers

variable {order : Mutex → Nat} {server : Server} {event : ServerEvent} {inner : List (Op Mutex)}

def asShared (holds : List Hold) : List (Mutex × Hold) := holds.map fun hold => (.sharedMtx, hold)

theorem without_shared (holds : List Hold) :
    without (asShared holds) .sharedMtx = asShared holds.tail := by
  cases holds with
  | nil => rfl
  | cons hold rest => exact without_newest

theorem with_inner_held (balanced : ∀ held, holdsAfter held inner = held) (holds : List Hold)
    (ops : List LockOp) :
    holdsAfter (asShared holds) (withInner inner ops) =
      asShared (LockTrace.heldAfter holds ops) := by
  induction ops generalizing holds with
  | nil => rfl
  | cons op rest induction =>
      cases op with
      | release =>
          rw [withInner, holdsAfter, without_shared]
          exact induction holds.tail
      | request hold =>
          cases hold with
          | shared => exact induction (.shared :: holds)
          | exclusive =>
              rw [withInner, holdsAfter, holds_after_append, balanced]
              exact induction (.exclusive :: holds)

/-- The encoder gives its mutex back, so what is left is the lock of the handlers. -/
theorem never_waits_of_self_free (balanced : ∀ held, holdsAfter held inner = held)
    (holds : List Hold) (ops : List LockOp)
    (free : SelfFree (asShared holds) (withInner inner ops)) : NeverWaitsForItself holds ops := by
  induction ops generalizing holds with
  | nil => trivial
  | cons op rest induction =>
      cases op with
      | release =>
          rw [withInner, SelfFree, without_shared] at free
          exact induction holds.tail free
      | request hold =>
          cases hold with
          | shared => exact induction (.shared :: holds) free.2
          | exclusive =>
              rw [withInner, SelfFree, self_free_append, balanced] at free
              have none : holds = [] := by
                cases holds with
                | nil => rfl
                | cons newest others => exact absurd rfl (free.1 rfl _ List.mem_cons_self)
              exact ⟨none, induction (.exclusive :: holds) free.2.2⟩

theorem handler_balanced (server : Server) (event : ServerEvent) :
    holdsAfter [] (handler server event) = [] := by
  have held := with_inner_held (callbacks_balanced (hostCalls server event)) []
    (traced server event).ops
  rw [handlers_release] at held
  exact held

theorem handler_closes_nobody (free : SelfFree [] (handler server event)) :
    LockRequests.ClosesNobody server event := by
  apply (no_self_deadlock_iff server event).mp
  exact never_waits_of_self_free (callbacks_balanced (hostCalls server event)) [] _ free

/-- The lock is not taken, or in one mode, or shared and then exclusively. -/
def TakenInTurn (ops : List LockOp) : Prop :=
  ops = [] ∨ (∃ hold, ops = holding hold []) ∨ ops = holding .shared [] ++ holding .exclusive []

theorem message_in_turn {ws : WebSocket} {message : Option Json} {dbCall : DbCall}
    {lib : Libav}
    (closesNobody : LockRequests.ClosesNobody server (.messages ws message dbCall lib)) :
    TakenInTurn (traced server (.messages ws message dbCall lib)).ops := by
  unfold LockRequests.ClosesNobody at closesNobody
  simp only [traced, LockRequests.onMsgPtr]
  cases found : findWs server.clientList ws with
  | none => exact .inr (.inl ⟨.shared, rfl⟩)
  | some client =>
    cases message with
    | none => exact .inr (.inl ⟨.shared, rfl⟩)
    | some json =>
      dsimp only
      cases field : json.int "identifier" with
      | none => exact .inr (.inl ⟨.shared, rfl⟩)
      | some identifier =>
        dsimp only
        unfold LockRequests.onIdentifier
        split_ifs with isSetting isMode
        · rw [isSetting] at field
          have settled := @on_setting_done server client json dbCall lib
          obtain ⟨_, none⟩ | ⟨⟨answer, known, closes⟩, _⟩ := settled.ops
          · simp only [released, none]
            exact .inr (.inl ⟨.shared, rfl⟩)
          · exact absurd (closesNobody client json answer found rfl field known) closes
        · unfold LockRequests.onMode
          dsimp only
          split_ifs
          · exact .inr (.inr rfl)
          · exact .inr (.inl ⟨.shared, rfl⟩)
        · exact .inr (.inl ⟨.shared, rfl⟩)

theorem handler_in_turn (closesNobody : LockRequests.ClosesNobody server event) :
    TakenInTurn (traced server event).ops := by
  cases event with
  | messages ws message dbCall lib => exact message_in_turn closesNobody
  | opens ws lib => exact .inr (.inl ⟨.exclusive, rfl⟩)
  | closes ws lib => exact .inr (.inl ⟨.exclusive, rfl⟩)
  | packet bytes => exact .inl rfl
  | resizes width height lib => exact .inl rfl
  | hostChanges host => exact .inl rfl
  | databaseChanges db => exact .inl rfl

theorem handler_keeps (ordered : InOrder order)
    (closesNobody : LockRequests.ClosesNobody server event) :
    Keeps order [] (handler server event) := by
  have above : ∀ taken ∈ [(Mutex.sharedMtx, Hold.exclusive)],
      order taken.1 < order .encoderMtx := by
    intro taken member
    rw [List.mem_singleton.mp member]
    exact ordered.encoder
  have exclusive : Keeps order [] (scope .sharedMtx .exclusive
      ((hostCalls server event).flatMap stateCallback)) :=
    keeps_outermost (keeps_flat_map fun state _ => callback_keeps state above)
  have shared : Keeps order [] (scope .sharedMtx .shared []) := keeps_outermost keeps_nil
  unfold handler
  obtain none | ⟨hold, once⟩ | both := handler_in_turn closesNobody
  · rw [none]
    exact keeps_nil
  · rw [once]
    cases hold with
    | shared => exact shared
    | exclusive => exact exclusive
  · rw [both]
    exact keeps_append shared exclusive

end Handlers

section Calls

variable {order : Mutex → Nat}

theorem audio_keeps (ordered : InOrder order) (stopped : Bool) :
    Keeps order [] (encodeAudio stopped) := by
  apply keeps_outermost
  cases stopped with
  | true => exact keeps_nil
  | false =>
      apply keeps_scope _ keeps_nil
      intro taken member
      rw [List.mem_singleton.mp member]
      exact ordered.audio

theorem dequeue_keeps (queue : Queue) (waits : Bool) : Keeps order [] (dequeue queue waits) := by
  apply keeps_outermost
  cases waits with
  | true => exact keeps_wait (List.forall_mem_nil _)
  | false => exact keeps_nil

theorem clear_keeps (ordered : InOrder order) (queue : Queue) : Keeps order [] (clear queue) := by
  apply keeps_outermost
  apply keeps_scope _ keeps_nil
  intro taken member
  rw [List.mem_singleton.mp member]
  exact ordered.queues queue

theorem call_keeps (ordered : InOrder order) (call : Call) (closesNobody : call.ClosesNobody) :
    Keeps order [] call.ops := by
  cases call with
  | handles server event => exact handler_keeps ordered closesNobody
  | initializes => exact keeps_outermost keeps_nil
  | stops => exact keeps_outermost keeps_nil
  | asksStop => exact keeps_outermost keeps_nil
  | encodesAudio stopped => exact audio_keeps ordered stopped
  | enqueues queue => exact keeps_outermost keeps_nil
  | dequeues queue waits => exact dequeue_keeps queue waits
  | clears queue => exact clear_keeps ordered queue

theorem program_ascends (ordered : InOrder order) {calls : List Call}
    (closesNobody : ∀ call ∈ calls, call.ClosesNobody) :
    Ascends order [] (calls.flatMap Call.ops) :=
  ascends_of_keeps (keeps_flat_map fun call member =>
    call_keeps ordered call (closesNobody call member))

theorem call_balanced (call : Call) : holdsAfter [] call.ops = [] := by
  cases call with
  | handles server event => exact handler_balanced server event
  | initializes => rfl
  | stops => rfl
  | asksStop => rfl
  | encodesAudio stopped => cases stopped <;> rfl
  | enqueues queue => cases queue <;> rfl
  | dequeues queue waits => cases queue <;> cases waits <;> rfl
  | clears queue => cases queue <;> rfl

theorem call_closes_nobody (call : Call) (free : SelfFree [] call.ops) : call.ClosesNobody := by
  cases call with
  | handles server event => exact handler_closes_nobody free
  | initializes => trivial
  | stops => trivial
  | asksStop => trivial
  | encodesAudio stopped => trivial
  | enqueues queue => trivial
  | dequeues queue waits => trivial
  | clears queue => trivial

/-- However many threads there are, whatever they call and in whichever order they
go on, some thread goes on until all have ended, exactly when no SETTING closes a
connection inside its handler. -/
theorem deadlock_free_iff (programs : List (List Call)) :
    DeadlockFree (threadsOf programs) ↔
      ∀ calls ∈ programs, ∀ call ∈ calls, call.ClosesNobody := by
  constructor
  · intro free calls isProgram call member
    have program : starts (calls.flatMap Call.ops) ∈ threadsOf programs :=
      List.mem_map_of_mem isProgram
    have selfFree := self_free_of_deadlock_free free _ program
    exact call_closes_nobody call
      (self_free_calls (fun other _ => call_balanced other) selfFree call member)
  · intro closesNobody
    apply deadlock_free_of_ascends
    intro thread member
    obtain ⟨calls, isProgram, same⟩ := List.mem_map.mp member
    rw [← same]
    exact program_ascends rank_in_order (closesNobody calls isProgram)

end Calls

end Collabo.LockHierarchy
