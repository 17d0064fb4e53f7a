import Collabo.LockHierarchy

/-!
# The end of the process

SIGINT interrupts a thread wherever it is, and its handler runs on that thread,
which keeps what it holds. It stops the streams, and `clbStop` stops them again
and closes every connection before the process exits. No thread makes a SETTING
that closes a connection inside its own handler, which keeps `sharedMtx` for good.
-/

namespace Collabo.Interrupts

open LockTrace LockOrder Collabo.ClientTable Collabo.EncoderSession Collabo.CollaboServer
  Collabo.LockHierarchy

open Collabo.MediaStream (stopStreaming)

open Collabo.ServerSteps (sampleServer sampleLib)

set_option autoImplicit false

def qemuVideoStop (server : Server) (lib : Libav) : Server :=
  { server with
    streaming := stopStreaming (viewers server.clientList) server.streaming lib }

/-- The handlers of the connections that `group->close()` closes, in its order. -/
def closings (server : Server) : List (WebSocket × Libav) → List (Op Mutex)
  | [] => []
  | (ws, lib) :: rest =>
      handler server (.closes ws lib) ++
        match terminate server ws lib with
        | .returns cleared => closings cleared rest
        | .escapes _ => []
        | .undefined _ => []

/-- Up to the call of `exit`. -/
def signalEvent (server : Server) (lib : Libav) (order : List (WebSocket × Libav)) :
    List (Op Mutex) :=
  stopEncoder ++ (stateCallback .stopStreaming ++
    closings (clbStateCallback (qemuVideoStop server lib) .stopStreaming lib) order)

/-- What the thread holds when it is interrupted after so many operations of its calls. -/
def heldThen (calls : List Call) (count : Nat) : List (Mutex × Hold) :=
  holdsAfter [] ((calls.flatMap Call.ops).take count)

def interrupted (calls : List Call) (count : Nat) (handling : List (Op Mutex)) : Thread Mutex :=
  starts ((calls.flatMap Call.ops).take count ++ handling)

/-- Whatever the other threads call that closes nobody, and however they and the
interrupted one go on, some thread can go on until `exit` is called. -/
def ReachesExit (calls : List Call) (count : Nat) (handling : List (Op Mutex)) : Prop :=
  ∀ others : List (List Call), (∀ program ∈ others, ∀ call ∈ program, call.ClosesNobody) →
    ComesThrough (interrupted calls count handling :: threadsOf others) 0

/-- Nobody asks for a mutex of `videoCQ` with `sharedMtx` or `encoderMtx` held. -/
def interruptRank : Mutex → Nat
  | .enqueueMtx .videoCQ => 0
  | .dequeueMtx .videoCQ => 1
  | .sharedMtx => 2
  | .encoderMtx => 3
  | .enqueueMtx .audioCQ => 4
  | .dequeueMtx .audioCQ => 5

theorem interrupt_rank_in_order : InOrder interruptRank := by
  refine ⟨by decide, by decide, ?_⟩
  intro queue
  cases queue with
  | videoCQ => decide
  | audioCQ => decide

section Handling

variable {held : List (Mutex × Hold)} {server : Server} {lib : Libav}
  {order : List (WebSocket × Libav)}

theorem closing_scope (server : Server) (ws : WebSocket) (lib : Libav) :
    handler server (.closes ws lib) = scope .sharedMtx .exclusive
      ((hostCalls server (.closes ws lib)).flatMap stateCallback) := rfl

theorem closings_keep
    (above : order ≠ [] → ∀ taken ∈ held, interruptRank taken.1 < interruptRank .sharedMtx) :
    Keeps interruptRank held (closings server order) := by
  induction order generalizing server with
  | nil => exact keeps_nil
  | cons first rest induction =>
      obtain ⟨ws, lib⟩ := first
      have below := above (List.cons_ne_nil _ _)
      have inScope : ∀ taken ∈ (Mutex.sharedMtx, Hold.exclusive) :: held,
          interruptRank taken.1 < interruptRank .encoderMtx := by
        intro taken member
        obtain newest | older := List.mem_cons.mp member
        · rw [newest]
          decide
        · exact (below taken older).trans (by decide)
      have closing : Keeps interruptRank held (handler server (.closes ws lib)) := by
        rw [closing_scope]
        exact keeps_scope below (keeps_flat_map fun state _ => callback_keeps state inScope)
      rw [closings]
      apply keeps_append closing
      cases terminate server ws lib with
      | returns cleared => exact induction fun _ => below
      | escapes _ => exact keeps_nil
      | undefined _ => exact keeps_nil

theorem signal_keeps
    (few : ∀ taken ∈ held, taken.1 = .enqueueMtx .videoCQ ∨ taken.1 = .dequeueMtx .videoCQ ∨
      (taken.1 = .sharedMtx ∧ order = [])) :
    Keeps interruptRank held (signalEvent server lib order) := by
  have encoder : ∀ taken ∈ held, interruptRank taken.1 < interruptRank .encoderMtx := by
    intro taken holds
    obtain same | same | ⟨same, _⟩ := few taken holds
    · rw [same]
      decide
    · rw [same]
      decide
    · rw [same]
      decide
  have shared : order ≠ [] → ∀ taken ∈ held,
      interruptRank taken.1 < interruptRank .sharedMtx := by
    intro isOpen taken holds
    obtain same | same | ⟨_, closed⟩ := few taken holds
    · rw [same]
      decide
    · rw [same]
      decide
    · exact absurd closed isOpen
  have stops : Keeps interruptRank held stopEncoder := keeps_scope encoder keeps_nil
  exact keeps_append stops (keeps_append (callback_keeps .stopStreaming encoder)
    (closings_keep shared))

theorem signal_self_free (free : SelfFree held (signalEvent server lib order)) :
    (∀ taken ∈ held, taken.1 ≠ .encoderMtx) ∧
      (order ≠ [] → ∀ taken ∈ held, taken.1 ≠ .sharedMtx) := by
  have stopped : holdsAfter held stopEncoder = held := holds_after_scope rfl
  have called := callback_balanced held .stopStreaming
  rw [signalEvent, self_free_append, stopped, self_free_append, called] at free
  refine ⟨free.1.1 rfl, ?_⟩
  intro isOpen
  cases order with
  | nil => exact absurd rfl isOpen
  | cons first rest => exact free.2.2.1 rfl

theorem signal_asks : ∃ rest, signalEvent server lib order =
    .requests .encoderMtx .exclusive :: rest :=
  ⟨_, rfl⟩

end Handling

section Exit

variable {calls : List Call} {count : Nat} {server : Server} {lib : Libav}
  {order : List (WebSocket × Libav)}

theorem interrupted_ascends (closesNobody : ∀ call ∈ calls, call.ClosesNobody)
    (handling : List (Op Mutex))
    (keeps : Keeps interruptRank (heldThen calls count) handling) :
    Ascends interruptRank [] (((calls.flatMap Call.ops).take count ++ handling) ++
      (heldThen calls count).map fun taken => .releases taken.1) := by
  have program := program_ascends interrupt_rank_in_order closesNobody
  rw [← List.take_append_drop count (calls.flatMap Call.ops)] at program
  rw [List.append_assoc]
  exact ascends_prefix program (keeps _ (ascends_releases (heldThen calls count)))

/-- The others hold nothing yet, and the thread gets to where it is interrupted. -/
theorem run_to_interrupt (closesNobody : ∀ call ∈ calls, call.ClosesNobody)
    (handling : List (Op Mutex)) (others : List (List Call)) :
    (List.replicate ((calls.flatMap Call.ops).take count).length 0).foldlM step
        (interrupted calls count handling :: threadsOf others) =
      some ({ held := heldThen calls count, rest := handling } :: threadsOf others) := by
  have nothing : ∀ thread ∈ threadsOf others, thread.held = [] := by
    intro thread member
    obtain ⟨program, _, same⟩ := List.mem_map.mp member
    rw [← same]
    rfl
  have program := program_ascends rank_in_order closesNobody
  rw [← List.take_append_drop count (calls.flatMap Call.ops)] at program
  exact run_prefix nothing program

theorem through_self_free (through : ReachesExit calls count (signalEvent server lib order)) :
    (∀ taken ∈ heldThen calls count, taken.1 ≠ .encoderMtx) ∧
      (order ≠ [] → ∀ taken ∈ heldThen calls count, taken.1 ≠ .sharedMtx) := by
  have alone := through [] nofun
  have free := self_free_of_comes_through alone rfl
  exact signal_self_free ((self_free_append _ _).mp free).2

def signalled (calls : List Call) (count : Nat) (server : Server) (lib : Libav)
    (order : List (WebSocket × Libav)) : Thread Mutex where
  held := heldThen calls count
  rest := signalEvent server lib order

theorem through_moves (closesNobody : ∀ call ∈ calls, call.ClosesNobody)
    (through : ReachesExit calls count (signalEvent server lib order)) {others : List (List Call)}
    (othersClose : ∀ program ∈ others, ∀ call ∈ program, call.ClosesNobody) {schedule : List Nat}
    {following : List (Thread Mutex)}
    (ran : schedule.foldlM step (signalled calls count server lib order :: threadsOf others) =
      some (signalled calls count server lib order :: following)) :
    ∃ mover ∈ signalled calls count server lib order :: following,
      Moves (signalled calls count server lib order :: following) mover := by
  have arrives := @run_to_interrupt calls count closesNobody (signalEvent server lib order) others
  obtain ⟨rest, asks⟩ := @signal_asks server lib order
  have left : (signalled calls count server lib order).rest ≠ [] := by
    intro none
    exact List.cons_ne_nil _ _ (asks.symm.trans none)
  have whole : (List.replicate ((calls.flatMap Call.ops).take count).length 0 ++
      schedule).foldlM step
        (interrupted calls count (signalEvent server lib order) :: threadsOf others) =
      some (signalled calls count server lib order :: following) := by
    rw [List.foldlM_append, arrives]
    exact ran
  exact through others othersClose _ _ _ whole rfl left

def encodesAudioNext : Thread Mutex where
  held := [(.encoderMtx, .shared)]
  rest := enqueue .audioCQ ++ [.releases .encoderMtx]

def clearsNext : Thread Mutex where
  held := [(.enqueueMtx .audioCQ, .exclusive)]
  rest := scope (.dequeueMtx .audioCQ) .exclusive [] ++ [.releases (.enqueueMtx .audioCQ)]

/-- The handler waits for `encodeAudio`, and that for the thread itself. -/
theorem through_not_enqueuing (closesNobody : ∀ call ∈ calls, call.ClosesNobody)
    (through : ReachesExit calls count (signalEvent server lib order)) :
    ∀ taken ∈ heldThen calls count, taken.1 ≠ .enqueueMtx .audioCQ := by
  intro taken holds same
  let thread := signalled calls count server lib order
  have unheld := (through_self_free through).1
  have encodes : step (thread :: threadsOf [[.encodesAudio false]]) 1 =
      some [thread, encodesAudioNext] := by
    apply step_granted rfl (free_of_unheld _)
    exact List.forall_mem_cons.mpr ⟨unheld, List.forall_mem_singleton.mpr nofun⟩
  have ran : [1].foldlM step (thread :: threadsOf [[.encodesAudio false]]) =
      some [thread, encodesAudioNext] := run_cons.mpr ⟨_, encodes, rfl⟩
  have closes : ∀ program ∈ [[Call.encodesAudio false]], ∀ call ∈ program, call.ClosesNobody := by
    simp [Call.ClosesNobody]
  obtain ⟨mover, member, moves⟩ := through_moves closesNobody through closes ran
  obtain ⟨rest, asks⟩ := @signal_asks server lib order
  have handlerWaits : ¬Moves [thread, encodesAudioNext] thread :=
    not_moves asks (List.mem_cons_of_mem _ List.mem_cons_self) List.mem_cons_self rfl
  have encodeWaits : ¬Moves [thread, encodesAudioNext] encodesAudioNext :=
    not_moves rfl List.mem_cons_self holds same
  have stuck : ∀ mover ∈ [thread, encodesAudioNext], ¬Moves [thread, encodesAudioNext] mover :=
    List.forall_mem_cons.mpr ⟨handlerWaits, List.forall_mem_singleton.mpr encodeWaits⟩
  exact stuck mover member moves

/-- The handler waits for `encodeAudio`, that for `clear`, and that for the thread itself. -/
theorem through_not_dequeuing (closesNobody : ∀ call ∈ calls, call.ClosesNobody)
    (through : ReachesExit calls count (signalEvent server lib order)) :
    ∀ taken ∈ heldThen calls count, taken.1 ≠ .dequeueMtx .audioCQ := by
  intro taken holds same
  let thread := signalled calls count server lib order
  let calling : Thread Mutex := starts (encodeAudio false)
  let all : List (Thread Mutex) := [thread, encodesAudioNext, clearsNext]
  have unheld := (through_self_free through).1
  have unenqueued := through_not_enqueuing closesNobody through
  have clears : step (thread :: threadsOf [[.encodesAudio false], [.clears .audioCQ]]) 2 =
      some [thread, calling, clearsNext] := by
    apply step_granted rfl (free_of_unheld _)
    exact List.forall_mem_cons.mpr ⟨unenqueued, List.forall_mem_cons.mpr ⟨nofun,
      List.forall_mem_singleton.mpr nofun⟩⟩
  have encodes : step [thread, calling, clearsNext] 1 = some all := by
    apply step_granted rfl (free_of_unheld _)
    have cleared : ∀ taken ∈ clearsNext.held, taken.1 ≠ .encoderMtx :=
      List.forall_mem_singleton.mpr nofun
    exact List.forall_mem_cons.mpr ⟨unheld, List.forall_mem_cons.mpr ⟨nofun,
      List.forall_mem_singleton.mpr cleared⟩⟩
  have ran : [2, 1].foldlM step (thread :: threadsOf [[.encodesAudio false], [.clears .audioCQ]]) =
      some all := run_cons.mpr ⟨_, clears, run_cons.mpr ⟨_, encodes, rfl⟩⟩
  have closes : ∀ program ∈ [[Call.encodesAudio false], [Call.clears .audioCQ]],
      ∀ call ∈ program, call.ClosesNobody := by
    simp [Call.ClosesNobody]
  obtain ⟨mover, member, moves⟩ := through_moves closesNobody through closes ran
  obtain ⟨rest, asks⟩ := @signal_asks server lib order
  have second : encodesAudioNext ∈ all := List.mem_cons_of_mem _ List.mem_cons_self
  have third : clearsNext ∈ all :=
    List.mem_cons_of_mem _ (List.mem_cons_of_mem _ List.mem_cons_self)
  have handlerWaits : ¬Moves all thread := not_moves asks second List.mem_cons_self rfl
  have encodeWaits : ¬Moves all encodesAudioNext := not_moves rfl third List.mem_cons_self rfl
  have clearWaits : ¬Moves all clearsNext := not_moves rfl List.mem_cons_self holds same
  have stuck : ∀ mover ∈ all, ¬Moves all mover :=
    List.forall_mem_cons.mpr ⟨handlerWaits, List.forall_mem_cons.mpr ⟨encodeWaits,
      List.forall_mem_singleton.mpr clearWaits⟩⟩
  exact stuck mover member moves

end Exit

/-- Where no thread closes a connection inside a SETTING, the handler of SIGINT reaches its
call of `exit` exactly when the interrupted thread holds at most mutexes of `videoCQ`, and
`sharedMtx` only if no connection is to be closed. -/
theorem reaches_exit_iff (calls : List Call) (closesNobody : ∀ call ∈ calls, call.ClosesNobody)
    (count : Nat) (server : Server) (lib : Libav) (order : List (WebSocket × Libav)) :
    ReachesExit calls count (signalEvent server lib order) ↔
      ∀ taken ∈ heldThen calls count,
        taken.1 = .enqueueMtx .videoCQ ∨ taken.1 = .dequeueMtx .videoCQ ∨
          (taken.1 = .sharedMtx ∧ order = []) := by
  constructor
  · intro through taken holds
    have selfFree := through_self_free through
    have unenqueued := through_not_enqueuing closesNobody through taken holds
    have undequeued := through_not_dequeuing closesNobody through taken holds
    cases mutex : taken.1 with
    | sharedMtx =>
        by_cases closed : order = []
        · exact .inr (.inr ⟨rfl, closed⟩)
        · exact absurd mutex (selfFree.2 closed taken holds)
    | encoderMtx => exact absurd mutex (selfFree.1 taken holds)
    | enqueueMtx queue =>
        cases queue with
        | videoCQ => exact .inl rfl
        | audioCQ => exact absurd mutex unenqueued
    | dequeueMtx queue =>
        cases queue with
        | videoCQ => exact .inr (.inl rfl)
        | audioCQ => exact absurd mutex undequeued
  · intro few others closes
    have keeps := @signal_keeps _ server lib order few
    apply comes_through_of_ascends (interrupted_ascends closesNobody _ keeps)
    intro other member
    obtain ⟨program, isProgram, same⟩ := List.mem_map.mp member
    rw [← same]
    exact program_ascends interrupt_rank_in_order (closes program isProgram)

/-- The loop of the video may be interrupted in its queue, a capture of the audio may not. -/
theorem interrupted_in_queue :
    ReachesExit [.dequeues .videoCQ true] 1 (signalEvent sampleServer sampleLib [(1, sampleLib)]) ∧
      ¬ReachesExit [.encodesAudio false] 2 (signalEvent sampleServer sampleLib []) := by
  have video := reaches_exit_iff [.dequeues .videoCQ true] (by simp [Call.ClosesNobody]) 1
    sampleServer sampleLib [(1, sampleLib)]
  have audio := reaches_exit_iff [.encodesAudio false] (by simp [Call.ClosesNobody]) 2
    sampleServer sampleLib []
  have heldByVideo : heldThen [.dequeues .videoCQ true] 1 = [(.dequeueMtx .videoCQ, .exclusive)] :=
    rfl
  have heldByAudio : heldThen [.encodesAudio false] 2 =
      [(.enqueueMtx .audioCQ, .exclusive), (.encoderMtx, .shared)] := rfl
  rw [heldByVideo] at video
  rw [heldByAudio] at audio
  refine ⟨video.mpr ?_, fun through => ?_⟩
  · exact List.forall_mem_singleton.mpr (.inr (.inl rfl))
  · have few := audio.mp through _ List.mem_cons_self
    simp at few

end Collabo.Interrupts
