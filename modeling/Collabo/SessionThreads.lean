import Collabo.EncoderSession
import Collabo.QueueStatements

/-!
# The threads of the encoder

Each `initialize` detaches its loops, and the silent branch of a loop detaches
a thread for each frame. Nothing joins them. They watch the `stopped` flag of
the encoder, which `stop` raises and the next `initialize` lowers. The two calls
hold `encoderMtx` from their first statement to the last, so there is one call
in progress at most; the threads take no lock. A capture thread that finds the
screen resized makes both calls itself.
-/

namespace Collabo.SessionThreads

open Collabo.CString Collabo.EncoderQueue Collabo.QueueStatements Collabo.EncoderSession

set_option autoImplicit false

/-- `choosesBranch` is the test of `isSilent` inside the loop with `onlyAudio`;
the other three tests are conditions of a `while`. -/
inductive LoopPlace where
  | begins
  | testsStopped
  | testsSilent
  | testsAudible
  | choosesBranch
  | spawns
  | dequeues (place : DequeuePlace)
  | encodes
  | ended
  deriving DecidableEq, Repr

structure LoopThread where
  loop : Loop
  session : Nat
  place : LoopPlace
  deriving DecidableEq, Repr

inductive TaskPlace where
  | captures
  | stops
  | initializes
  | encodes
  | ended
  deriving DecidableEq, Repr

/-- A thread of a silent branch, with the session whose loop detached it. -/
structure Task where
  session : Nat
  place : TaskPlace
  deriving DecidableEq, Repr

structure Moved where
  enc : Encoder
  place : LoopPlace
  spawned : List Task

def moves (enc : Encoder) (place : LoopPlace) : Option Moved :=
  some { enc := enc, place := place, spawned := [] }

def encodeVideoLoop (enc : Encoder) (onlyVideo : Bool) (session : Nat) : LoopPlace → Option Moved
  | .begins => moves enc .testsStopped
  | .testsStopped =>
      if enc.stopped then moves enc .ended
      else if onlyVideo then moves enc .spawns
      else moves enc .testsSilent
  | .testsSilent =>
      if enc.eCtx.isSilent ∧ enc.stopped = false then moves enc .spawns
      else moves enc .testsAudible
  | .testsAudible =>
      if enc.eCtx.isSilent = false ∧ enc.stopped = false then moves enc (.dequeues .testsEmpty)
      else moves enc .testsStopped
  | .spawns =>
      some
        { enc := enc
          place := if onlyVideo then .testsStopped else .testsSilent
          spawned := [{ session := session, place := .captures }] }
  | .dequeues place =>
      match dequeueStatement enc.videoCQ place with
      | (.goesOn next, q) => moves { enc with videoCQ := q } (.dequeues next)
      | (.returns msg _, q) =>
          moves { enc with videoCQ := q } (if msg = .stop then .testsStopped else .encodes)
  | .encodes => moves enc .testsAudible
  | .choosesBranch => none
  | .ended => none

def encodeAudioLoop (enc : Encoder) (onlyAudio : Bool) (session : Nat) : LoopPlace → Option Moved
  | .begins => moves { enc with audioCQ := enc.audioCQ.start } .testsStopped
  | .testsStopped =>
      if enc.stopped then moves { enc with audioCQ := enc.audioCQ.clear.queue } .ended
      else if onlyAudio then moves enc .choosesBranch
      else moves enc (.dequeues .testsEmpty)
  | .choosesBranch =>
      moves enc (if enc.eCtx.isSilent then .spawns else .dequeues .testsEmpty)
  | .spawns =>
      some
        { enc := enc
          place := .testsStopped
          spawned := [{ session := session, place := .encodes }] }
  | .dequeues place =>
      match dequeueStatement enc.audioCQ place with
      | (.goesOn next, q) => moves { enc with audioCQ := q } (.dequeues next)
      | (.returns msg _, q) =>
          if msg = .stop then moves { enc with audioCQ := q.clear.queue } .ended
          else moves { enc with audioCQ := q } .encodes
  | .encodes => moves enc .testsStopped
  | .testsSilent => none
  | .testsAudible => none
  | .ended => none

def loopStep (enc : Encoder) (thread : LoopThread) : Option Moved :=
  match thread.loop with
  | .video onlyVideo => encodeVideoLoop enc onlyVideo thread.session thread.place
  | .audio onlyAudio => encodeAudioLoop enc onlyAudio thread.session thread.place

/-- Where a call stands that holds the lock: before one of the statements of
`stop` after the flag, or in `initialize` after the fields are reset. -/
inductive Call where
  | stopsVideoCQ
  | stopsAudioCQ
  | frees
  | opens
  deriving DecidableEq, Repr

structure Calling where
  call : Call
  task : Option Nat
  deriving DecidableEq, Repr

/-- `ended` is the number of the last session whose `stop` has returned. -/
structure Threads where
  enc : Encoder
  loops : List LoopThread
  tasks : List Task
  calling : Option Calling
  ended : Nat
  deriving DecidableEq, Repr

/-- The producers put into the queues whatever they like whenever they like, and
an encode that fails ends the program, so neither is decided here. -/
inductive ThreadEvent where
  | initializes (mEncCtx : EncoderContext)
  | stops
  | callGoesOn (lib : Libav)
  | loopGoesOn (number : Nat)
  | taskGoesOn (number : Nat) (width height : Int)
  | enqueuesVideo (element : EncoderElement Captured)
  | enqueuesAudio (element : EncoderElement ByteString)

def constructedThreads (eCtx : EncoderContext) (audioBytes : Int) : Threads where
  enc := constructed eCtx audioBytes
  loops := []
  tasks := []
  calling := none
  ended := 0

def Task.resume (task : Task) : Task :=
  match task.place with
  | .stops => { task with place := .initializes }
  | .initializes => { task with place := .encodes }
  | .captures => task
  | .encodes => task
  | .ended => task

def resume (t : Threads) : Option Nat → Threads
  | none => t
  | some number => { t with tasks := t.tasks.modify number Task.resume }

def beginStop (t : Threads) (task : Option Nat) : Option Threads :=
  match t.calling with
  | some _ => none
  | none =>
      if t.enc.stopped then some (resume t task)
      else
        some
          { t with
            enc := { t.enc with stopped := true }
            calling := some { call := .stopsVideoCQ, task := task } }

def beginInitialize (t : Threads) (mEncCtx : EncoderContext) (task : Option Nat) :
    Option Threads :=
  match t.calling with
  | some _ => none
  | none =>
      if t.enc.stopped then
        some
          { t with
            enc := reset t.enc mEncCtx
            calling := some { call := .opens, task := task } }
      else some (resume t task)

def detached (session : Nat) (loop : Loop) : LoopThread where
  loop := loop
  session := session
  place := .begins

def opens (t : Threads) (lib : Libav) : Threads :=
  match openSession lib t.enc with
  | .error failed => { t with enc := failed.encoder, calling := none }
  | .ok opened =>
      { t with
        enc := { opened with loops := opened.loops ++ startedLoops opened.eCtx }
        loops := t.loops ++ (startedLoops opened.eCtx).map (detached opened.session)
        calling := none }

def callGoesOn (t : Threads) (lib : Libav) : Option Threads :=
  match t.calling with
  | none => none
  | some { call := .stopsVideoCQ, task } =>
      some
        { t with
          enc := { t.enc with videoCQ := t.enc.videoCQ.stop }
          calling := some { call := .stopsAudioCQ, task := task } }
  | some { call := .stopsAudioCQ, task } =>
      some
        { t with
          enc := { t.enc with audioCQ := t.enc.audioCQ.stop }
          calling := some { call := .frees, task := task } }
  | some { call := .frees, task } =>
      some
        (resume
          { t with
            enc := { t.enc with fmtCtx := false, headerWritten := false }
            calling := none
            ended := t.enc.session } task)
  | some { call := .opens, task } => some (resume (opens t lib) task)

def loopGoesOn (t : Threads) (number : Nat) : Option Threads :=
  match t.loops[number]? with
  | none => none
  | some thread =>
      (loopStep t.enc thread).map fun moved =>
        { t with
          enc := moved.enc
          loops := t.loops.set number { thread with place := moved.place }
          tasks := t.tasks ++ moved.spawned }

/-- A capture thread encodes what it captured whatever its calls returned. -/
def taskGoesOn (t : Threads) (number : Nat) (width height : Int) : Option Threads :=
  match t.tasks[number]? with
  | none => none
  | some task =>
      match task.place with
      | .captures =>
          if width = t.enc.eCtx.width ∧ height = t.enc.eCtx.height then
            some { t with tasks := t.tasks.set number { task with place := .encodes } }
          else
            some
              { t with
                enc := { t.enc with eCtx := { t.enc.eCtx with width := width, height := height } }
                tasks := t.tasks.set number { task with place := .stops } }
      | .stops => beginStop t (some number)
      | .initializes => beginInitialize t t.enc.eCtx (some number)
      | .encodes => some { t with tasks := t.tasks.set number { task with place := .ended } }
      | .ended => none

def step (t : Threads) : ThreadEvent → Option Threads
  | .initializes mEncCtx => beginInitialize t mEncCtx none
  | .stops => beginStop t none
  | .callGoesOn lib => callGoesOn t lib
  | .loopGoesOn number => loopGoesOn t number
  | .taskGoesOn number width height => taskGoesOn t number width height
  | .enqueuesVideo element =>
      some { t with enc := { t.enc with videoCQ := (t.enc.videoCQ.enqueue element).queue } }
  | .enqueuesAudio element =>
      some { t with enc := { t.enc with audioCQ := (t.enc.audioCQ.enqueue element).queue } }

theorem stop_alone {t : Threads} (free : t.calling = none) (lib : Libav) :
    ∃ stopped, beginStop t none = some stopped ∧
      (stopped.enc = (stop t.enc).2 ∨
        ∃ returned, ((callGoesOn stopped lib).bind (callGoesOn · lib)).bind (callGoesOn · lib) =
          some returned ∧ returned.enc = (stop t.enc).2) := by
  rcases stop_cases t.enc with ⟨stopped, result⟩ | ⟨running, result⟩
  · refine ⟨t, ?_, .inl ?_⟩
    · simp [beginStop, free, stopped, resume]
    · rw [result]
  · refine ⟨_, by simp [beginStop, free, running]; rfl, .inr ⟨_, rfl, ?_⟩⟩
    rw [result]
    rfl

theorem initialize_alone {t : Threads} (free : t.calling = none) (stopped : t.enc.stopped = true)
    (mEncCtx : EncoderContext) (lib : Libav) :
    ∃ opening returned, beginInitialize t mEncCtx none = some opening ∧
      callGoesOn opening lib = some returned ∧
        returned.enc = (initializeEncoder t.enc mEncCtx lib).2 := by
  refine ⟨_, _, by simp [beginInitialize, free, stopped]; rfl, rfl, ?_⟩
  rcases open_session_opens lib t.enc mEncCtx with ⟨failure, result, _, _, _⟩ |
    ⟨after, result, _, opened⟩
  · simp [resume, opens, initializeEncoder, stopped, result]
  · have context : after.eCtx = mEncCtx := opened.eCtx
    simp [resume, opens, initializeEncoder, stopped, result, context]

end Collabo.SessionThreads
