import Collabo.EncoderSession
import Collabo.Library.PartialRuns

/-!
# The two routes of a captured frame

In the silent branch of `encodeVideoLoop` a thread of its own captures a frame,
restarts the encoder if the screen has changed, and encodes the frame. In the
audible phase `encodeAudioLoop` captures frames into `videoCQ`, from which
`encodeVideoLoop` takes them. The loops test the silence and the stopped flag
before they make a call, and both may change in between, so each step may occur
in any state. The queue calls are single steps.
-/

namespace Collabo.VideoPath

open PartialRuns Collabo.EncoderQueue Collabo.EncoderSession

set_option autoImplicit false

/-- A call of `encodeVideoImpl`: the buffer it was given, if the element had
one, and the size in force when `sws_scale` reads it. -/
structure Encoded where
  frame : Option Captured
  width : Int
  height : Int
  stopsAtInit : Nat
  deriving DecidableEq, Repr

/-- `inFlight` holds the frames of capture threads that have not reached
`encodeVideoImpl`. The counters of captures, of stops that took effect, and of
such stops before the last `initialize`, are not in the source. -/
structure FramePath where
  encoder : Encoder
  inFlight : List Captured
  encoded : List Encoded
  captures : Nat
  stops : Nat
  stopsAtInit : Nat

def constructedPath (eCtx : EncoderContext) (audioBytes : Int) : FramePath where
  encoder := constructed eCtx audioBytes
  inFlight := []
  encoded := []
  captures := 0
  stops := 0
  stopsAtInit := 0

def stopPath (path : FramePath) : FramePath :=
  { path with
    encoder := (stop path.encoder).2
    stops := if path.encoder.stopped then path.stops else path.stops + 1 }

def initializePath (path : FramePath) (mEncCtx : EncoderContext) (lib : Libav) : FramePath :=
  { path with
    encoder := (initializeEncoder path.encoder mEncCtx lib).2
    stopsAtInit := if path.encoder.stopped then path.stops else path.stopsAtInit }

def requested (path : FramePath) (width height : Int) : Captured where
  serial := path.captures
  width := width
  height := height
  stops := path.stops
  restarts := false

def setSize (path : FramePath) (width height : Int) : FramePath :=
  { path with
    encoder := { path.encoder with
      eCtx := { path.encoder.eCtx with width := width, height := height } } }

def sizeChanged (path : FramePath) (width height : Int) : Prop :=
  width ≠ path.encoder.eCtx.width ∨ height ≠ path.encoder.eCtx.height

instance (path : FramePath) (width height : Int) : Decidable (sizeChanged path width height) :=
  inferInstanceAs (Decidable (_ ∨ _))

def restart (path : FramePath) (width height : Int) (lib : Libav) : FramePath :=
  let resized := stopPath (setSize path width height)
  initializePath resized resized.encoder.eCtx lib

def silentCapture (path : FramePath) (width height : Int) (lib : Libav) : FramePath :=
  let frame := requested path width height
  let taken := { path with captures := path.captures + 1 }
  if sizeChanged path width height then
    let restarted := restart taken width height lib
    { restarted with
      inFlight := restarted.inFlight ++ [{ frame with restarts := !path.encoder.stopped }] }
  else { taken with inFlight := taken.inFlight ++ [frame] }

def encodeVideoImpl (path : FramePath) (frame : Option Captured) : FramePath :=
  { path with
    encoded := path.encoded ++
      [{ frame := frame
         width := path.encoder.eCtx.width
         height := path.encoder.eCtx.height
         stopsAtInit := path.stopsAtInit }] }

def frameElement (frame : Captured) : EncoderElement Captured where
  data := frame
  size := frame.width * frame.height * 3
  fake := false

/-- The capture of `encodeAudioLoop`. The result of the enqueue is not looked at. -/
def audioCapture (path : FramePath) (width height : Int) : FramePath :=
  let frame := requested path width height
  { path with
    captures := path.captures + 1
    encoder := { path.encoder with
      videoCQ := (path.encoder.videoCQ.enqueue (frameElement frame)).queue } }

def dequeueVideo (path : FramePath) : Option FramePath :=
  match path.encoder.videoCQ.dequeue with
  | none => none
  | some done =>
      let taken := { path with encoder := { path.encoder with videoCQ := done.queue } }
      if done.msg = .stop then some taken
      else some (encodeVideoImpl taken (done.element.map EncoderElement.data))

inductive PathEvent where
  | silences (silent : Bool)
  | stops
  | initializes (mEncCtx : EncoderContext) (lib : Libav)
  | silentCapture (width height : Int) (lib : Libav)
  | silentEncode (thread : Nat)
  | audioCapture (width height : Int)
  | dequeue

def step (path : FramePath) : PathEvent → Option FramePath
  | .silences silent => some { path with encoder := setSilent path.encoder silent }
  | .stops => some (stopPath path)
  | .initializes mEncCtx lib => some (initializePath path mEncCtx lib)
  | .silentCapture width height lib => some (silentCapture path width height lib)
  | .silentEncode thread =>
      match path.inFlight[thread]? with
      | none => none
      | some frame =>
          some
            (encodeVideoImpl { path with inFlight := path.inFlight.eraseIdx thread } (some frame))
  | .audioCapture width height => some (audioCapture path width height)
  | .dequeue => dequeueVideo path

def waitingFrames (path : FramePath) : List Captured :=
  path.inFlight ++ (path.encoder.videoCQ.heldSlots.filterMap id).map EncoderElement.data

/-- An enqueue into a queue that accepts finds a slot behind `rear`. -/
def FindsSlot (path : FramePath) : Prop :=
  path.encoder.videoCQ.isStop = false →
    path.encoder.videoCQ.rear < path.encoder.videoCQ.maxsize

/-- The frames that wait in the video queue, which makes its reader wait. -/
structure Waiting (path : FramePath) (held : List (EncoderElement Captured)) : Prop where
  holds : Holds path.encoder.videoCQ held
  waits : path.encoder.videoCQ.isWait = true

theorem constructed_waiting (eCtx : EncoderContext) (audioBytes : Int) :
    Waiting (constructedPath eCtx audioBytes) [] :=
  ⟨holds_of_size true 40, rfl⟩

theorem constructed_waiting_frames (eCtx : EncoderContext) (audioBytes : Int) :
    waitingFrames (constructedPath eCtx audioBytes) = [] := by
  rfl

section Queue

variable {path : FramePath} {held : List (EncoderElement Captured)}

theorem waiting_frames_eq (waiting : Waiting path held) :
    waitingFrames path = path.inFlight ++ held.map EncoderElement.data := by
  rw [waitingFrames, waiting.holds.contents, List.filterMap_map]
  simp

theorem waiting_frames_kept {following : FramePath} (waiting : Waiting path held)
    (after : Waiting following held) (inFlight : following.inFlight = path.inFlight) :
    waitingFrames following = waitingFrames path := by
  rw [waiting_frames_eq after, waiting_frames_eq waiting, inFlight]

theorem silences_waiting (waiting : Waiting path held) (silent : Bool) :
    Waiting { path with encoder := setSilent path.encoder silent } held := by
  constructor
  · exact set_silent_video_queue waiting.holds silent
  · cases silent with
    | true => exact waiting.waits
    | false => exact waiting.waits

theorem stop_path_waiting (waiting : Waiting path held) : Waiting (stopPath path) held := by
  constructor
  · exact stop_video_queue waiting.holds
  · unfold stopPath
    rcases stop_cases path.encoder with ⟨_, result⟩ | ⟨_, result⟩
    · rw [result]
      exact waiting.waits
    · rw [result]
      exact waiting.waits

theorem initialize_path_waiting (waiting : Waiting path held) (mEncCtx : EncoderContext)
    (lib : Libav) : Waiting (initializePath path mEncCtx lib) held := by
  have kept : (initializePath path mEncCtx lib).encoder.videoCQ = path.encoder.videoCQ :=
    initialize_video_queue path.encoder mEncCtx lib
  constructor
  · rw [kept]
    exact waiting.holds
  · rw [kept]
    exact waiting.waits

theorem initialize_path_context (stopped : path.encoder.stopped = true)
    (mEncCtx : EncoderContext) (lib : Libav) :
    (initializePath path mEncCtx lib).encoder.eCtx = mEncCtx :=
  initialize_context stopped mEncCtx lib

theorem initialize_path_running (running : path.encoder.stopped = false)
    (mEncCtx : EncoderContext) (lib : Libav) : initializePath path mEncCtx lib = path := by
  unfold initializePath
  rw [initialize_running running, if_neg (by simp [running])]

theorem resized_stopped (path : FramePath) (width height : Int) :
    (stopPath (setSize path width height)).encoder.stopped = true :=
  stop_stopped _

theorem restart_waiting (waiting : Waiting path held) (width height : Int) (lib : Libav) :
    Waiting (restart path width height lib) held := by
  have resized : Waiting (setSize path width height) held := ⟨waiting.holds, waiting.waits⟩
  exact initialize_path_waiting (stop_path_waiting resized) _ lib

theorem restart_size (path : FramePath) (width height : Int) (lib : Libav) :
    (restart path width height lib).encoder.eCtx.width = width ∧
      (restart path width height lib).encoder.eCtx.height = height := by
  rw [restart, initialize_path_context (resized_stopped path width height)]
  simp only [stopPath, stop_context, setSize, and_self]

theorem silent_capture_waiting (waiting : Waiting path held) (width height : Int) (lib : Libav) :
    Waiting (silentCapture path width height lib) held := by
  unfold silentCapture
  have taken : Waiting { path with captures := path.captures + 1 } held :=
    ⟨waiting.holds, waiting.waits⟩
  by_cases changed : sizeChanged path width height
  · rw [if_pos changed]
    have restarted := restart_waiting taken width height lib
    exact ⟨restarted.holds, restarted.waits⟩
  · rw [if_neg changed]
    exact ⟨waiting.holds, waiting.waits⟩

theorem silent_capture_size (path : FramePath) (width height : Int) (lib : Libav) :
    (silentCapture path width height lib).encoder.eCtx.width = width ∧
      (silentCapture path width height lib).encoder.eCtx.height = height := by
  unfold silentCapture
  by_cases changed : sizeChanged path width height
  · rw [if_pos changed]
    exact restart_size _ width height lib
  · rw [if_neg changed]
    rw [sizeChanged, not_or, not_not, not_not] at changed
    exact ⟨changed.1.symm, changed.2.symm⟩

theorem silent_capture_frame (path : FramePath) (width height : Int) (lib : Libav) :
    ∃ frame, (silentCapture path width height lib).inFlight = path.inFlight ++ [frame] ∧
      (silentCapture path width height lib).encoded = path.encoded ∧
      (silentCapture path width height lib).captures = path.captures + 1 ∧
      frame.serial = path.captures ∧ frame.width = width ∧ frame.height = height ∧
      frame.stops = path.stops ∧
      (¬sizeChanged path width height ∧ frame.restarts = false ∧
          (silentCapture path width height lib).stops = path.stops ∧
          (silentCapture path width height lib).stopsAtInit = path.stopsAtInit ∨
        sizeChanged path width height ∧ frame.restarts = !path.encoder.stopped ∧
          (silentCapture path width height lib).stops = (stopPath path).stops ∧
          (silentCapture path width height lib).stopsAtInit = (stopPath path).stops) := by
  by_cases changed : sizeChanged path width height
  · refine ⟨{ requested path width height with restarts := !path.encoder.stopped }, ?_⟩
    have stopped := resized_stopped { path with captures := path.captures + 1 } width height
    rw [silentCapture, if_pos changed]
    refine ⟨rfl, rfl, rfl, rfl, rfl, rfl, rfl, .inr ⟨changed, rfl, rfl, ?_⟩⟩
    simp only [restart, initializePath, stopped, if_true]
    rfl
  · refine ⟨requested path width height, ?_⟩
    rw [silentCapture, if_neg changed]
    exact ⟨rfl, rfl, rfl, rfl, rfl, rfl, rfl, .inl ⟨changed, rfl, rfl, rfl⟩⟩

/-- A capture of the audible phase appends its frame to a queue that accepts and
is dropped by one that is stopped. -/
theorem audio_capture_waiting (waiting : Waiting path held) (room : FindsSlot path)
    (width height : Int) :
    (path.encoder.videoCQ.isStop = true ∧ Waiting (audioCapture path width height) held) ∨
    (path.encoder.videoCQ.isStop = false ∧
      Waiting (audioCapture path width height)
        (held ++ [frameElement (requested path width height)])) := by
  cases stopped : path.encoder.videoCQ.isStop with
  | true =>
      apply Or.inl
      have dropped : (audioCapture path width height).encoder.videoCQ = path.encoder.videoCQ := by
        simp [audioCapture, EncoderCQ.enqueue, stopped]
      refine ⟨rfl, ?_, ?_⟩
      · rw [dropped]
        exact waiting.holds
      · rw [dropped]
        exact waiting.waits
  | false =>
      apply Or.inr
      obtain ⟨result, appended⟩ := enqueue_appends waiting.holds stopped (room stopped)
        (frameElement (requested path width height))
      refine ⟨rfl, appended, ?_⟩
      simp only [audioCapture, result]
      exact waiting.waits

/-- A dequeue that ends either finds the queue stopped or encodes the oldest
frame the queue holds. -/
theorem dequeue_video_cases (waiting : Waiting path held) {following : FramePath}
    (stepped : dequeueVideo path = some following) :
    following = path ∨
    ∃ oldest rest queue, held = oldest :: rest ∧
      Waiting { path with encoder := { path.encoder with videoCQ := queue } } rest ∧
      following = encodeVideoImpl
        { path with encoder := { path.encoder with videoCQ := queue } } (some oldest.data) := by
  cases stopped : path.encoder.videoCQ.isStop with
  | true =>
      apply Or.inl
      have result : path.encoder.videoCQ.dequeue =
          some
            { msg := .stop, element := none, accessed := [], queue := path.encoder.videoCQ } := by
        simp [EncoderCQ.dequeue, stopped, waiting.waits]
      simp only [dequeueVideo, result, if_true] at stepped
      exact (Option.some.inj stepped).symm
  | false =>
      apply Or.inr
      cases held with
      | nil =>
          have empty : path.encoder.videoCQ.front = path.encoder.videoCQ.rear := by
            have counted := waiting.holds.length_eq
            have ordered := waiting.holds.ordered
            simp only [List.length_nil] at counted
            omega
          have result : path.encoder.videoCQ.dequeue = none := by
            simp [EncoderCQ.dequeue, stopped, waiting.waits, empty]
          simp only [dequeueVideo, result] at stepped
          cases stepped
      | cons oldest rest =>
          rcases dequeue_delivers waiting.holds stopped with ⟨result, remaining⟩
          simp only [dequeueVideo, result, reduceCtorEq, if_false, Option.map_some] at stepped
          exact ⟨oldest, rest, _, rfl, ⟨remaining, waiting.waits⟩,
            (Option.some.inj stepped).symm⟩

end Queue

end Collabo.VideoPath
