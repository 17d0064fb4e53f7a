import Collabo.EncoderSession
import Collabo.Library.PartialRuns

/-!
# Whether the video queue accepts while the encoder is audible

`setSilent` and `stop` change the flag of `videoCQ`; the silence of the context
is changed by `setSilent` and by `initialize`, which leaves the queue alone. The
queue accepts throughout a run exactly when no session with video and an audible
context is opened over a stopped queue.
-/

namespace Collabo.VideoQueueAccepting

open PartialRuns Collabo.EncoderQueue Collabo.EncoderSession

set_option autoImplicit false

inductive EncoderCall where
  | initializes (mEncCtx : EncoderContext) (lib : Libav)
  | stops
  | silences (silent : Bool)

def perform (enc : Encoder) : EncoderCall → Encoder
  | .initializes mEncCtx lib => (initializeEncoder enc mEncCtx lib).2
  | .stops => (stop enc).2
  | .silences silent => setSilent enc silent

def step (enc : Encoder) (call : EncoderCall) : Option Encoder := some (perform enc call)

/-- An encoder that runs with a video stream and is not silent has a video queue
that accepts. -/
def Accepting (enc : Encoder) : Prop :=
  enc.stopped = false → enc.headerWritten = true → enc.videoStream = true →
    enc.eCtx.isSilent = false → enc.videoCQ.isStop = false

/-- A session with video and an audible context is opened only over a video
queue that is not stopped. -/
def OpensOverRunningQueue (enc : Encoder) : EncoderCall → Prop
  | .initializes mEncCtx lib =>
      enc.stopped = true → lib.opens mEncCtx = true → lib.hasVideo mEncCtx = true →
        mEncCtx.isSilent = false → enc.videoCQ.isStop = false
  | .stops => True
  | .silences _ => True

theorem constructed_accepting (eCtx : EncoderContext) (audioBytes : Int) :
    Accepting (constructed eCtx audioBytes) := by
  intro running
  cases running

theorem initializes_accepting_iff {enc : Encoder} (accepting : Accepting enc)
    (mEncCtx : EncoderContext) (lib : Libav) :
    Accepting (initializeEncoder enc mEncCtx lib).2 ↔
      OpensOverRunningQueue enc (.initializes mEncCtx lib) := by
  rcases initialize_encoder_cases enc mEncCtx lib with ⟨running, result⟩ |
    ⟨stopped, refused, _, kept⟩ | ⟨stopped, positive, _, opened⟩
  · rw [result]
    constructor
    · intro _ stopped
      rw [running] at stopped
      cases stopped
    · intro _
      exact accepting
  · constructor
    · intro _ _ positive
      rw [refused] at positive
      cases positive
    · intro _ _ written
      rw [kept.headerWritten] at written
      cases written
  · unfold Accepting
    rw [opened.stopped, opened.headerWritten, opened.videoStream, opened.eCtx, opened.videoCQ]
    simp only [OpensOverRunningQueue, stopped, positive, true_implies]

theorem stop_accepting {enc : Encoder} (accepting : Accepting enc) : Accepting (stop enc).2 := by
  rcases stop_cases enc with ⟨_, result⟩ | ⟨_, result⟩
  · rw [result]
    exact accepting
  · rw [result]
    intro running
    cases running

theorem set_silent_accepting (enc : Encoder) (silent : Bool) :
    Accepting (setSilent enc silent) := by
  intro _ _ _ audible
  cases silent with
  | true => cases audible
  | false => rfl

theorem perform_accepting_iff {enc : Encoder} (accepting : Accepting enc) (call : EncoderCall) :
    Accepting (perform enc call) ↔ OpensOverRunningQueue enc call := by
  cases call with
  | initializes mEncCtx lib => exact initializes_accepting_iff accepting mEncCtx lib
  | stops => exact iff_of_true (stop_accepting accepting) trivial
  | silences silent => exact iff_of_true (set_silent_accepting enc silent) trivial

/-- For every sequence of calls on a newly constructed encoder, the video queue
accepts after each of them exactly when each meets the condition. -/
theorem video_queue_accepting_iff (eCtx : EncoderContext) (audioBytes : Int)
    (calls : List EncoderCall) :
    Along step (fun enc call => Accepting (perform enc call)) (constructed eCtx audioBytes) calls ↔
      Along step OpensOverRunningQueue (constructed eCtx audioBytes) calls := by
  apply along_iff_of_invariant (fun _ _ => True) Accepting
  · intro enc call accepting _
    exact perform_accepting_iff accepting call
  · intro enc call following accepting _ claim stepped
    rw [← Option.some.inj stepped]
    exact claim
  · exact constructed_accepting eCtx audioBytes
  · exact along_of_forall (fun _ _ => trivial) calls

def audibleContext : EncoderContext where
  videoCodecName := "libx264"
  audioCodecName := "libfdk_aac"
  width := 1920
  height := 1080
  framerate := 25
  outSmpFmt := .s16
  samplerate := 48000
  channels := 1
  isSilent := false

def restarted : List EncoderCall :=
  [.initializes audibleContext (Libav.succeeds [] []), .stops,
    .initializes audibleContext (Libav.succeeds [] [])]

def restartedEncoder : Encoder := restarted.foldl perform (constructed audibleContext 0)

/-- Stopping and opening again with an audible context leaves the queue stopped. -/
theorem restarted_session_not_accepting :
    (restartedEncoder.stopped = false ∧ restartedEncoder.headerWritten = true ∧
      restartedEncoder.videoStream = true ∧ restartedEncoder.eCtx.isSilent = false ∧
      restartedEncoder.videoCQ.isStop = true) ∧
      ¬Along step (fun enc call => Accepting (perform enc call)) (constructed audibleContext 0)
        restarted := by
  refine ⟨by decide, ?_⟩
  intro along
  have last := ((along.2 _ rfl).2 _ rfl).1
  exact absurd (last rfl rfl rfl rfl) (by decide)

end Collabo.VideoQueueAccepting
