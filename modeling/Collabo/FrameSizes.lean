import Collabo.VideoPath
import Collabo.VideoQueueAccepting

/-!
# The size of the frames that are scaled

`sws_scale` reads as many bytes from a frame as the context has pixels, three
for each, and nothing compares that with the size of the frame. The silent
branch restarts the encoder for a frame of another size; the capture of the
audio loop does not look at the context, and frames may wait in `videoCQ` or
in a capture thread while the context changes.
-/

namespace Collabo.FrameSizes

open PartialRuns Collabo.EncoderQueue Collabo.EncoderSession Collabo.VideoPath

set_option autoImplicit false

def frameBytes (width height : Int) : Int := 3 * width * height

def capturedBytes (frame : Captured) : Int := frameBytes frame.width frame.height

def contextBytes (eCtx : EncoderContext) : Int := frameBytes eCtx.width eCtx.height

/-- The element had a buffer, of as many bytes as `sws_scale` reads. -/
def Exact (entry : Encoded) : Prop :=
  ∃ frame, entry.frame = some frame ∧ capturedBytes frame = frameBytes entry.width entry.height

def Fits (path : FramePath) (bytes : Int) : Prop :=
  ∀ frame ∈ waitingFrames path, capturedBytes frame = bytes

/-- The context takes another size only while no frame of a different size is on
its way, and a frame that enters the video queue has the size of the context
and finds a slot. -/
def KeepsSizes (path : FramePath) : PathEvent → Prop
  | .initializes mEncCtx _ => path.encoder.stopped = true → Fits path (contextBytes mEncCtx)
  | .silentCapture width height _ => Fits path (frameBytes width height)
  | .audioCapture width height =>
      path.encoder.videoCQ.isStop = false →
        frameBytes width height = contextBytes path.encoder.eCtx ∧
          path.encoder.videoCQ.rear < path.encoder.videoCQ.maxsize
  | .silences _ => True
  | .stops => True
  | .silentEncode _ => True
  | .dequeue => True

structure Sized (path : FramePath) (held : List (EncoderElement Captured)) : Prop where
  waiting : Waiting path held
  fits : Fits path (contextBytes path.encoder.eCtx)
  encoded : ∀ entry ∈ path.encoded, Exact entry

theorem fits_of_none {path : FramePath} (none : waitingFrames path = []) (bytes : Int) :
    Fits path bytes := by
  intro frame member
  rw [none] at member
  cases member

section Steps

variable {path : FramePath} {held : List (EncoderElement Captured)}

/-- A step that leaves the frames where they are gives the context a size that
they have. -/
theorem sized_of_context {following : FramePath} (sized : Sized path held)
    (waiting : Waiting following held) (inFlight : following.inFlight = path.inFlight)
    (encoded : following.encoded = path.encoded)
    (fits : Fits path (contextBytes following.encoder.eCtx)) : Sized following held := by
  constructor
  · exact waiting
  · unfold Fits
    rw [waiting_frames_kept sized.waiting waiting inFlight]
    exact fits
  · rw [encoded]
    exact sized.encoded

theorem silences_sized (sized : Sized path held) (silent : Bool) :
    Sized { path with encoder := setSilent path.encoder silent } held := by
  apply sized_of_context sized (silences_waiting sized.waiting silent) rfl rfl
  cases silent with
  | true => exact sized.fits
  | false => exact sized.fits

theorem stop_path_sized (sized : Sized path held) : Sized (stopPath path) held := by
  apply sized_of_context sized (stop_path_waiting sized.waiting) rfl rfl
  simp only [stopPath, stop_context]
  exact sized.fits

theorem initialize_path_sized (sized : Sized path held) {mEncCtx : EncoderContext} {lib : Libav}
    (meets : KeepsSizes path (.initializes mEncCtx lib)) :
    Sized (initializePath path mEncCtx lib) held := by
  cases stopped : path.encoder.stopped with
  | false =>
      rw [initialize_path_running stopped]
      exact sized
  | true =>
      apply sized_of_context sized (initialize_path_waiting sized.waiting mEncCtx lib) rfl rfl
      rw [initialize_path_context stopped]
      exact meets stopped

theorem silent_capture_sized (sized : Sized path held) {width height : Int} {lib : Libav}
    (meets : KeepsSizes path (.silentCapture width height lib)) :
    Sized (silentCapture path width height lib) held := by
  obtain ⟨frame, inFlight, encoded, -, -, frameWidth, frameHeight, -⟩ :=
    silent_capture_frame path width height lib
  rcases silent_capture_size path width height lib with ⟨contextWidth, contextHeight⟩
  have waiting := silent_capture_waiting sized.waiting width height lib
  constructor
  · exact waiting
  · intro other member
    rw [contextBytes, contextWidth, contextHeight]
    rw [waiting_frames_eq waiting, inFlight, List.mem_append, List.mem_append] at member
    rcases member with (earlier | added) | queued
    · apply meets other
      exact List.mem_append_left _ earlier
    · rw [List.mem_singleton.mp added, capturedBytes, frameWidth, frameHeight]
    · apply meets other
      rw [waiting_frames_eq sized.waiting]
      exact List.mem_append_right _ queued
  · rw [encoded]
    exact sized.encoded

theorem audio_capture_sized (sized : Sized path held) {width height : Int}
    (meets : KeepsSizes path (.audioCapture width height)) :
    ∃ queued, Sized (audioCapture path width height) queued := by
  have room : FindsSlot path := fun accepting => (meets accepting).2
  rcases audio_capture_waiting sized.waiting room width height with ⟨_, waiting⟩ |
    ⟨accepting, waiting⟩
  · exact ⟨held, sized_of_context sized waiting rfl rfl sized.fits⟩
  · refine ⟨_, waiting, ?_, sized.encoded⟩
    intro frame member
    rw [waiting_frames_eq waiting, List.map_append, ← List.append_assoc] at member
    rcases List.mem_append.mp member with earlier | added
    · apply sized.fits frame
      rw [waiting_frames_eq sized.waiting]
      exact earlier
    · rw [List.mem_singleton.mp added]
      exact (meets accepting).1

theorem encode_video_sized (sized : Sized path held) {frame : Captured}
    (same : capturedBytes frame = contextBytes path.encoder.eCtx) :
    Sized (encodeVideoImpl path (some frame)) held := by
  refine ⟨⟨sized.waiting.holds, sized.waiting.waits⟩, sized.fits, ?_⟩
  intro entry member
  rcases List.mem_append.mp member with earlier | added
  · exact sized.encoded entry earlier
  · rw [List.mem_singleton.mp added]
    exact ⟨frame, rfl, same⟩

theorem silent_encode_sized (sized : Sized path held) {thread : Nat} {following : FramePath}
    (stepped : step path (.silentEncode thread) = some following) : Sized following held := by
  cases taken : path.inFlight[thread]? with
  | none =>
      simp only [step, taken] at stepped
      cases stepped
  | some frame =>
      simp only [step, taken] at stepped
      rw [← Option.some.inj stepped]
      have member : frame ∈ path.inFlight := List.mem_of_getElem? taken
      have rest : Sized { path with inFlight := path.inFlight.eraseIdx thread } held := by
        refine ⟨⟨sized.waiting.holds, sized.waiting.waits⟩, ?_, sized.encoded⟩
        intro other otherMember
        apply sized.fits other
        rcases List.mem_append.mp otherMember with inFlight | queued
        · exact List.mem_append_left _ (List.mem_of_mem_eraseIdx inFlight)
        · exact List.mem_append_right _ queued
      exact encode_video_sized rest (sized.fits frame (List.mem_append_left _ member))

theorem dequeue_video_sized (sized : Sized path held) {following : FramePath}
    (stepped : dequeueVideo path = some following) : ∃ left, Sized following left := by
  rcases dequeue_video_cases sized.waiting stepped with same |
    ⟨oldest, rest, queue, shape, waiting, result⟩
  · rw [same]
    exact ⟨held, sized⟩
  · have before := waiting_frames_eq sized.waiting
    rw [shape, List.map_cons] at before
    have left : Sized { path with encoder := { path.encoder with videoCQ := queue } } rest := by
      refine ⟨waiting, ?_, sized.encoded⟩
      intro frame member
      rw [waiting_frames_eq waiting, List.mem_append] at member
      apply sized.fits frame
      rw [before, List.mem_append, List.mem_cons]
      rcases member with inFlight | queued
      · exact .inl inFlight
      · exact .inr (.inr queued)
    have oldestFits : capturedBytes oldest.data = contextBytes path.encoder.eCtx := by
      apply sized.fits
      rw [before]
      exact List.mem_append_right _ List.mem_cons_self
    rw [result]
    exact ⟨rest, encode_video_sized left oldestFits⟩

theorem step_sized (sized : Sized path held) {event : PathEvent} {following : FramePath}
    (meets : KeepsSizes path event) (stepped : step path event = some following) :
    ∃ left, Sized following left := by
  cases event with
  | silences silent =>
      rw [← Option.some.inj stepped]
      exact ⟨held, silences_sized sized silent⟩
  | stops =>
      rw [← Option.some.inj stepped]
      exact ⟨held, stop_path_sized sized⟩
  | initializes mEncCtx lib =>
      rw [← Option.some.inj stepped]
      exact ⟨held, initialize_path_sized sized meets⟩
  | silentCapture width height lib =>
      rw [← Option.some.inj stepped]
      exact ⟨held, silent_capture_sized sized meets⟩
  | silentEncode thread => exact ⟨held, silent_encode_sized sized stepped⟩
  | audioCapture width height =>
      rw [← Option.some.inj stepped]
      exact audio_capture_sized sized meets
  | dequeue => exact dequeue_video_sized sized stepped

end Steps

/-- In every run whose steps meet the condition, each buffer that is scaled has
exactly the bytes that are read from it. -/
theorem scaled_frames_exact (eCtx : EncoderContext) (audioBytes : Int) (path : FramePath)
    (reached : Reaches step KeepsSizes (constructedPath eCtx audioBytes) path) :
    ∀ entry ∈ path.encoded, Exact entry := by
  have invariant : ∃ held, Sized path held := by
    apply invariant_of_step (fun path => ∃ held, Sized path held) _ _ reached
    · refine ⟨[], constructed_waiting eCtx audioBytes, ?_, by simp [constructedPath]⟩
      exact fits_of_none (constructed_waiting_frames eCtx audioBytes) _
    · rintro state event following ⟨held, sized⟩ meets stepped
      exact step_sized sized meets stepped
  rcases invariant with ⟨held, sized⟩
  exact sized.encoded

open VideoQueueAccepting (audibleContext)

def audiblePath : FramePath :=
  initializePath (constructedPath audibleContext 0) audibleContext (Libav.succeeds [] [])

theorem audible_path_reached {allowed : FramePath → PathEvent → Prop}
    (permitted : allowed (constructedPath audibleContext 0)
      (.initializes audibleContext (Libav.succeeds [] []))) :
    Reaches step allowed (constructedPath audibleContext 0) audiblePath :=
  .next .start _ permitted rfl

def sameSizePath : FramePath :=
  (dequeueVideo (audioCapture audiblePath 1920 1080)).getD audiblePath

theorem scaled_frames_exact_same_size :
    sameSizePath.encoded.length = 1 ∧ ∀ entry ∈ sameSizePath.encoded, Exact entry := by
  have opened : Reaches step KeepsSizes (constructedPath audibleContext 0) audiblePath := by
    apply audible_path_reached
    intro _
    exact fits_of_none (constructed_waiting_frames audibleContext 0) _
  have captured := opened.next (.audioCapture 1920 1080) (fun _ => ⟨rfl, by decide⟩) rfl
  refine ⟨rfl, ?_⟩
  apply scaled_frames_exact audibleContext 0
  exact captured.next .dequeue trivial rfl

def shrunkPath : FramePath :=
  (dequeueVideo (audioCapture audiblePath 800 600)).getD audiblePath

/-- 6220800 bytes are read from a buffer of 1440000. -/
theorem shrunk_screen_frame_not_exact :
    Reaches step (fun _ _ => True) (constructedPath audibleContext 0) shrunkPath ∧
      shrunkPath.encoded =
        [{ frame := some { serial := 0, width := 800, height := 600, stops := 0, restarts := false }
           width := 1920
           height := 1080
           stopsAtInit := 0 }] ∧
      ¬∀ entry ∈ shrunkPath.encoded, Exact entry := by
  have shape : shrunkPath.encoded =
      [{ frame := some { serial := 0, width := 800, height := 600, stops := 0, restarts := false }
         width := 1920
         height := 1080
         stopsAtInit := 0 }] := by rfl
  refine ⟨?_, shape, ?_⟩
  · have opened : Reaches step (fun _ _ => True) (constructedPath audibleContext 0) audiblePath :=
      audible_path_reached trivial
    have captured := opened.next (.audioCapture 800 600) trivial rfl
    exact captured.next .dequeue trivial rfl
  · intro exact_all
    rw [shape] at exact_all
    rcases exact_all _ List.mem_cons_self with ⟨frame, same, bytes⟩
    rw [← Option.some.inj same] at bytes
    exact absurd bytes (by decide)

end Collabo.FrameSizes
