import Collabo.VideoPath
import Collabo.VideoQueueAccepting
import Mathlib.Data.Option.Basic

/-!
# The order in which frames are encoded

A frame goes from its capture thread to the encoder directly or through
`videoCQ`, which nothing ever clears. Frames left on one route while later
ones take the other, and frames left over at the end of a session, are encoded
late unless the switch finds the old route empty.
-/

namespace Collabo.FrameOrder

open PartialRuns Collabo.EncoderQueue Collabo.EncoderSession Collabo.VideoPath

set_option autoImplicit false

/-- The stops before the session that a frame is for. The frame for which its
capture thread restarts the encoder is the first one of the new session. -/
def sessionOf (frame : Captured) : Nat :=
  if frame.restarts then frame.stops + 1 else frame.stops

/-- All frames on their way to the encoder are for a session after that many stops. -/
def Current (path : FramePath) (stops : Nat) : Prop :=
  ∀ frame ∈ waitingFrames path, stops ≤ sessionOf frame

/-- The encoder was given a frame each time, in the order of the captures. -/
def InCaptureOrder (path : FramePath) : Prop :=
  ∃ frames : List Captured, path.encoded.map Encoded.frame = frames.map some ∧
    frames.Pairwise fun earlier later => earlier.serial < later.serial

/-- No frame was encoded after an `initialize` that followed a stop later than
its capture. -/
def OfOpenSession (path : FramePath) : Prop :=
  ∀ entry ∈ path.encoded, ∀ frame, entry.frame = some frame →
    entry.stopsAtInit ≤ sessionOf frame

/-- A session opens only while no frame of an earlier one is on its way. The
silent branch captures only while the video queue is empty, and its threads
finish in order. A frame enters the video queue only while no capture thread of
the silent branch is under way, and finds a slot. -/
def KeepsOrder (path : FramePath) : PathEvent → Prop
  | .initializes _ _ => path.encoder.stopped = true → Current path path.stops
  | .silentCapture width height _ =>
      path.encoder.videoCQ.front = path.encoder.videoCQ.rear ∧
        (sizeChanged path width height → Current path (stopPath path).stops)
  | .silentEncode thread => thread = 0
  | .audioCapture _ _ =>
      path.encoder.videoCQ.isStop = false →
        path.inFlight = [] ∧ path.encoder.videoCQ.rear < path.encoder.videoCQ.maxsize
  | .silences _ => True
  | .stops => True
  | .dequeue => True

/-- The frames already encoded and those on their way, on one route, form one
line in the order of the captures. -/
structure Lined (path : FramePath) (held : List (EncoderElement Captured))
    (frames : List Captured) : Prop where
  waiting : Waiting path held
  oneRoute : path.inFlight = [] ∨ held = []
  given : path.encoded.map Encoded.frame = frames.map some
  line : (frames ++ waitingFrames path).Pairwise fun earlier later => earlier.serial < later.serial
  counted : ∀ frame ∈ frames ++ waitingFrames path, frame.serial < path.captures
  opened : path.stopsAtInit ≤ path.stops
  current : Current path path.stopsAtInit
  encoded : OfOpenSession path

section Steps

variable {path : FramePath} {held : List (EncoderElement Captured)} {frames : List Captured}

theorem lined_of_counters {following : FramePath} (lined : Lined path held frames)
    (waiting : Waiting following held) (inFlight : following.inFlight = path.inFlight)
    (encoded : following.encoded = path.encoded) (captures : following.captures = path.captures)
    (opened : following.stopsAtInit ≤ following.stops)
    (current : Current path following.stopsAtInit) : Lined following held frames := by
  have same := waiting_frames_kept lined.waiting waiting inFlight
  constructor
  · exact waiting
  · rw [inFlight]
    exact lined.oneRoute
  · rw [encoded]
    exact lined.given
  · rw [same]
    exact lined.line
  · rw [same, captures]
    exact lined.counted
  · exact opened
  · unfold Current
    rw [same]
    exact current
  · unfold OfOpenSession
    rw [encoded]
    exact lined.encoded

theorem silences_lined (lined : Lined path held frames) (silent : Bool) :
    Lined { path with encoder := setSilent path.encoder silent } held frames :=
  lined_of_counters lined (silences_waiting lined.waiting silent) rfl rfl rfl lined.opened
    lined.current

theorem stop_path_stops (path : FramePath) : path.stops ≤ (stopPath path).stops := by
  unfold stopPath
  split_ifs
  · exact Nat.le_refl _
  · exact Nat.le_succ _

theorem stop_path_lined (lined : Lined path held frames) : Lined (stopPath path) held frames := by
  apply lined_of_counters lined (stop_path_waiting lined.waiting) rfl rfl rfl
  · exact Nat.le_trans lined.opened (stop_path_stops path)
  · exact lined.current

theorem initialize_path_lined (lined : Lined path held frames) {mEncCtx : EncoderContext}
    {lib : Libav} (meets : KeepsOrder path (.initializes mEncCtx lib)) :
    Lined (initializePath path mEncCtx lib) held frames := by
  cases stopped : path.encoder.stopped with
  | false =>
      rw [initialize_path_running stopped]
      exact lined
  | true =>
      have opens : (initializePath path mEncCtx lib).stopsAtInit = path.stops := by
        simp only [initializePath, stopped, if_true]
      apply lined_of_counters lined (initialize_path_waiting lined.waiting mEncCtx lib) rfl rfl rfl
      · rw [opens]
        exact Nat.le_refl _
      · rw [opens]
        exact meets stopped

theorem lined_append {following : FramePath} {queued : List (EncoderElement Captured)}
    {frame : Captured} (lined : Lined path held frames) (waiting : Waiting following queued)
    (oneRoute : following.inFlight = [] ∨ queued = [])
    (added : waitingFrames following = waitingFrames path ++ [frame])
    (encoded : following.encoded = path.encoded)
    (captures : following.captures = path.captures + 1) (serial : frame.serial = path.captures)
    (opened : following.stopsAtInit ≤ following.stops)
    (current : Current path following.stopsAtInit)
    (frameCurrent : following.stopsAtInit ≤ sessionOf frame) : Lined following queued frames := by
  constructor
  · exact waiting
  · exact oneRoute
  · rw [encoded]
    exact lined.given
  · rw [added, ← List.append_assoc, List.pairwise_append]
    refine ⟨lined.line, List.pairwise_singleton _ _, ?_⟩
    intro earlier member last lastMember
    rw [List.mem_singleton.mp lastMember, serial]
    exact lined.counted earlier member
  · rw [added, ← List.append_assoc, captures]
    intro other member
    rcases List.mem_append.mp member with earlier | last
    · exact Nat.lt_succ_of_lt (lined.counted other earlier)
    · rw [List.mem_singleton.mp last, serial]
      exact Nat.lt_succ_self _
  · exact opened
  · intro other member
    rw [added] at member
    rcases List.mem_append.mp member with earlier | last
    · exact current other earlier
    · rw [List.mem_singleton.mp last]
      exact frameCurrent
  · unfold OfOpenSession
    rw [encoded]
    exact lined.encoded

/-- The stop of a restart takes effect unless the encoder was stopped already. -/
theorem restart_session {frame : Captured} (stops : frame.stops = path.stops)
    (restarts : frame.restarts = !path.encoder.stopped) :
    sessionOf frame = (stopPath path).stops := by
  unfold sessionOf stopPath
  rw [restarts, stops]
  cases path.encoder.stopped with
  | true => rfl
  | false => rfl

theorem silent_capture_lined (lined : Lined path held frames) {width height : Int} {lib : Libav}
    (meets : KeepsOrder path (.silentCapture width height lib)) :
    Lined (silentCapture path width height lib) held frames := by
  obtain ⟨frame, inFlight, encoded, captures, serial, -, -, stops, counters⟩ :=
    silent_capture_frame path width height lib
  have waiting := silent_capture_waiting lined.waiting width height lib
  have empty : held = [] := by
    have counted := lined.waiting.holds.length_eq
    rw [meets.1, Nat.sub_self] at counted
    exact List.eq_nil_of_length_eq_zero counted
  have added : waitingFrames (silentCapture path width height lib) =
      waitingFrames path ++ [frame] := by
    rw [waiting_frames_eq waiting, waiting_frames_eq lined.waiting, inFlight, empty]
    simp
  apply lined_append lined waiting (.inr empty) added encoded captures serial
  · rcases counters with ⟨_, _, stopsEq, initEq⟩ | ⟨_, _, stopsEq, initEq⟩
    · rw [stopsEq, initEq]
      exact lined.opened
    · exact Nat.le_of_eq (by rw [stopsEq, initEq])
  · rcases counters with ⟨_, _, _, initEq⟩ | ⟨changed, _, _, initEq⟩
    · rw [initEq]
      exact lined.current
    · rw [initEq]
      exact meets.2 changed
  · rcases counters with ⟨_, restarts, _, initEq⟩ | ⟨_, restarts, _, initEq⟩
    · rw [initEq, sessionOf, restarts, stops]
      exact lined.opened
    · exact Nat.le_of_eq (by rw [initEq, restart_session stops restarts])

theorem audio_capture_lined (lined : Lined path held frames) {width height : Int}
    (meets : KeepsOrder path (.audioCapture width height)) :
    ∃ queued, Lined (audioCapture path width height) queued frames := by
  have room : FindsSlot path := fun accepting => (meets accepting).2
  rcases audio_capture_waiting lined.waiting room width height with ⟨_, waiting⟩ |
    ⟨accepting, waiting⟩
  · have same := waiting_frames_kept lined.waiting waiting rfl
    refine ⟨held, waiting, lined.oneRoute, lined.given, ?_, ?_, lined.opened, ?_, lined.encoded⟩
    · rw [same]
      exact lined.line
    · rw [same]
      intro frame member
      exact Nat.lt_succ_of_lt (lined.counted frame member)
    · unfold Current
      rw [same]
      exact lined.current
  · have alone := (meets accepting).1
    have added : waitingFrames (audioCapture path width height) =
        waitingFrames path ++ [requested path width height] := by
      rw [waiting_frames_eq waiting, waiting_frames_eq lined.waiting, List.map_append,
        ← List.append_assoc]
      rfl
    exact ⟨_, lined_append lined waiting (.inl alone) added rfl rfl rfl lined.opened
      lined.current lined.opened⟩

theorem encode_video_lined {frame : Captured} {after : FramePath}
    {left : List (EncoderElement Captured)} (lined : Lined path held frames)
    (waiting : Waiting after left) (oneRoute : after.inFlight = [] ∨ left = [])
    (first : waitingFrames path = frame :: waitingFrames after)
    (encoded : after.encoded = path.encoded) (captures : after.captures = path.captures)
    (stops : after.stops = path.stops) (stopsAtInit : after.stopsAtInit = path.stopsAtInit) :
    Lined (encodeVideoImpl after (some frame)) left (frames ++ [frame]) := by
  have moved : frames ++ [frame] ++ waitingFrames (encodeVideoImpl after (some frame)) =
      frames ++ waitingFrames path := by
    rw [first, List.append_assoc]
    rfl
  have frameCurrent : path.stopsAtInit ≤ sessionOf frame := by
    apply lined.current
    rw [first]
    exact List.mem_cons_self
  constructor
  · exact ⟨waiting.holds, waiting.waits⟩
  · exact oneRoute
  · have given := lined.given
    simp [encodeVideoImpl, encoded, given]
  · rw [moved]
    exact lined.line
  · rw [moved]
    simp only [encodeVideoImpl, captures]
    exact lined.counted
  · simp only [encodeVideoImpl, stops, stopsAtInit]
    exact lined.opened
  · intro other member
    simp only [encodeVideoImpl, stopsAtInit]
    apply lined.current
    rw [first]
    exact List.mem_cons_of_mem _ member
  · intro entry member other same
    simp only [encodeVideoImpl, encoded, stopsAtInit] at member
    rcases List.mem_append.mp member with earlier | last
    · exact lined.encoded entry earlier other same
    · rw [List.mem_singleton.mp last] at same ⊢
      rw [← Option.some.inj same]
      exact frameCurrent

theorem silent_encode_lined (lined : Lined path held frames) {thread : Nat}
    {following : FramePath} (meets : KeepsOrder path (.silentEncode thread))
    (stepped : step path (.silentEncode thread) = some following) :
    ∃ frame, Lined following held (frames ++ [frame]) := by
  have firstThread : thread = 0 := meets
  rw [firstThread] at stepped
  cases shape : path.inFlight with
  | nil => simp [step, shape] at stepped
  | cons frame rest =>
      have result : following = encodeVideoImpl { path with inFlight := rest } (some frame) := by
        simpa [step, shape] using stepped.symm
      have waiting : Waiting { path with inFlight := rest } held :=
        ⟨lined.waiting.holds, lined.waiting.waits⟩
      have empty : held = [] := by
        rcases lined.oneRoute with none | empty
        · rw [shape] at none
          cases none
        · exact empty
      have first : waitingFrames path = frame :: waitingFrames { path with inFlight := rest } := by
        rw [waiting_frames_eq waiting, waiting_frames_eq lined.waiting, shape]
        rfl
      rw [result]
      exact ⟨frame, encode_video_lined lined waiting (.inr empty) first rfl rfl rfl rfl⟩

theorem dequeue_video_lined (lined : Lined path held frames) {following : FramePath}
    (stepped : dequeueVideo path = some following) :
    ∃ left given, Lined following left given := by
  rcases dequeue_video_cases lined.waiting stepped with same |
    ⟨oldest, rest, queue, shape, waiting, result⟩
  · rw [same]
    exact ⟨held, frames, lined⟩
  · have alone : path.inFlight = [] := by
      rcases lined.oneRoute with alone | empty
      · exact alone
      · rw [shape] at empty
        cases empty
    have first : waitingFrames path = oldest.data ::
        waitingFrames { path with encoder := { path.encoder with videoCQ := queue } } := by
      rw [waiting_frames_eq waiting, waiting_frames_eq lined.waiting, shape]
      simp [alone]
    rw [result]
    exact ⟨rest, _, encode_video_lined lined waiting (.inl alone) first rfl rfl rfl rfl⟩

theorem step_lined (lined : Lined path held frames) {event : PathEvent} {following : FramePath}
    (meets : KeepsOrder path event) (stepped : step path event = some following) :
    ∃ left given, Lined following left given := by
  cases event with
  | silences silent =>
      rw [← Option.some.inj stepped]
      exact ⟨held, frames, silences_lined lined silent⟩
  | stops =>
      rw [← Option.some.inj stepped]
      exact ⟨held, frames, stop_path_lined lined⟩
  | initializes mEncCtx lib =>
      rw [← Option.some.inj stepped]
      exact ⟨held, frames, initialize_path_lined lined meets⟩
  | silentCapture width height lib =>
      rw [← Option.some.inj stepped]
      exact ⟨held, frames, silent_capture_lined lined meets⟩
  | silentEncode thread =>
      rcases silent_encode_lined lined meets stepped with ⟨frame, encoded⟩
      exact ⟨held, _, encoded⟩
  | audioCapture width height =>
      rw [← Option.some.inj stepped]
      rcases audio_capture_lined lined meets with ⟨queued, captured⟩
      exact ⟨queued, frames, captured⟩
  | dequeue => exact dequeue_video_lined lined stepped

end Steps

theorem constructed_lined (eCtx : EncoderContext) (audioBytes : Int) :
    Lined (constructedPath eCtx audioBytes) [] [] := by
  have none := constructed_waiting_frames eCtx audioBytes
  constructor
  · exact constructed_waiting eCtx audioBytes
  · exact .inl rfl
  · rfl
  · rw [none]
    exact List.Pairwise.nil
  · rw [none]
    simp
  · exact Nat.le_refl _
  · unfold Current
    rw [none]
    simp
  · intro entry member
    cases member

/-- In every run whose steps meet the condition, frames are encoded in the order
of their captures and none after the session it was captured for. -/
theorem frames_encoded_in_order (eCtx : EncoderContext) (audioBytes : Int) (path : FramePath)
    (reached : Reaches step KeepsOrder (constructedPath eCtx audioBytes) path) :
    InCaptureOrder path ∧ OfOpenSession path := by
  have invariant : ∃ held frames, Lined path held frames := by
    apply invariant_of_step (fun path => ∃ held frames, Lined path held frames) _ _ reached
    · exact ⟨[], [], constructed_lined eCtx audioBytes⟩
    · rintro state event following ⟨held, frames, lined⟩ meets stepped
      exact step_lined lined meets stepped
  rcases invariant with ⟨held, frames, lined⟩
  refine ⟨⟨frames, lined.given, ?_⟩, lined.encoded⟩
  exact (List.pairwise_append.mp lined.line).1

open VideoQueueAccepting (audibleContext)

def audiblePath : FramePath :=
  initializePath (constructedPath audibleContext 0) audibleContext (Libav.succeeds [] [])

def drainedThenSilent : FramePath :=
  after step audiblePath
    [.audioCapture 1920 1080, .dequeue, .silences true,
      .silentCapture 1920 1080 (Libav.succeeds [] []), .silentEncode 0]

theorem frames_encoded_in_order_drained :
    InCaptureOrder drainedThenSilent ∧ OfOpenSession drainedThenSilent := by
  have opened : Reaches step KeepsOrder (constructedPath audibleContext 0) audiblePath := by
    apply Reaches.next .start (.initializes audibleContext (Libav.succeeds [] []))
    · intro _ frame member
      rw [constructed_waiting_frames] at member
      cases member
    · rfl
  have captured := opened.next (.audioCapture 1920 1080) (fun _ => ⟨rfl, by decide⟩) rfl
  have encoded := captured.next .dequeue trivial rfl
  have silenced := encoded.next (.silences true) trivial rfl
  have silent := silenced.next (.silentCapture 1920 1080 (Libav.succeeds [] []))
    ⟨rfl, fun changed => absurd changed (by decide)⟩ rfl
  apply frames_encoded_in_order audibleContext 0
  exact silent.next (.silentEncode 0) rfl rfl

def frameAt (serial : Nat) : Captured where
  serial := serial
  width := 1920
  height := 1080
  stops := 0
  restarts := false

def leftInQueue : List PathEvent :=
  [.audioCapture 1920 1080, .silences true, .silentCapture 1920 1080 (Libav.succeeds [] []),
    .silentEncode 0, .silences false, .dequeue]

def leftOver : List PathEvent :=
  [.audioCapture 1920 1080, .stops, .initializes audibleContext (Libav.succeeds [] []),
    .silences false, .dequeue]

/-- A frame left in the queue by the audible phase is encoded after a later one
of the silent phase, and one left over by a session is encoded in the next. -/
theorem frame_left_in_queue_encoded_late :
    (Reaches step (fun _ _ => True) (constructedPath audibleContext 0)
        (after step audiblePath leftInQueue) ∧
      ¬InCaptureOrder (after step audiblePath leftInQueue)) ∧
    Reaches step (fun _ _ => True) (constructedPath audibleContext 0)
        (after step audiblePath leftOver) ∧
      ¬OfOpenSession (after step audiblePath leftOver) := by
  have opened : Reaches step (fun _ _ => True) (constructedPath audibleContext 0) audiblePath :=
    Reaches.next .start (.initializes audibleContext (Libav.succeeds [] [])) trivial rfl
  refine ⟨⟨reaches_onward opened (along_of_forall (fun _ _ => trivial) leftInQueue) rfl, ?_⟩,
    reaches_onward opened (along_of_forall (fun _ _ => trivial) leftOver) rfl, ?_⟩
  · rintro ⟨frames, given, ordered⟩
    have late : (after step audiblePath leftInQueue).encoded.map Encoded.frame =
        [frameAt 1, frameAt 0].map some := by rfl
    have same := List.map_injective_iff.mpr (Option.some_injective _) (late.symm.trans given)
    rw [← same] at ordered
    exact absurd ordered (by decide)
  · intro current
    have late := current
      { frame := some (frameAt 0)
        width := 1920
        height := 1080
        stopsAtInit := 1 }
      (by decide) _ rfl
    exact absurd late (by decide)

end Collabo.FrameOrder
