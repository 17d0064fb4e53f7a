import Collabo.VideoQueueAccepting

/-!
# Sessions that fail to open

`initialize` clears the stopped flag before the first call that can fail, and no
early return sets it again. The encoder then refuses the next `initialize`, and
the next `stop` writes a trailer without a header.
-/

namespace Collabo.SessionFailure

open PartialRuns Collabo.CString Collabo.EncoderQueue Collabo.EncoderSession
  Collabo.VideoQueueAccepting

set_option autoImplicit false

structure TrailerCall where
  fmtCtx : Bool
  headerWritten : Bool
  deriving DecidableEq, Repr

def trailerCall (enc : Encoder) : Option TrailerCall :=
  if enc.stopped then none
  else some { fmtCtx := enc.fmtCtx, headerWritten := enc.headerWritten }

/-- The encoder can be initialised, and a stop has nothing to do. -/
structure Reusable (enc : Encoder) : Prop where
  accepts : ∀ mEncCtx lib, (initializeEncoder enc mEncCtx lib).1 ≠ .alreadyInitError
  refuses : (stop enc).1 = .alreadyStopError
  untouched : trailerCall enc = none

/-- An `initialize` that does not succeed leaves the flag as it was, and a
trailer is written only after the header of its context. -/
def FailsCleanly (enc : Encoder) : EncoderCall → Prop
  | .initializes mEncCtx lib =>
      (initializeEncoder enc mEncCtx lib).1 ≠ .success →
        (initializeEncoder enc mEncCtx lib).2.stopped = enc.stopped ∧
          (enc.stopped = true → Reusable (initializeEncoder enc mEncCtx lib).2)
  | .stops =>
      ∀ trailer, trailerCall enc = some trailer →
        trailer.fmtCtx = true ∧ trailer.headerWritten = true
  | .silences _ => True

/-- The library fails in no call that opening a session makes. -/
def OpensWhenStopped (enc : Encoder) : EncoderCall → Prop
  | .initializes mEncCtx lib => enc.stopped = true → lib.opens mEncCtx = true
  | .stops => True
  | .silences _ => True

section Opening

structure Proceeds (before : Encoder) (result : Except Failed Encoder) : Prop where
  failed : ∀ failure, result = .error failure → failure.state ≠ .alreadyInitError
  context : ∀ after, result = .ok after → after.fmtCtx = before.fmtCtx

theorem proceeds_ok {before after : Encoder} (same : after.fmtCtx = before.fmtCtx) :
    Proceeds before (.ok after) where
  failed failure failed := by cases failed
  context result succeeded := by
    cases succeeded
    exact same

theorem proceeds_require {before enc : Encoder} {succeeded : Bool} {state : EncoderState}
    {rest : Except Failed Encoder} (other : state ≠ .alreadyInitError)
    (later : Proceeds before rest) : Proceeds before (require succeeded state enc rest) := by
  cases succeeded with
  | true => exact later
  | false =>
      constructor
      · intro failure same
        cases same
        exact other
      · intro after same
        cases same

theorem proceeds_bind {before : Encoder} {opened : Except Failed Encoder}
    {next : Encoder → Except Failed Encoder} (earlier : Proceeds before opened)
    (later : ∀ after, Proceeds after (next after)) : Proceeds before (opened >>= next) := by
  cases opened with
  | error failure =>
      constructor
      · intro other same
        cases same
        exact earlier.failed failure rfl
      · intro after same
        cases same
  | ok middle =>
      have rest := later middle
      constructor
      · intro failure same
        exact rest.failed failure same
      · intro after same
        exact (rest.context after same).trans (earlier.context middle rfl)

theorem open_video_proceeds (lib : Libav) (format : OutputFormat) (enc : Encoder) :
    Proceeds enc (openVideo lib format enc) := by
  unfold openVideo
  split_ifs
  · iterate 4 apply proceeds_require (by decide)
    exact proceeds_ok rfl
  · exact proceeds_ok rfl

theorem open_audio_proceeds (lib : Libav) (format : OutputFormat) (enc : Encoder) :
    Proceeds enc (openAudio lib format enc) := by
  unfold openAudio
  split_ifs
  · iterate 5 apply proceeds_require (by decide)
    exact proceeds_ok rfl
  · exact proceeds_ok rfl

theorem alloc_video_proceeds (lib : Libav) (enc : Encoder) :
    Proceeds enc (allocVideo lib enc) := by
  unfold allocVideo
  split_ifs
  · iterate 5 apply proceeds_require (by decide)
    exact proceeds_ok rfl
  · exact proceeds_ok rfl

theorem alloc_audio_proceeds (lib : Libav) (enc : Encoder) :
    Proceeds enc (allocAudio lib enc) := by
  unfold allocAudio
  split_ifs
  · iterate 7 apply proceeds_require (by decide)
    exact proceeds_ok rfl
  · exact proceeds_ok rfl

theorem write_header_proceeds (lib : Libav) (enc : Encoder) :
    Proceeds enc (writeHeader lib enc) :=
  proceeds_require (by decide) (proceeds_ok rfl)

theorem open_streams_proceeds (lib : Libav) (format : OutputFormat) (enc : Encoder) :
    Proceeds enc (openStreams lib format enc) := by
  apply proceeds_bind (open_video_proceeds lib format enc)
  intro video
  apply proceeds_bind (open_audio_proceeds lib format video)
  intro audio
  apply proceeds_bind (alloc_video_proceeds lib audio)
  intro ready
  exact alloc_audio_proceeds lib ready

/-- Opening a session never answers that one is open, and where it succeeds
there is a context. -/
theorem open_session_proceeds (lib : Libav) (enc : Encoder) :
    (∀ failure, openSession lib enc = .error failure → failure.state ≠ .alreadyInitError) ∧
      ∀ after, openSession lib enc = .ok after → after.fmtCtx = true := by
  unfold openSession
  cases lib.outputContext with
  | none =>
      constructor
      · intro failure same
        cases same
        simp
      · intro after same
        cases same
  | some format =>
      have whole := proceeds_bind (open_streams_proceeds lib format (withFormatContext enc))
        (write_header_proceeds lib)
      exact ⟨whole.failed, whole.context⟩

end Opening

section Calls

variable {enc : Encoder} {mEncCtx : EncoderContext} {lib : Libav}

theorem initialize_stopped_accepts (stopped : enc.stopped = true) (mEncCtx : EncoderContext)
    (lib : Libav) : (initializeEncoder enc mEncCtx lib).1 ≠ .alreadyInitError := by
  obtain ⟨failed, -⟩ := open_session_proceeds lib (reset enc mEncCtx)
  unfold initializeEncoder
  rw [if_neg (by simp [stopped])]
  cases opening : openSession lib (reset enc mEncCtx) with
  | error failure => exact failed failure opening
  | ok opened => simp

theorem initialize_opened_context (stopped : enc.stopped = true)
    (succeeded : (initializeEncoder enc mEncCtx lib).1 = .success) :
    (initializeEncoder enc mEncCtx lib).2.fmtCtx = true := by
  obtain ⟨-, context⟩ := open_session_proceeds lib (reset enc mEncCtx)
  rcases open_session_opens lib enc mEncCtx with ⟨failure, result, -, failing, -⟩ |
    ⟨after, result, -, -⟩
  · unfold initializeEncoder at succeeded
    rw [if_neg (by simp [stopped]), result] at succeeded
    exact absurd succeeded failing
  · unfold initializeEncoder
    rw [if_neg (by simp [stopped]), result]
    exact context after result

theorem reusable_iff_stopped : Reusable enc ↔ enc.stopped = true := by
  constructor
  · intro reusable
    rcases stop_cases enc with ⟨stopped, _⟩ | ⟨_, result⟩
    · exact stopped
    · have refused := reusable.refuses
      rw [result] at refused
      cases refused
  · intro stopped
    constructor
    · exact initialize_stopped_accepts stopped
    · simp [stop, stopped]
    · simp [trailerCall, stopped]

end Calls

def Headed (enc : Encoder) : Prop :=
  enc.stopped = false → enc.fmtCtx = true ∧ enc.headerWritten = true

theorem initializes_cleanly_iff (enc : Encoder) (mEncCtx : EncoderContext) (lib : Libav) :
    FailsCleanly enc (.initializes mEncCtx lib) ↔
      OpensWhenStopped enc (.initializes mEncCtx lib) := by
  simp only [FailsCleanly, OpensWhenStopped]
  rcases initialize_encoder_cases enc mEncCtx lib with ⟨running, result⟩ |
    ⟨stopped, refused, failing, kept⟩ | ⟨stopped, positive, succeeded, _⟩
  · rw [running, result]
    constructor
    · intro _ stopped
      cases stopped
    · intro _ _
      refine ⟨running, ?_⟩
      intro stopped
      cases stopped
  · constructor
    · intro cleanly
      have flag := reusable_iff_stopped.mp ((cleanly failing).2 stopped)
      rw [kept.stopped] at flag
      cases flag
    · intro opens
      rw [opens stopped] at refused
      cases refused
  · constructor
    · intro _ _
      exact positive
    · intro _ failing
      exact absurd succeeded failing

theorem fails_cleanly_iff {enc : Encoder} (headed : Headed enc) (call : EncoderCall) :
    FailsCleanly enc call ↔ OpensWhenStopped enc call := by
  cases call with
  | initializes mEncCtx lib => exact initializes_cleanly_iff enc mEncCtx lib
  | stops =>
      apply iff_of_true _ trivial
      intro trailer called
      cases running : enc.stopped with
      | true => simp [trailerCall, running] at called
      | false =>
          simp only [trailerCall, running, Bool.false_eq_true, if_false,
            Option.some.injEq] at called
          rw [← called]
          exact headed running
  | silences silent => exact Iff.rfl

theorem perform_headed {enc : Encoder} {call : EncoderCall} (headed : Headed enc)
    (opens : OpensWhenStopped enc call) : Headed (perform enc call) := by
  cases call with
  | initializes mEncCtx lib =>
      rcases initialize_encoder_cases enc mEncCtx lib with ⟨_, result⟩ |
        ⟨stopped, refused, _, _⟩ | ⟨stopped, _, succeeded, opened⟩
      · simp only [perform, result]
        exact headed
      · rw [opens stopped] at refused
        cases refused
      · intro _
        exact ⟨initialize_opened_context stopped succeeded, opened.headerWritten⟩
  | stops =>
      intro running
      have stopped := stop_stopped enc
      rw [perform] at running
      rw [running] at stopped
      cases stopped
  | silences silent => exact headed

/-- Over every sequence of calls on a newly constructed encoder, an `initialize`
that fails leaves it stopped and every trailer follows its header exactly when
each `initialize` of the stopped encoder succeeds. -/
theorem fails_cleanly_along_iff (eCtx : EncoderContext) (audioBytes : Int)
    (calls : List EncoderCall) :
    Along step FailsCleanly (constructed eCtx audioBytes) calls ↔
      Along step OpensWhenStopped (constructed eCtx audioBytes) calls := by
  apply along_iff_of_invariant (fun _ _ => True) Headed
  · intro enc call headed _
    exact fails_cleanly_iff headed call
  · intro enc call following headed _ cleanly stepped
    rw [← Option.some.inj stepped]
    exact perform_headed headed ((fails_cleanly_iff headed call).mp cleanly)
  · intro running
    cases running
  · exact along_of_forall (fun _ _ => trivial) calls

def withoutVideoEncoder : Libav := { Libav.succeeds [] [] with videoEncoder := false }

def failedThenStopped : List EncoderCall :=
  [.initializes audibleContext withoutVideoEncoder,
    .initializes audibleContext (Libav.succeeds [] []), .stops]

/-- The second `initialize` is refused, and the trailer has no header. -/
theorem failed_session_refuses_next :
    (initializeEncoder (constructed audibleContext 0) audibleContext withoutVideoEncoder).1 =
        .videoCodecError ∧
      (initializeEncoder
          (perform (constructed audibleContext 0)
            (.initializes audibleContext withoutVideoEncoder))
          audibleContext (Libav.succeeds [] [])).1 = .alreadyInitError ∧
      trailerCall ((failedThenStopped.take 2).foldl perform (constructed audibleContext 0)) =
        some { fmtCtx := true, headerWritten := false } ∧
      ¬Along step FailsCleanly (constructed audibleContext 0) failedThenStopped := by
  refine ⟨rfl, rfl, rfl, ?_⟩
  intro along
  have opens := (fails_cleanly_along_iff audibleContext 0 failedThenStopped).mp along
  exact absurd (opens.1 rfl) (by decide)

end Collabo.SessionFailure
