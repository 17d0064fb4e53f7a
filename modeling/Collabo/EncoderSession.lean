import Collabo.CString
import Collabo.EncoderQueue

/-!
# The encoder's session

`Encoder::initialize`, `Encoder::stop` and `Encoder::setSilent`. The answers of
the media library are given with each call of `initialize`, one for each call it
makes of the library. A failed call returns at once and leaves what the calls
before it built, with the stopped flag already cleared.
-/

namespace Collabo.EncoderSession

open Collabo.CString Collabo.EncoderQueue

set_option autoImplicit false

inductive EncoderState where
  | success
  | formatContextError
  | writeHeaderError
  | avioOpenError
  | alreadyInitError
  | alreadyStopError
  | videoCodecError
  | videoCodecContextError
  | videoSwsGetContextError
  | videoNewStreamError
  | videoCodecOpenError
  | videoCodecparError
  | videoAllocFrameError
  | videoAllocFrameBufferError
  | videoAllocPacketError
  | videoEncodeError
  | videoWriteFrameError
  | videoReceivePacketError
  | audioCodecError
  | audioCodecContextError
  | audioSwrAllocError
  | audioSwrInitError
  | audioNewStreamError
  | audioCodecOpenError
  | audioCodecparError
  | audioAllocFrameError
  | audioAllocFrameBufferError
  | audioAllocPacketError
  | audioEncodeError
  | audioSwrConvertError
  | audioWriteFrameError
  | audioReceivePacketError
  | encoderStopped
  deriving DecidableEq, Repr

inductive SampleFormat where
  | u8
  | s16
  | s32
  | flt
  | dbl
  | u8p
  | s16p
  | s32p
  | fltp
  | dblp
  | s64
  | s64p
  deriving DecidableEq, Repr

structure EncoderContext where
  videoCodecName : String
  audioCodecName : String
  width : Int
  height : Int
  framerate : Int
  outSmpFmt : SampleFormat
  samplerate : Int
  channels : Int
  isSilent : Bool
  deriving DecidableEq, Repr

/-- Which codecs the muxer of the file name has. -/
structure OutputFormat where
  videoCodec : Bool
  audioCodec : Bool
  deriving DecidableEq, Repr

/-- The answers of the media library to the calls of `initialize`, in the order
of the calls, and the buffers it hands to the packet callback while it writes
the header and the trailer. -/
structure Libav where
  outputContext : Option OutputFormat
  videoEncoder : Bool
  videoNewStream : Bool
  videoCodecContext : Bool
  swsContext : Bool
  audioEncoder : Bool
  audioNewStream : Bool
  audioCodecContext : Bool
  swrAlloc : Bool
  swrInit : Bool
  videoOpen : Bool
  videoCodecpar : Bool
  videoFrame : Bool
  videoFrameBuffer : Bool
  videoPacket : Bool
  audioOpen : Bool
  audioCodecpar : Bool
  audioFrame : Bool
  audioFrameBuffer : Bool
  audioPacket : Bool
  audioTmpFrame : Bool
  audioTmpFrameBuffer : Bool
  writeHeader : Bool
  headerWrites : List ByteString
  trailerWrites : List ByteString
  deriving DecidableEq, Repr

inductive Loop where
  | video (onlyVideo : Bool)
  | audio (onlyAudio : Bool)
  deriving DecidableEq, Repr

/-- A buffer returned by `requestVideo`, of `3 * width * height` bytes. The
source has neither its place in the order of captures, nor the number of stops
that had taken effect when it was captured, nor whether its capture thread then
stopped a session to open one of its size. -/
structure Captured where
  serial : Nat
  width : Int
  height : Int
  stops : Nat
  restarts : Bool
  deriving DecidableEq, Repr

/-- `headerWritten` says that the open muxer has written its header, `session`
counts the sessions opened so far and `written` the packets of the last one;
the source has none of the three. -/
structure Encoder where
  stopped : Bool
  eCtx : EncoderContext
  fmtCtx : Bool
  videoStream : Bool
  audioStream : Bool
  videoFramePts : Int
  audioFramePts : Int
  remainedAudioSize : Int
  audioBytes : Int
  videoCQ : EncoderCQ Captured
  audioCQ : EncoderCQ ByteString
  loops : List Loop
  headerWritten : Bool
  session : Nat
  written : Nat
  deriving DecidableEq, Repr

def constructed (eCtx : EncoderContext) (audioBytes : Int) : Encoder where
  stopped := true
  eCtx := eCtx
  fmtCtx := false
  videoStream := false
  audioStream := false
  videoFramePts := 0
  audioFramePts := 0
  remainedAudioSize := 0
  audioBytes := audioBytes
  videoCQ := EncoderCQ.new true
  audioCQ := EncoderCQ.new true
  loops := []
  headerWritten := false
  session := 0
  written := 0

structure Failed where
  state : EncoderState
  encoder : Encoder

def require (succeeded : Bool) (state : EncoderState) (enc : Encoder)
    (rest : Except Failed Encoder) : Except Failed Encoder :=
  if succeeded then rest else .error { state := state, encoder := enc }

def wantsVideo (format : OutputFormat) (eCtx : EncoderContext) : Bool :=
  format.videoCodec && eCtx.videoCodecName ≠ "none"

def wantsAudio (format : OutputFormat) (eCtx : EncoderContext) : Bool :=
  format.audioCodec && eCtx.audioCodecName ≠ "none"

def openVideo (lib : Libav) (format : OutputFormat) (enc : Encoder) : Except Failed Encoder :=
  if wantsVideo format enc.eCtx then
    require lib.videoEncoder .videoCodecError enc <|
    require lib.videoNewStream .videoNewStreamError enc <|
    let enc := { enc with videoStream := true }
    require lib.videoCodecContext .videoCodecContextError enc <|
    require lib.swsContext .videoSwsGetContextError enc <|
    .ok enc
  else .ok enc

def sampleBytes (previous : Int) : SampleFormat → Int
  | .s16 => 2
  | .s32 => 4
  | .s32p => 4
  | .fltp => 4
  | _ => previous

def openAudio (lib : Libav) (format : OutputFormat) (enc : Encoder) : Except Failed Encoder :=
  if wantsAudio format enc.eCtx then
    require lib.audioEncoder .audioCodecError enc <|
    require lib.audioNewStream .audioNewStreamError enc <|
    let enc := { enc with audioStream := true }
    require lib.audioCodecContext .audioCodecContextError enc <|
    let enc := { enc with audioBytes := sampleBytes enc.audioBytes enc.eCtx.outSmpFmt }
    require lib.swrAlloc .audioSwrAllocError enc <|
    require lib.swrInit .audioSwrInitError enc <|
    .ok enc
  else .ok enc

def allocVideo (lib : Libav) (enc : Encoder) : Except Failed Encoder :=
  if enc.videoStream then
    require lib.videoOpen .videoCodecOpenError enc <|
    require lib.videoCodecpar .videoCodecparError enc <|
    require lib.videoFrame .videoAllocFrameError enc <|
    require lib.videoFrameBuffer .videoAllocFrameBufferError enc <|
    require lib.videoPacket .videoAllocPacketError enc <|
    .ok enc
  else .ok enc

def allocAudio (lib : Libav) (enc : Encoder) : Except Failed Encoder :=
  if enc.audioStream then
    require lib.audioOpen .audioCodecOpenError enc <|
    require lib.audioCodecpar .audioCodecparError enc <|
    require lib.audioFrame .audioAllocFrameError enc <|
    require lib.audioFrameBuffer .audioAllocFrameBufferError enc <|
    require lib.audioPacket .audioAllocPacketError enc <|
    require lib.audioTmpFrame .audioAllocFrameError enc <|
    require lib.audioTmpFrameBuffer .audioAllocFrameBufferError enc <|
    .ok enc
  else .ok enc

def writeHeader (lib : Libav) (enc : Encoder) : Except Failed Encoder :=
  require lib.writeHeader .writeHeaderError enc <|
  .ok { enc with headerWritten := true, session := enc.session + 1, written := 0 }

/-- The loops chosen at the end of `initialize`, by a chain of conditions of its
own: the `else` belongs to the second one only. -/
def startedLoops (eCtx : EncoderContext) : List Loop :=
  (if eCtx.videoCodecName ≠ "none" ∧ eCtx.audioCodecName = "none" then [.video true] else []) ++
    (if eCtx.audioCodecName ≠ "none" ∧ eCtx.videoCodecName = "none" then [.audio true]
      else [.video false, .audio false])

def reset (enc : Encoder) (mEncCtx : EncoderContext) : Encoder :=
  { enc with
    stopped := false
    eCtx := mEncCtx
    fmtCtx := false
    videoStream := false
    audioStream := false
    videoFramePts := 0
    audioFramePts := 0
    remainedAudioSize := 0
    headerWritten := false }

def openStreams (lib : Libav) (format : OutputFormat) (enc : Encoder) : Except Failed Encoder := do
  let enc ← openVideo lib format enc
  let enc ← openAudio lib format enc
  let enc ← allocVideo lib enc
  allocAudio lib enc

def withFormatContext (enc : Encoder) : Encoder := { enc with fmtCtx := true }

def openSession (lib : Libav) (enc : Encoder) : Except Failed Encoder :=
  match lib.outputContext with
  | none => .error { state := .formatContextError, encoder := enc }
  | some format => openStreams lib format (withFormatContext enc) >>= writeHeader lib

def initializeEncoder (enc : Encoder) (mEncCtx : EncoderContext) (lib : Libav) :
    EncoderState × Encoder :=
  if ¬enc.stopped then (.alreadyInitError, enc)
  else
    match openSession lib (reset enc mEncCtx) with
    | .error failed => (failed.state, failed.encoder)
    | .ok opened => (.success, { opened with loops := opened.loops ++ startedLoops mEncCtx })

/-- `av_write_trailer` is called on whatever context there is. The streams keep
their pointers. -/
def stop (enc : Encoder) : EncoderState × Encoder :=
  if enc.stopped then (.alreadyStopError, enc)
  else
    (.success,
      { enc with
        stopped := true
        videoCQ := enc.videoCQ.stop
        audioCQ := enc.audioCQ.stop
        fmtCtx := false
        headerWritten := false })

def setSilent (enc : Encoder) (silent : Bool) : Encoder :=
  { enc with
    videoCQ := if silent then enc.videoCQ.stop else enc.videoCQ.start
    eCtx := { enc.eCtx with isSilent := silent } }

section Opening

structure Kept (before after : Encoder) : Prop where
  stopped : after.stopped = before.stopped
  eCtx : after.eCtx = before.eCtx
  videoCQ : after.videoCQ = before.videoCQ
  audioCQ : after.audioCQ = before.audioCQ
  loops : after.loops = before.loops
  headerWritten : after.headerWritten = before.headerWritten
  session : after.session = before.session

theorem Kept.refl (enc : Encoder) : Kept enc enc := ⟨rfl, rfl, rfl, rfl, rfl, rfl, rfl⟩

theorem Kept.trans {first second third : Encoder} (left : Kept first second)
    (right : Kept second third) : Kept first third where
  stopped := right.stopped.trans left.stopped
  eCtx := right.eCtx.trans left.eCtx
  videoCQ := right.videoCQ.trans left.videoCQ
  audioCQ := right.audioCQ.trans left.audioCQ
  loops := right.loops.trans left.loops
  headerWritten := right.headerWritten.trans left.headerWritten
  session := right.session.trans left.session

/-- A step of opening keeps those fields however it ends, and succeeds exactly
when the library's answers to it are all positive, with the stream pointers it
leaves. -/
structure Opens (before : Encoder) (answers videoStream audioStream : Bool)
    (result : Except Failed Encoder) : Prop where
  failed : ∀ failure, result = .error failure →
    answers = false ∧ failure.state ≠ .success ∧ Kept before failure.encoder
  opened : ∀ after, result = .ok after → answers = true ∧ Kept before after ∧
    after.videoStream = videoStream ∧ after.audioStream = audioStream

theorem opens_ok {before after : Encoder} (kept : Kept before after) :
    Opens before true after.videoStream after.audioStream (.ok after) where
  failed failure same := by cases same
  opened result same := by
    cases same
    exact ⟨rfl, kept, rfl, rfl⟩

theorem opens_require {before enc : Encoder} {succeeded answers videoStream audioStream : Bool}
    {state : EncoderState} {rest : Except Failed Encoder} (failing : state ≠ .success)
    (kept : Kept before enc)
    (later : Opens before answers videoStream audioStream rest) :
    Opens before (succeeded && answers) videoStream audioStream
      (require succeeded state enc rest) := by
  cases succeeded with
  | true => simpa only [require, if_true, Bool.true_and] using later
  | false =>
      simp only [require, Bool.false_eq_true, if_false, Bool.false_and]
      refine ⟨?_, ?_⟩
      · intro failure same
        cases same
        exact ⟨rfl, failing, kept⟩
      · intro after same
        cases same

theorem opens_bind {before : Encoder} {first second videoStream audioStream video audio : Bool}
    {step : Except Failed Encoder} {next : Encoder → Except Failed Encoder}
    (earlier : Opens before first videoStream audioStream step)
    (later : ∀ after, Kept before after → after.videoStream = videoStream →
      after.audioStream = audioStream → Opens after second video audio (next after)) :
    Opens before (first && second) video audio (step >>= next) := by
  cases step with
  | error failure =>
      rcases earlier.failed failure rfl with ⟨answers, failing, kept⟩
      refine ⟨?_, ?_⟩
      · intro other same
        cases same
        exact ⟨by rw [answers]; rfl, failing, kept⟩
      · intro after same
        cases same
  | ok middle =>
      rcases earlier.opened middle rfl with ⟨answers, kept, videoEq, audioEq⟩
      have rest := later middle kept videoEq audioEq
      rw [answers, Bool.true_and]
      refine ⟨?_, ?_⟩
      · intro failure same
        rcases rest.failed failure same with ⟨refused, failing, keptLater⟩
        exact ⟨refused, failing, kept.trans keptLater⟩
      · intro after same
        rcases rest.opened after same with ⟨positive, keptLater, streams⟩
        exact ⟨positive, kept.trans keptLater, streams⟩

def videoOpenAnswers (lib : Libav) : Bool :=
  lib.videoEncoder && (lib.videoNewStream && (lib.videoCodecContext && (lib.swsContext && true)))

def audioOpenAnswers (lib : Libav) : Bool :=
  lib.audioEncoder && (lib.audioNewStream && (lib.audioCodecContext &&
    (lib.swrAlloc && (lib.swrInit && true))))

def videoAllocAnswers (lib : Libav) : Bool :=
  lib.videoOpen && (lib.videoCodecpar && (lib.videoFrame && (lib.videoFrameBuffer &&
    (lib.videoPacket && true))))

def audioAllocAnswers (lib : Libav) : Bool :=
  lib.audioOpen && (lib.audioCodecpar && (lib.audioFrame && (lib.audioFrameBuffer &&
    (lib.audioPacket && (lib.audioTmpFrame && (lib.audioTmpFrameBuffer && true))))))

theorem open_video_opens (lib : Libav) (format : OutputFormat) (enc : Encoder)
    (fresh : enc.videoStream = false) :
    Opens enc (!wantsVideo format enc.eCtx || videoOpenAnswers lib) (wantsVideo format enc.eCtx)
      enc.audioStream (openVideo lib format enc) := by
  unfold openVideo
  cases wanted : wantsVideo format enc.eCtx with
  | false => simpa [fresh] using opens_ok (Kept.refl enc)
  | true =>
      have kept : Kept enc { enc with videoStream := true } := ⟨rfl, rfl, rfl, rfl, rfl, rfl, rfl⟩
      simp only [if_true, Bool.not_true, Bool.false_or, videoOpenAnswers]
      apply opens_require (by decide) (Kept.refl enc)
      apply opens_require (by decide) (Kept.refl enc)
      apply opens_require (by decide) kept
      apply opens_require (by decide) kept
      exact opens_ok kept

theorem open_audio_opens (lib : Libav) (format : OutputFormat) (enc : Encoder)
    (fresh : enc.audioStream = false) :
    Opens enc (!wantsAudio format enc.eCtx || audioOpenAnswers lib) enc.videoStream
      (wantsAudio format enc.eCtx) (openAudio lib format enc) := by
  unfold openAudio
  cases wanted : wantsAudio format enc.eCtx with
  | false => simpa [fresh] using opens_ok (Kept.refl enc)
  | true =>
      have kept : Kept enc { enc with audioStream := true } := ⟨rfl, rfl, rfl, rfl, rfl, rfl, rfl⟩
      have sized : Kept enc
          { enc with
            audioStream := true
            audioBytes := sampleBytes enc.audioBytes enc.eCtx.outSmpFmt } :=
        ⟨rfl, rfl, rfl, rfl, rfl, rfl, rfl⟩
      simp only [if_true, Bool.not_true, Bool.false_or, audioOpenAnswers]
      apply opens_require (by decide) (Kept.refl enc)
      apply opens_require (by decide) (Kept.refl enc)
      apply opens_require (by decide) kept
      apply opens_require (by decide) sized
      apply opens_require (by decide) sized
      exact opens_ok sized

theorem alloc_video_opens (lib : Libav) (enc : Encoder) :
    Opens enc (!enc.videoStream || videoAllocAnswers lib) enc.videoStream enc.audioStream
      (allocVideo lib enc) := by
  unfold allocVideo
  cases wanted : enc.videoStream with
  | false => simpa [wanted] using opens_ok (Kept.refl enc)
  | true =>
      simp only [if_true, Bool.not_true, Bool.false_or, videoAllocAnswers]
      iterate 5 apply opens_require (by decide) (Kept.refl enc)
      simpa [wanted] using opens_ok (Kept.refl enc)

theorem alloc_audio_opens (lib : Libav) (enc : Encoder) :
    Opens enc (!enc.audioStream || audioAllocAnswers lib) enc.videoStream enc.audioStream
      (allocAudio lib enc) := by
  unfold allocAudio
  cases wanted : enc.audioStream with
  | false => simpa [wanted] using opens_ok (Kept.refl enc)
  | true =>
      simp only [if_true, Bool.not_true, Bool.false_or, audioAllocAnswers]
      iterate 7 apply opens_require (by decide) (Kept.refl enc)
      simpa [wanted] using opens_ok (Kept.refl enc)

def openAnswers (lib : Libav) (format : OutputFormat) (eCtx : EncoderContext) : Bool :=
  (!wantsVideo format eCtx || videoOpenAnswers lib) &&
    ((!wantsAudio format eCtx || audioOpenAnswers lib) &&
      ((!wantsVideo format eCtx || videoAllocAnswers lib) &&
        (!wantsAudio format eCtx || audioAllocAnswers lib)))

theorem open_streams_opens (lib : Libav) (format : OutputFormat) (enc : Encoder)
    (noVideo : enc.videoStream = false) (noAudio : enc.audioStream = false) :
    Opens enc (openAnswers lib format enc.eCtx) (wantsVideo format enc.eCtx)
      (wantsAudio format enc.eCtx) (openStreams lib format enc) := by
  apply opens_bind (open_video_opens lib format enc noVideo)
  intro video keptVideo videoEq noAudioYet
  have audio := open_audio_opens lib format video (noAudioYet.trans noAudio)
  rw [keptVideo.eCtx, videoEq] at audio
  apply opens_bind audio
  intro both keptBoth bothVideo bothAudio
  have videoReady := alloc_video_opens lib both
  rw [bothVideo, bothAudio] at videoReady
  apply opens_bind videoReady
  intro ready keptReady readyVideo readyAudio
  have audioReady := alloc_audio_opens lib ready
  rwa [readyVideo, readyAudio] at audioReady

def Libav.opens (lib : Libav) (eCtx : EncoderContext) : Bool :=
  match lib.outputContext with
  | none => false
  | some format => openAnswers lib format eCtx && lib.writeHeader

def Libav.hasVideo (lib : Libav) (eCtx : EncoderContext) : Bool :=
  match lib.outputContext with
  | none => false
  | some format => wantsVideo format eCtx

def Libav.hasAudio (lib : Libav) (eCtx : EncoderContext) : Bool :=
  match lib.outputContext with
  | none => false
  | some format => wantsAudio format eCtx

structure Opened (before : Encoder) (mEncCtx : EncoderContext) (lib : Libav) (after : Encoder) :
    Prop where
  stopped : after.stopped = false
  eCtx : after.eCtx = mEncCtx
  videoStream : after.videoStream = lib.hasVideo mEncCtx
  audioStream : after.audioStream = lib.hasAudio mEncCtx
  videoCQ : after.videoCQ = before.videoCQ
  audioCQ : after.audioCQ = before.audioCQ
  loops : after.loops = before.loops ++ startedLoops mEncCtx
  headerWritten : after.headerWritten = true
  session : after.session = before.session + 1
  written : after.written = 0

theorem open_session_opens (lib : Libav) (before : Encoder) (mEncCtx : EncoderContext) :
    (∃ failure, openSession lib (reset before mEncCtx) = .error failure ∧
      lib.opens mEncCtx = false ∧ failure.state ≠ .success ∧
      Kept (reset before mEncCtx) failure.encoder) ∨
    (∃ after, openSession lib (reset before mEncCtx) = .ok after ∧ lib.opens mEncCtx = true ∧
      Opened before mEncCtx lib
        { after with loops := after.loops ++ startedLoops mEncCtx }) := by
  unfold openSession Libav.opens
  cases context : lib.outputContext with
  | none => exact .inl ⟨_, rfl, rfl, by simp, Kept.refl _⟩
  | some format =>
      have allocated : Kept (reset before mEncCtx) (withFormatContext (reset before mEncCtx)) :=
        ⟨rfl, rfl, rfl, rfl, rfl, rfl, rfl⟩
      have streams :=
        open_streams_opens lib format (withFormatContext (reset before mEncCtx)) rfl rfl
      cases built : openStreams lib format (withFormatContext (reset before mEncCtx)) with
      | error failure =>
          rcases streams.failed failure built with ⟨refused, failing, kept⟩
          have answers : openAnswers lib format mEncCtx = false := refused
          refine .inl ⟨failure, ?_, ?_, failing, allocated.trans kept⟩
          · simp only [built, bind, Except.bind]
          · simp only [answers, Bool.false_and]
      | ok ready =>
          rcases streams.opened ready built with ⟨positive, keptReady, videoEq, audioEq⟩
          have answers : openAnswers lib format mEncCtx = true := positive
          have kept := allocated.trans keptReady
          cases header : lib.writeHeader with
          | false =>
              refine .inl
                ⟨{ state := .writeHeaderError, encoder := ready }, ?_, ?_, by simp, kept⟩
              · simp only [built, bind, Except.bind, writeHeader, require, header,
                  Bool.false_eq_true, if_false]
              · simp only [Bool.and_false]
          | true =>
              refine .inr ⟨{ ready with
                headerWritten := true, session := ready.session + 1, written := 0 }, ?_, ?_, ?_⟩
              · simp only [built, bind, Except.bind, writeHeader, require, header, if_true]
              · simp only [answers, Bool.and_self]
              · exact
                  { stopped := kept.stopped
                    eCtx := kept.eCtx
                    videoStream := by simp only [Libav.hasVideo, context]; exact videoEq
                    audioStream := by simp only [Libav.hasAudio, context]; exact audioEq
                    videoCQ := kept.videoCQ
                    audioCQ := kept.audioCQ
                    loops := congrArg (· ++ startedLoops mEncCtx) kept.loops
                    headerWritten := rfl
                    session := congrArg (· + 1) kept.session
                    written := rfl }

/-- What `initialize` can do: refuse, return early with what it had built, or
open a session. -/
theorem initialize_encoder_cases (enc : Encoder) (mEncCtx : EncoderContext) (lib : Libav) :
    (enc.stopped = false ∧ initializeEncoder enc mEncCtx lib = (.alreadyInitError, enc)) ∨
    (enc.stopped = true ∧ lib.opens mEncCtx = false ∧
      (initializeEncoder enc mEncCtx lib).1 ≠ .success ∧
      Kept (reset enc mEncCtx) (initializeEncoder enc mEncCtx lib).2) ∨
    (enc.stopped = true ∧ lib.opens mEncCtx = true ∧
      (initializeEncoder enc mEncCtx lib).1 = .success ∧
      Opened enc mEncCtx lib (initializeEncoder enc mEncCtx lib).2) := by
  cases running : enc.stopped with
  | false =>
      apply Or.inl
      simp [initializeEncoder, running]
  | true =>
      apply Or.inr
      have opening : initializeEncoder enc mEncCtx lib =
          match openSession lib (reset enc mEncCtx) with
          | .error failed => (failed.state, failed.encoder)
          | .ok opened =>
              (.success, { opened with loops := opened.loops ++ startedLoops mEncCtx }) := by
        rw [initializeEncoder, if_neg (by simp [running])]
      rcases open_session_opens lib enc mEncCtx with ⟨failure, result, refused, failing, kept⟩ |
        ⟨after, result, positive, opened⟩
      · rw [opening, result]
        exact .inl ⟨rfl, refused, failing, kept⟩
      · rw [opening, result]
        exact .inr ⟨rfl, positive, rfl, opened⟩

theorem require_ok {succeeded : Bool} {state : EncoderState} {enc after : Encoder}
    {rest : Except Failed Encoder} (opened : require succeeded state enc rest = .ok after) :
    rest = .ok after := by
  unfold require at opened
  split_ifs at opened
  exact opened

theorem open_video_ok {lib : Libav} {format : OutputFormat} {enc after : Encoder}
    (opened : openVideo lib format enc = .ok after) :
    after = { enc with videoStream := wantsVideo format enc.eCtx || enc.videoStream } := by
  unfold openVideo at opened
  cases wanted : wantsVideo format enc.eCtx with
  | true =>
      rw [wanted, if_pos rfl] at opened
      have same := require_ok (require_ok (require_ok (require_ok opened)))
      cases same
      rfl
  | false =>
      rw [wanted, if_neg Bool.false_ne_true] at opened
      cases opened
      rfl

theorem open_audio_ok {lib : Libav} {format : OutputFormat} {enc after : Encoder}
    (opened : openAudio lib format enc = .ok after) :
    after = { enc with
      audioStream := wantsAudio format enc.eCtx || enc.audioStream
      audioBytes :=
        if wantsAudio format enc.eCtx then sampleBytes enc.audioBytes enc.eCtx.outSmpFmt
        else enc.audioBytes } := by
  unfold openAudio at opened
  cases wanted : wantsAudio format enc.eCtx with
  | true =>
      rw [wanted, if_pos rfl] at opened
      have same := require_ok (require_ok (require_ok (require_ok (require_ok opened))))
      cases same
      rfl
  | false =>
      rw [wanted, if_neg Bool.false_ne_true] at opened
      cases opened
      rfl

theorem alloc_video_ok {lib : Libav} {enc after : Encoder}
    (opened : allocVideo lib enc = .ok after) :
    after = enc := by
  unfold allocVideo at opened
  split_ifs at opened
  · have same := require_ok (require_ok (require_ok (require_ok (require_ok opened))))
    cases same
    rfl
  · cases opened
    rfl

theorem alloc_audio_ok {lib : Libav} {enc after : Encoder}
    (opened : allocAudio lib enc = .ok after) :
    after = enc := by
  unfold allocAudio at opened
  split_ifs at opened
  · have frame := require_ok (require_ok (require_ok (require_ok opened)))
    have same := require_ok (require_ok (require_ok frame))
    cases same
    rfl
  · cases opened
    rfl

theorem bind_ok {step : Except Failed Encoder} {next : Encoder → Except Failed Encoder}
    {after : Encoder} (opened : step >>= next = .ok after) :
    ∃ middle, step = .ok middle ∧ next middle = .ok after := by
  cases step with
  | error failure => cases opened
  | ok middle => exact ⟨middle, rfl, opened⟩

structure Counting (before : Encoder) (mEncCtx : EncoderContext) (after : Encoder) : Prop where
  videoFramePts : after.videoFramePts = 0
  audioFramePts : after.audioFramePts = 0
  remainedAudioSize : after.remainedAudioSize = 0
  audioBytes : after.audioStream = true →
    after.audioBytes = sampleBytes before.audioBytes mEncCtx.outSmpFmt

theorem initialize_encoder_counting {enc opened : Encoder} {mEncCtx : EncoderContext} {lib : Libav}
    (success : initializeEncoder enc mEncCtx lib = (.success, opened)) :
    Counting enc mEncCtx opened := by
  rcases open_session_opens lib enc mEncCtx with ⟨failure, result, _, failing, _⟩ |
    ⟨after, result, _, _⟩
  · unfold initializeEncoder at success
    rw [result] at success
    split_ifs at success with running
    · exact absurd (congrArg Prod.fst success) failing
    · cases success
  · unfold initializeEncoder at success
    rw [result] at success
    split_ifs at success with running
    · cases success
      unfold openSession at result
      cases context : lib.outputContext with
      | none =>
          rw [context] at result
          cases result
      | some format =>
          rw [context] at result
          rcases bind_ok result with ⟨ready, streams, header⟩
          have written := require_ok header
          cases written
          rcases bind_ok streams with ⟨video, videoOpened, afterVideo⟩
          rcases bind_ok afterVideo with ⟨audio, audioOpened, afterAudio⟩
          rcases bind_ok afterAudio with ⟨allocated, videoAllocated, audioAllocated⟩
          rw [alloc_audio_ok audioAllocated, alloc_video_ok videoAllocated,
            open_audio_ok audioOpened, open_video_ok videoOpened]
          refine ⟨rfl, rfl, rfl, ?_⟩
          intro streaming
          have wanted : wantsAudio format mEncCtx = true := by
            simpa [reset, withFormatContext] using streaming
          exact if_pos wanted
    · cases success

end Opening

theorem stop_cases (enc : Encoder) :
    (enc.stopped = true ∧ stop enc = (.alreadyStopError, enc)) ∨
    (enc.stopped = false ∧ stop enc =
      (.success,
        { enc with
          stopped := true
          videoCQ := enc.videoCQ.stop
          audioCQ := enc.audioCQ.stop
          fmtCtx := false
          headerWritten := false })) := by
  unfold stop
  cases enc.stopped with
  | true => exact .inl ⟨rfl, rfl⟩
  | false => exact .inr ⟨rfl, rfl⟩

theorem initialize_video_queue (enc : Encoder) (mEncCtx : EncoderContext) (lib : Libav) :
    (initializeEncoder enc mEncCtx lib).2.videoCQ = enc.videoCQ := by
  rcases initialize_encoder_cases enc mEncCtx lib with ⟨_, result⟩ | ⟨_, _, _, kept⟩ |
    ⟨_, _, _, opened⟩
  · rw [result]
  · exact kept.videoCQ
  · exact opened.videoCQ

theorem initialize_context {enc : Encoder} (stopped : enc.stopped = true)
    (mEncCtx : EncoderContext) (lib : Libav) :
    (initializeEncoder enc mEncCtx lib).2.eCtx = mEncCtx := by
  rcases initialize_encoder_cases enc mEncCtx lib with ⟨running, _⟩ | ⟨_, _, _, kept⟩ |
    ⟨_, _, _, opened⟩
  · rw [running] at stopped
    cases stopped
  · exact kept.eCtx
  · exact opened.eCtx

theorem initialize_running {enc : Encoder} (running : enc.stopped = false)
    (mEncCtx : EncoderContext) (lib : Libav) :
    initializeEncoder enc mEncCtx lib = (.alreadyInitError, enc) := by
  simp [initializeEncoder, running]

theorem stop_stopped (enc : Encoder) : (stop enc).2.stopped = true := by
  rcases stop_cases enc with ⟨stopped, result⟩ | ⟨_, result⟩
  · rw [result]
    exact stopped
  · rw [result]

theorem stop_context (enc : Encoder) : (stop enc).2.eCtx = enc.eCtx := by
  rcases stop_cases enc with ⟨_, result⟩ | ⟨_, result⟩ <;> rw [result]

theorem stop_video_queue {enc : Encoder} {held : List (EncoderElement Captured)}
    (holds : Holds enc.videoCQ held) : Holds (stop enc).2.videoCQ held := by
  rcases stop_cases enc with ⟨_, result⟩ | ⟨_, result⟩
  · rw [result]
    exact holds
  · rw [result]
    exact holds.stop

theorem set_silent_video_queue {enc : Encoder} {held : List (EncoderElement Captured)}
    (holds : Holds enc.videoCQ held) (silent : Bool) :
    Holds (setSilent enc silent).videoCQ held := by
  cases silent with
  | true => exact holds.stop
  | false => exact holds.start

def Libav.succeeds (headerWrites trailerWrites : List ByteString) : Libav where
  outputContext := some { videoCodec := true, audioCodec := true }
  videoEncoder := true
  videoNewStream := true
  videoCodecContext := true
  swsContext := true
  audioEncoder := true
  audioNewStream := true
  audioCodecContext := true
  swrAlloc := true
  swrInit := true
  videoOpen := true
  videoCodecpar := true
  videoFrame := true
  videoFrameBuffer := true
  videoPacket := true
  audioOpen := true
  audioCodecpar := true
  audioFrame := true
  audioFrameBuffer := true
  audioPacket := true
  audioTmpFrame := true
  audioTmpFrameBuffer := true
  writeHeader := true
  headerWrites := headerWrites
  trailerWrites := trailerWrites

end Collabo.EncoderSession
