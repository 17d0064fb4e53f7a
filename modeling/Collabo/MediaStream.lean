import Collabo.ClientTable
import Collabo.EncoderSession

/-!
# Streaming

The statics of `Collabo.cpp` that `startStreaming`, `stopStreaming` and
`readPacket` share, with the encoder and the calls made of the image
compressor. `test_collabo.h` stands for the host, which answers
START_STREAMING by `startStreaming` and STOP_STREAMING by `stopStreaming`.
-/

namespace Collabo.MediaStream

open Collabo.CString Collabo.ClientTable Collabo.EncoderSession

set_option autoImplicit false

/-- STOP_PROGRAM, with which the host ends the process, is not among them. -/
inductive ClbState where
  | startStreaming
  | stopStreaming
  deriving DecidableEq, Repr

inductive Mode where
  | video
  | image
  deriving DecidableEq, Repr

structure ClbContext where
  isVideoEnabled : Bool
  isAudioEnabled : Bool
  width : Int
  height : Int
  samplerate : Int
  channels : Int
  isSilent : Bool
  deriving DecidableEq, Repr

/-- A buffer that the muxer hands to `readPacket`. The source has only the bytes:
`session` and `index` say which session wrote it and how many packets that had
written before, the rest whether the session has video and of which size. -/
structure Packet where
  session : Nat
  index : Nat
  video : Bool
  width : Int
  height : Int
  bytes : ByteString
  deriving DecidableEq, Repr

structure Member where
  authority : Bool
  chief : Bool
  mcode : ByteString
  custom : ByteString
  name : ByteString
  deriving DecidableEq, Repr

structure VideoInit where
  isVideoEnabled : Bool
  isAudioEnabled : Bool
  width : Int
  height : Int
  header : List Packet
  deriving DecidableEq, Repr

/-- The messages that the handlers and the encoder send. The number in
`connectedMemberInfo` is the size of the table, of which the length of the
message is computed. The time stamps are left out. -/
inductive StcMsg where
  | initVideo (init : VideoInit)
  | decodeVideo (packet : Packet)
  | authProcess (authority : Bool) (mcode : ByteString)
  | chiefProcess (src dst : ByteString)
  | accessMemberProcess (member : Member)
  | connectedMemberInfoProcess (members : List Member) (size : Nat)
  deriving DecidableEq, Repr

inductive CompressorCall where
  | initializes (width height : Int)
  | stops
  | sendsFull
  deriving DecidableEq, Repr

/-- `header` is the array of that name, up to `headerSize`. `muxer` is the context
that the last session was opened with; `callbacks`, `compressorCalls` and `sent`
are the calls of the host and of the compressor and the messages sent so far. -/
structure Streaming where
  mode : Mode
  clbCtx : ClbContext
  firstCount : Nat
  header : List Packet
  encoder : Encoder
  muxer : EncoderContext
  callbacks : List ClbState
  compressorCalls : List CompressorCall
  sent : List (WebSocket × StcMsg)

def send (streaming : Streaming) (ws : WebSocket) (msg : StcMsg) : Streaming :=
  { streaming with sent := streaming.sent ++ [(ws, msg)] }

def sendAll (streaming : Streaming) (sockets : List WebSocket) (msg : StcMsg) : Streaming :=
  { streaming with sent := streaming.sent ++ sockets.map fun ws => (ws, msg) }

def inbox (streaming : Streaming) (ws : WebSocket) : List StcMsg :=
  (streaming.sent.filter fun delivery => delivery.1 = ws).map Prod.snd

def videoInit (streaming : Streaming) : VideoInit where
  isVideoEnabled := streaming.clbCtx.isVideoEnabled
  isAudioEnabled := streaming.clbCtx.isAudioEnabled
  width := streaming.clbCtx.width
  height := streaming.clbCtx.height
  header := streaming.header

def sendVideoInitMsg (streaming : Streaming) (ws : WebSocket) : Streaming :=
  send streaming ws (.initVideo (videoInit streaming))

def sendVideoInitMsgAll (viewers : List WebSocket) (streaming : Streaming) : Streaming :=
  sendAll streaming viewers (.initVideo (videoInit streaming))

def sendVideoPktAll (viewers : List WebSocket) (streaming : Streaming) (packet : Packet) :
    Streaming :=
  sendAll streaming viewers (.decodeVideo packet)

/-- The array has room for the two packets, of at most 4096 bytes each. -/
def readPacket (viewers : List WebSocket) (streaming : Streaming) (packet : Packet) : Streaming :=
  if streaming.firstCount < 2 then
    let collected := { streaming with
      header := streaming.header ++ [packet]
      firstCount := streaming.firstCount + 1 }
    if collected.firstCount = 2 then sendVideoInitMsgAll viewers collected else collected
  else sendVideoPktAll viewers streaming packet

def muxWrite (viewers : List WebSocket) (streaming : Streaming) (bytes : ByteString) : Streaming :=
  let packet : Packet :=
    { session := streaming.encoder.session
      index := streaming.encoder.written
      video := streaming.encoder.videoStream
      width := streaming.muxer.width
      height := streaming.muxer.height
      bytes := bytes }
  readPacket viewers
    { streaming with
      encoder := { streaming.encoder with written := streaming.encoder.written + 1 } }
    packet

def muxWrites (viewers : List WebSocket) (streaming : Streaming) (writes : List ByteString) :
    Streaming :=
  writes.foldl (muxWrite viewers) streaming

/-- `encoder.initialize`, which writes the header through `readPacket`. -/
def initializeEncoder (viewers : List WebSocket) (streaming : Streaming) (eCtx : EncoderContext)
    (lib : Libav) : Streaming :=
  let answer := EncoderSession.initializeEncoder streaming.encoder eCtx lib
  let opened := { streaming with encoder := answer.2 }
  if answer.1 = .success then
    muxWrites viewers { opened with muxer := eCtx } lib.headerWrites
  else opened

/-- `encoder.stop`, which writes the trailer through `readPacket`. -/
def stopEncoder (viewers : List WebSocket) (streaming : Streaming) (lib : Libav) : Streaming :=
  let flushed :=
    if streaming.encoder.stopped = false ∧ streaming.encoder.headerWritten = true then
      muxWrites viewers streaming lib.trailerWrites
    else streaming
  { flushed with encoder := (EncoderSession.stop flushed.encoder).2 }

/-- The context that `startStreaming` gives the encoder. In image mode its size
and frame rate have no value. -/
def encoderContext (mode : Mode) (clbCtx : ClbContext) : EncoderContext :=
  match mode with
  | .video =>
      { videoCodecName := "libx264"
        audioCodecName := "libfdk_aac"
        width := clbCtx.width
        height := clbCtx.height
        framerate := 25
        outSmpFmt := .s16
        samplerate := clbCtx.samplerate
        channels := clbCtx.channels
        isSilent := clbCtx.isSilent }
  | .image =>
      { videoCodecName := "none"
        audioCodecName := "libfdk_aac"
        width := 0
        height := 0
        framerate := 0
        outSmpFmt := .s16
        samplerate := clbCtx.samplerate
        channels := clbCtx.channels
        isSilent := clbCtx.isSilent }

def startStreaming (viewers : List WebSocket) (streaming : Streaming) (mClbCtx : ClbContext)
    (lib : Libav) : Streaming :=
  let reset := { streaming with clbCtx := mClbCtx, firstCount := 0, header := [] }
  let prepared :=
    match streaming.mode with
    | .video =>
        { reset with
          clbCtx := { mClbCtx with isAudioEnabled := true, isVideoEnabled := true } }
    | .image =>
        { reset with
          clbCtx := { mClbCtx with isAudioEnabled := true, isVideoEnabled := false }
          compressorCalls :=
            streaming.compressorCalls ++ [.initializes mClbCtx.width mClbCtx.height] }
  initializeEncoder viewers prepared (encoderContext streaming.mode mClbCtx) lib

def stopStreaming (viewers : List WebSocket) (streaming : Streaming) (lib : Libav) : Streaming :=
  let stopped := stopEncoder viewers streaming lib
  match stopped.mode with
  | .video => stopped
  | .image => { stopped with compressorCalls := stopped.compressorCalls ++ [.stops] }

/-- The host's `state_callback`, with the context that it keeps. -/
def stateCallback (viewers : List WebSocket) (host : ClbContext) (lib : Libav)
    (streaming : Streaming) (state : ClbState) : Streaming :=
  let called := { streaming with callbacks := streaming.callbacks ++ [state] }
  match state with
  | .startStreaming => startStreaming viewers called { host with isVideoEnabled := true } lib
  | .stopStreaming => stopStreaming viewers called lib

def sendFull (streaming : Streaming) : Streaming :=
  { streaming with compressorCalls := streaming.compressorCalls ++ [.sendsFull] }

/-- A capture thread of `encodeVideoLoop` that finds another screen size. -/
def restartEncoder (viewers : List WebSocket) (streaming : Streaming) (width height : Int)
    (lib : Libav) : Streaming :=
  let resized := { streaming with
    encoder := { streaming.encoder with
      eCtx := { streaming.encoder.eCtx with width := width, height := height } } }
  let stopped := stopEncoder viewers resized lib
  initializeEncoder viewers stopped stopped.encoder.eCtx lib

section Writing

structure Wrote (before after : Streaming) : Prop where
  mode : after.mode = before.mode
  callbacks : after.callbacks = before.callbacks
  compressor : after.compressorCalls = before.compressorCalls
  stopped : after.encoder.stopped = before.encoder.stopped
  eCtx : after.encoder.eCtx = before.encoder.eCtx

theorem mux_write_wrote (viewers : List WebSocket) (streaming : Streaming) (bytes : ByteString) :
    Wrote streaming (muxWrite viewers streaming bytes) := by
  unfold muxWrite readPacket
  dsimp only
  split_ifs
  · exact ⟨rfl, rfl, rfl, rfl, rfl⟩
  · exact ⟨rfl, rfl, rfl, rfl, rfl⟩
  · exact ⟨rfl, rfl, rfl, rfl, rfl⟩

theorem mux_writes_wrote (viewers : List WebSocket) (streaming : Streaming)
    (writes : List ByteString) : Wrote streaming (muxWrites viewers streaming writes) := by
  induction writes generalizing streaming with
  | nil => exact ⟨rfl, rfl, rfl, rfl, rfl⟩
  | cons bytes rest induction =>
      have head := mux_write_wrote viewers streaming bytes
      have tail := induction (muxWrite viewers streaming bytes)
      constructor
      · exact tail.mode.trans head.mode
      · exact tail.callbacks.trans head.callbacks
      · exact tail.compressor.trans head.compressor
      · exact tail.stopped.trans head.stopped
      · exact tail.eCtx.trans head.eCtx

theorem stop_encoder_context (viewers : List WebSocket) (streaming : Streaming) (lib : Libav) :
    (stopEncoder viewers streaming lib).encoder.eCtx = streaming.encoder.eCtx := by
  unfold stopEncoder
  dsimp only
  rw [stop_context]
  split_ifs
  · exact (mux_writes_wrote viewers streaming lib.trailerWrites).eCtx
  · rfl

end Writing

end Collabo.MediaStream
