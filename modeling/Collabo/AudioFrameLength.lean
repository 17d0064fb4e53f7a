import Collabo.AudioFraming
import Collabo.ServerSteps

/-!
# The length of an audio frame

`initialize` sets the bytes that the chunk loops count for a sample from the
format alone, and the codec takes those of every channel from the frame. Where
the two differ, a frame holds bytes that are not the next ones of the stream.
-/

namespace Collabo.AudioFrameLength

open Blocks WhileLoops Collabo.CString Collabo.EncoderQueue Collabo.EncoderSession
open Collabo.MediaStream Collabo.ServerSteps Collabo.AudioFraming

set_option autoImplicit false

def bytesPerSample : SampleFormat → Int
  | .u8 => 1
  | .u8p => 1
  | .s16 => 2
  | .s16p => 2
  | .s32 => 4
  | .s32p => 4
  | .flt => 4
  | .fltp => 4
  | .dbl => 8
  | .dblp => 8
  | .s64 => 8
  | .s64p => 8

def interleaved : SampleFormat → Bool
  | .u8 => true
  | .s16 => true
  | .s32 => true
  | .flt => true
  | .dbl => true
  | .s64 => true
  | _ => false

/-- The bytes that the codec takes from a frame of an interleaved format. -/
def frameLength (eCtx : EncoderContext) (nbSamples : Int) : Int :=
  nbSamples * (eCtx.channels * bytesPerSample eCtx.outSmpFmt)

def sessionTrack (enc : Encoder) (nbSamples : Int) (buffer : ByteString) : AudioTrack where
  nbSamples := nbSamples
  audioBytes := enc.audioBytes
  data := buffer
  remainedAudioSize := enc.remainedAudioSize
  audioFramePts := enc.audioFramePts
  sent := []
  copies := []

/-- Both loops send every stream in frames of which each has the next `length`
bytes, and keep what follows the last frame. -/
def ConsumesStream (length : Nat) (t : AudioTrack) : Prop :=
  ∀ (fuel : Nat) (elements : List (EncoderElement ByteString)),
    (∀ element ∈ elements, Sized element) → (∀ element ∈ elements, element.size < fuel) →
    ∃ after, encodeAllImpl fuel t elements = some after ∧
      (∀ rates silentAt pacing,
        (encodeAll rates silentAt fuel (t, pacing) elements).map Prod.fst = some after) ∧
      Cut length (elements.flatMap EncoderElement.data)
        (after.sent.map fun frame => frame.data.take length) (leftOver after)

/-- The size of a sample that the chunk loops use is that of all channels: mono in
the formats that the switch sets, or the value of before in the other ones. -/
def CountsChannels (previous : Int) (eCtx : EncoderContext) : Prop :=
  if eCtx.outSmpFmt = .s16 ∨ eCtx.outSmpFmt = .s32 then eCtx.channels = 1
  else previous = eCtx.channels * bytesPerSample eCtx.outSmpFmt

theorem counts_channels_iff {previous : Int} {eCtx : EncoderContext}
    (format : interleaved eCtx.outSmpFmt = true) :
    CountsChannels previous eCtx ↔
      sampleBytes previous eCtx.outSmpFmt = eCtx.channels * bytesPerSample eCtx.outSmpFmt := by
  unfold CountsChannels
  cases known : eCtx.outSmpFmt <;>
    simp only [known, interleaved, Bool.false_eq_true] at format <;>
    simp [sampleBytes, bytesPerSample]

section Short

variable {t : AudioTrack}

theorem stamped_data (nbSamples pts : Int) (blocks : List ByteString) :
    (stamped nbSamples pts blocks).map SentFrame.data = blocks := by
  induction blocks generalizing pts with
  | nil => rfl
  | cons block rest induction =>
      rw [stamped, List.map_cons, induction]

theorem consumes_stream (ready : Ready t) (nothing : t.remainedAudioSize = 0)
    (first : t.sent = []) :
    ConsumesStream (frameSize t).toNat t := by
  intro fuel elements sized enough
  rcases encode_all_impl_framed ready sized enough with ⟨after, result, framed⟩
  refine ⟨after, result, ?_, ?_⟩
  · intro rates silentAt pacing
    exact (encode_all_track rates silentAt fuel (t, pacing) elements).trans result
  · rcases framed.frames with ⟨blocks, cut, sent, _⟩
    have empty : leftOver t = [] := by
      unfold leftOver
      rw [nothing]
      rfl
    rw [empty, List.nil_append] at cut
    have seen : after.sent.map (fun frame => frame.data.take (frameSize t).toNat) = blocks := by
      have whole :
          (after.sent.map SentFrame.data).map (List.take (frameSize t).toNat) = blocks := by
        rw [sent, first, List.nil_append, stamped_data, List.map_map]
        refine (List.map_congr_left ?_).trans (List.map_id blocks)
        intro block member
        exact List.take_left' (cut.sized block member)
      rw [List.map_map] at whole
      exact whole
    rw [seen]
    exact cut

theorem empty_frames_forever {e : Encoding} (empty : frameSize t ≤ 0)
    (nothing : t.remainedAudioSize = 0) (unread : e.encodedSize ≤ 0) (bytes : 0 < e.size)
    (fuel : Nat) : whileLoop implIteration fuel (t, e) = none := by
  induction fuel generalizing t e with
  | zero => rfl
  | succ fuel induction =>
      rcases impl_iteration_cases t e with ⟨done, _⟩ | ⟨_, _, pass⟩ | ⟨_, leaves, _⟩
      · omega
      · simp only [whileLoop, pass]
        apply induction
        · exact empty
        · rfl
        · dsimp only
          omega
        · exact bytes
      · omega

structure SentWhole (t : AudioTrack) (bytes : ByteString) (after : AudioTrack) : Prop where
  size : frameSize after = frameSize t
  nothing : after.remainedAudioSize = 0
  sent : ∃ pts behind, after.sent = t.sent ++ [{ pts := pts, data := bytes ++ behind }]

theorem whole_copy {bytes : ByteString} (nothing : t.remainedAudioSize = 0)
    (sized : (bytes.length : Int) = frameSize t) :
    (copied t (encodingOf (audioElement bytes)) (frameSize t)).data =
      bytes ++ t.data.drop bytes.length := by
  have all : slice bytes 0 (frameSize t).toNat = bytes := by
    apply List.take_of_length_le
    rw [List.drop_zero]
    omega
  simp only [copied, nothing, encodingOf, audioElement, Int.toNat_zero, all, overwrite,
    List.take_zero, List.nil_append, Nat.zero_add]

theorem whole_frame_sent {bytes : ByteString} (nothing : t.remainedAudioSize = 0)
    (positive : 0 < frameSize t) (sized : (bytes.length : Int) = frameSize t) (fuel : Nat) :
    ∃ after, encodeAudioImpl (fuel + 2) t (audioElement bytes) = some after ∧
      SentWhole t bytes after := by
  have left : frameSize t - t.remainedAudioSize = frameSize t := by omega
  have begun : (encodingOf (audioElement bytes)).encodedSize = 0 := rfl
  have size : (encodingOf (audioElement bytes)).size = frameSize t := sized
  rcases impl_iteration_cases t (encodingOf (audioElement bytes)) with ⟨done, _⟩ | ⟨_, _, pass⟩ |
    ⟨_, leaves, _⟩
  · omega
  · rw [left] at pass
    refine ⟨sendFrame { copied t (encodingOf (audioElement bytes)) (frameSize t) with
      remainedAudioSize := 0 }, ?_, rfl, rfl, t.audioFramePts, t.data.drop bytes.length, ?_⟩
    · simp only [encodeAudioImpl, whileLoop, pass]
      rcases impl_iteration_cases
        (sendFrame { copied t (encodingOf (audioElement bytes)) (frameSize t) with
          remainedAudioSize := 0 })
        { encodingOf (audioElement bytes) with
          encodedSize := (encodingOf (audioElement bytes)).encodedSize + frameSize t } with
        ⟨_, ends⟩ | ⟨more, _, _⟩ | ⟨more, _, _⟩
      · rw [ends]
      · dsimp only at more
        omega
      · dsimp only at more
        omega
    · rw [← whole_copy nothing sized]
      rfl
  · omega

section Mismatch

variable {length : Nat} (nothing : t.remainedAudioSize = 0) (first : t.sent = [])
  (consumes : ConsumesStream length t)
include nothing consumes

theorem frames_not_empty : 0 < frameSize t := by
  by_contra empty
  rcases consumes 2 [audioElement [0]] (by simp only [Sized]; decide) (by decide) with
    ⟨after, result, _⟩
  have forever : encodeAudioImpl 2 t (audioElement [0]) = none :=
    empty_frames_forever (Int.not_lt.mp empty) nothing (Int.le_refl 0) (by decide) 2
  simp only [encodeAllImpl, List.foldlM_cons, forever] at result
  cases result

include first

/-- The first frame has bytes behind those of an element of `frameSize`. -/
theorem frames_not_short : (length : Int) ≤ frameSize t := by
  have positive := frames_not_empty nothing consumes
  have sized : ((List.replicate (frameSize t).toNat (0 : UInt8)).length : Int) = frameSize t := by
    rw [List.length_replicate]
    omega
  rcases whole_frame_sent nothing positive sized (frameSize t).toNat with ⟨after, result, whole⟩
  rcases consumes ((frameSize t).toNat + 2) [audioElement (List.replicate (frameSize t).toNat 0)]
    (by simp [Sized, audioElement]) (by simp [audioElement]) with ⟨same, again, _, cut⟩
  simp only [encodeAllImpl, List.foldlM_cons, result] at again
  cases again
  rcases whole.sent with ⟨pts, behind, sent⟩
  rw [sent, first] at cut
  have full := cut.sized _ List.mem_cons_self
  have bytes := congrArg List.length cut.same
  simp only [List.nil_append, List.map_cons, List.map_nil, List.flatten_cons, List.flatten_nil,
    List.append_nil, List.length_append, List.flatMap_cons, List.flatMap_nil, audioElement,
    List.length_replicate, full] at bytes
  omega

theorem frames_not_long (some : 0 < length) : frameSize t ≤ length := by
  by_contra long
  have positive := frames_not_empty nothing consumes
  have sized : ∀ byte : UInt8,
      ((List.replicate (frameSize t).toNat byte).length : Int) = frameSize t := by
    intro byte
    rw [List.length_replicate]
    omega
  rcases whole_frame_sent nothing positive (sized 0) (frameSize t).toNat with
    ⟨middle, result, whole⟩
  have laterSized := sized 1
  rw [← whole.size] at laterSized positive
  rcases whole_frame_sent whole.nothing positive laterSized (frameSize t).toNat with
    ⟨after, laterResult, later⟩
  rw [whole.size] at laterResult later
  rcases consumes ((frameSize t).toNat + 2)
    [audioElement (List.replicate (frameSize t).toNat 0),
      audioElement (List.replicate (frameSize t).toNat 1)]
    (by simp [Sized, audioElement]) (by simp [audioElement]) with ⟨same, again, _, cut⟩
  simp only [encodeAllImpl, List.foldlM_cons, result, Option.bind_eq_bind, Option.bind_some,
    laterResult] at again
  cases again
  rcases whole.sent with ⟨pts, behind, sent⟩
  rcases later.sent with ⟨laterPts, laterBehind, laterSent⟩
  have fits : length ≤ (frameSize t).toNat := by omega
  have frontOf : ∀ (byte : UInt8) (behind : ByteString),
      (List.replicate (frameSize t).toNat byte ++ behind).take length =
        List.replicate length byte := by
    intro byte behind
    rw [List.take_append_of_le_length (by rw [List.length_replicate]; exact fits),
      List.take_replicate, Nat.min_eq_left fits]
  have same := cut.same
  rw [laterSent, sent, first] at same
  simp only [List.nil_append, List.cons_append, List.map_cons, List.map_nil, frontOf,
    List.flatten_cons, List.flatten_nil, List.append_nil, List.flatMap_cons, List.flatMap_nil,
    audioElement] at same
  -- The byte after the first `length` is a one on the left and a zero on the right.
  have byte := congrArg (fun bytes : ByteString => bytes[length]?) same
  have inside : length < (frameSize t).toNat := by omega
  simp [List.getElem?_append, some, inside] at byte

end Mismatch

theorem consumes_stream_exact {length : Nat} (nothing : t.remainedAudioSize = 0)
    (first : t.sent = []) (some : 0 < length) (consumes : ConsumesStream length t) :
    frameSize t = length := by
  have short := frames_not_short nothing first consumes
  have long := frames_not_long nothing first consumes some
  omega

end Short

/-- A session that opened sends frames of consecutive bytes exactly where its format
and its channels are counted alike. -/
theorem frames_consume_stream_iff {enc opened : Encoder} {eCtx : EncoderContext} {lib : Libav}
    {nbSamples : Int} {buffer : ByteString}
    (accepted : initializeEncoder enc eCtx lib = (.success, opened))
    (audio : opened.audioStream = true) (format : interleaved eCtx.outSmpFmt = true)
    (samples : 0 < nbSamples) (channels : 0 < eCtx.channels)
    (room : frameLength eCtx nbSamples ≤ buffer.length) :
    ConsumesStream (frameLength eCtx nbSamples).toNat (sessionTrack opened nbSamples buffer) ↔
      CountsChannels enc.audioBytes eCtx := by
  have counting := initialize_encoder_counting accepted
  have nothing : (sessionTrack opened nbSamples buffer).remainedAudioSize = 0 :=
    counting.remainedAudioSize
  have size : frameSize (sessionTrack opened nbSamples buffer) =
      nbSamples * sampleBytes enc.audioBytes eCtx.outSmpFmt := by
    rw [← counting.audioBytes audio]
    rfl
  have bytes : 0 < bytesPerSample eCtx.outSmpFmt := by cases eCtx.outSmpFmt <;> decide
  have positive : 0 < frameLength eCtx nbSamples := Int.mul_pos samples (Int.mul_pos channels bytes)
  rw [counts_channels_iff format]
  constructor
  · intro consumes
    have exact := consumes_stream_exact nothing rfl (by omega) consumes
    rw [size, Int.toNat_of_nonneg (Int.le_of_lt positive)] at exact
    exact Int.eq_of_mul_eq_mul_left (Int.ne_of_gt samples) exact
  · intro counted
    rw [counted] at size
    have whole : frameSize (sessionTrack opened nbSamples buffer) = frameLength eCtx nbSamples :=
      size
    have ready : Ready (sessionTrack opened nbSamples buffer) := by
      constructor
      · rw [whole]
        exact positive
      · rw [nothing]
      · rw [nothing, whole]
        exact positive
      · rw [whole]
        exact room
    rw [← whole]
    exact consumes_stream ready nothing rfl

def hostContext (channels : Int) : EncoderContext :=
  encoderContext .video { sampleHost with channels := channels }

def openedSession (channels : Int) : Encoder :=
  (initializeEncoder (constructed (hostContext channels) 0) (hostContext channels)
    (Libav.succeeds [] [])).2

theorem frames_consume_stream_iff_mono :
    ConsumesStream (frameLength (hostContext 1) 1024).toNat
        (sessionTrack (openedSession 1) 1024 (List.replicate 2048 0)) ↔
      CountsChannels 0 (hostContext 1) := by
  have opened : initializeEncoder (constructed (hostContext 1) 0) (hostContext 1)
      (Libav.succeeds [] []) = (.success, openedSession 1) := by decide
  have room : frameLength (hostContext 1) 1024 ≤ (List.replicate 2048 (0 : UInt8)).length := by
    rw [List.length_replicate]
    decide
  exact frames_consume_stream_iff opened (by decide) rfl (by decide) (by decide) room

/-- With two channels a frame is sent when half of it is filled. -/
theorem stereo_frames_half_filled :
    initializeEncoder (constructed (hostContext 2) 0) (hostContext 2) (Libav.succeeds [] []) =
        (.success, openedSession 2) ∧
      ¬ConsumesStream (frameLength (hostContext 2) 1024).toNat
        (sessionTrack (openedSession 2) 1024 (List.replicate 4096 0)) := by
  refine ⟨by decide, ?_⟩
  intro consumes
  have short := frames_not_short rfl rfl consumes
  revert short
  decide

end Collabo.AudioFrameLength
