import Collabo.CInt
import Collabo.CString
import Collabo.EncoderQueue
import Collabo.Library.Blocks
import Collabo.Library.RoundedRescale
import Collabo.Library.WhileLoops

/-!
# Audio frames

The chunk loops of `encodeAudioImpl` and of `encodeAudioLoop`, which cut the
elements of `audioCQ` into frames of the codec. A frame that an element leaves
incomplete is completed by the next one. The codec and the muxer succeed. The
loop of `encodeAudioLoop` also asks for video frames, at the pace of the audio.
-/

namespace Collabo.AudioFraming

open Blocks RoundedRescale WhileLoops Collabo.CInt Collabo.CString Collabo.EncoderQueue

set_option autoImplicit false

structure SentFrame where
  pts : Int
  data : ByteString
  deriving DecidableEq, Repr

/-- A `memcpy` into the frame: the offsets in the frame and in the element, the
length, and the size that the element has. -/
structure Copy where
  target : Int
  source : Int
  length : Int
  size : Int
  deriving DecidableEq, Repr

/-- `data` is `audioTmpFrame->data[0]` and `nbSamples` is the `nb_samples` of that
frame. `sent` are the frames handed to the codec and `copies` the calls of
`memcpy` so far; the source keeps neither. -/
structure AudioTrack where
  nbSamples : Int
  audioBytes : Int
  data : ByteString
  remainedAudioSize : Int
  audioFramePts : Int
  sent : List SentFrame
  copies : List Copy
  deriving DecidableEq, Repr

structure Encoding where
  data : ByteString
  size : Int
  encodedSize : Int
  deriving DecidableEq, Repr

def encodingOf (element : EncoderElement ByteString) : Encoding where
  data := element.data
  size := element.size
  encodedSize := 0

def overwrite (data : ByteString) (offset : Nat) (bytes : ByteString) : ByteString :=
  data.take offset ++ bytes ++ data.drop (offset + bytes.length)

def slice (data : ByteString) (offset length : Nat) : ByteString := (data.drop offset).take length

def copied (t : AudioTrack) (e : Encoding) (length : Int) : AudioTrack :=
  { t with
    data := overwrite t.data t.remainedAudioSize.toNat
      (slice e.data e.encodedSize.toNat length.toNat)
    copies := t.copies ++
      [{ target := t.remainedAudioSize
         source := e.encodedSize
         length := length
         size := e.size }] }

/-- What the first half of an iteration does, and whether the frame is complete. -/
structure Chunk where
  track : AudioTrack
  encoding : Encoding
  completes : Bool

def copyChunk (t : AudioTrack) (e : Encoding) : Chunk :=
  let restFrameSize := t.nbSamples * t.audioBytes - t.remainedAudioSize
  let restDataSize := e.size - e.encodedSize
  if restDataSize ≥ restFrameSize then
    { track := { copied t e restFrameSize with remainedAudioSize := 0 }
      encoding := { e with encodedSize := e.encodedSize + restFrameSize }
      completes := true }
  else
    { track :=
        { copied t e restDataSize with remainedAudioSize := t.remainedAudioSize + restDataSize }
      encoding := e
      completes := false }

def sendFrame (t : AudioTrack) : AudioTrack :=
  { t with
    sent := t.sent ++ [{ pts := t.audioFramePts, data := t.data }]
    audioFramePts := wrapInt (t.audioFramePts + t.nbSamples) }

def implIteration (s : AudioTrack × Encoding) : Pass (AudioTrack × Encoding) AudioTrack :=
  if s.2.encodedSize = s.2.size then .ends s.1
  else
    let chunk := copyChunk s.1 s.2
    if chunk.completes then .again (sendFrame chunk.track, chunk.encoding) else .ends chunk.track

def encodeAudioImpl (fuel : Nat) (t : AudioTrack) (element : EncoderElement ByteString) :
    Option AudioTrack :=
  whileLoop implIteration fuel (t, encodingOf element)

structure AVRational where
  num : Int
  den : Int
  deriving DecidableEq, Repr

/-- Rounded to the nearest, halves away from zero. -/
def avRescaleQ (value : Int) (bq cq : AVRational) : Int :=
  rescale value (bq.num * cq.den) (cq.num * bq.den)

structure Rates where
  audio : AVRational
  video : AVRational
  deriving DecidableEq, Repr

/-- The local of `encodeAudioLoop`, and how many frames it has requested. -/
structure Pacing where
  videoSyncPts : Int
  requested : Nat
  deriving DecidableEq, Repr

/-- What the loop does for the video before it sends an audio frame. -/
def paceVideo (rates : Rates) (isSilent : Bool) (audioFramePts : Int) (pacing : Pacing) : Pacing :=
  let syncPts := avRescaleQ audioFramePts rates.audio rates.video
  if ¬isSilent then
    if syncPts ≠ pacing.videoSyncPts then
      { videoSyncPts := syncPts, requested := pacing.requested + 1 }
    else pacing
  else { pacing with videoSyncPts := syncPts }

structure LoopState where
  track : AudioTrack
  pacing : Pacing
  encoding : Encoding

def loopIteration (rates : Rates) (isSilent : Bool) (s : LoopState) :
    Pass LoopState (AudioTrack × Pacing) :=
  if s.encoding.encodedSize = s.encoding.size then .ends (s.track, s.pacing)
  else
    let chunk := copyChunk s.track s.encoding
    if chunk.completes then
      .again
        { track := sendFrame chunk.track
          pacing := paceVideo rates isSilent chunk.track.audioFramePts s.pacing
          encoding := chunk.encoding }
    else .ends (chunk.track, s.pacing)

/-- The loop on an element that is not resynchronised. Another thread may write
`isSilent` at any time: `silentAt` is what the loop reads for each frame. -/
def encodeElement (rates : Rates) (silentAt : Nat → Bool) (fuel : Nat)
    (s : AudioTrack × Pacing) (element : EncoderElement ByteString) :
    Option (AudioTrack × Pacing) :=
  whileLoop (fun loop => loopIteration rates (silentAt loop.track.sent.length) loop) fuel
    { track := s.1, pacing := s.2, encoding := encodingOf element }

def encodeAllImpl (fuel : Nat) (t : AudioTrack) (elements : List (EncoderElement ByteString)) :
    Option AudioTrack :=
  elements.foldlM (encodeAudioImpl fuel) t

def encodeAll (rates : Rates) (silentAt : Nat → Bool) (fuel : Nat) (s : AudioTrack × Pacing)
    (elements : List (EncoderElement ByteString)) : Option (AudioTrack × Pacing) :=
  elements.foldlM (encodeElement rates silentAt fuel) s

def frameSize (t : AudioTrack) : Int := t.nbSamples * t.audioBytes

def leftOver (t : AudioTrack) : ByteString := t.data.take t.remainedAudioSize.toNat

/-- What the buffer of the frame holds behind those bytes. -/
def behind (t : AudioTrack) : ByteString := t.data.drop (frameSize t).toNat

structure Ready (t : AudioTrack) : Prop where
  positive : 0 < frameSize t
  started : 0 ≤ t.remainedAudioSize
  short : t.remainedAudioSize < frameSize t
  room : frameSize t ≤ t.data.length

def Sized (element : EncoderElement ByteString) : Prop := element.size = element.data.length

/-- The copy begins and ends inside the frame, and inside the element. -/
structure InBounds (frame : Int) (copy : Copy) : Prop where
  nonneg : 0 ≤ copy.length
  target : 0 ≤ copy.target ∧ copy.target < frame ∧ copy.target + copy.length ≤ frame
  source : 0 ≤ copy.source ∧ copy.source + copy.length ≤ copy.size

/-- The frames with the time stamps that they are given one after the other. -/
def stamped (nbSamples pts : Int) : List ByteString → List SentFrame
  | [] => []
  | data :: rest =>
      { pts := pts, data := data } :: stamped nbSamples (wrapInt (pts + nbSamples)) rest

def ptsAfter (nbSamples pts : Int) : Nat → Int
  | 0 => pts
  | count + 1 => ptsAfter nbSamples (wrapInt (pts + nbSamples)) count

/-- From `t` to `after`, `input` was cut into frames behind what was left over. -/
structure Framed (t : AudioTrack) (input : ByteString) (after : AudioTrack) : Prop where
  ready : Ready after
  nbSamples : after.nbSamples = t.nbSamples
  audioBytes : after.audioBytes = t.audioBytes
  behind : behind after = behind t
  frames : ∃ blocks, Cut (frameSize t).toNat (leftOver t ++ input) blocks (leftOver after) ∧
    after.sent = t.sent ++
      stamped t.nbSamples t.audioFramePts (blocks.map fun block => block ++ AudioFraming.behind t) ∧
    after.audioFramePts = ptsAfter t.nbSamples t.audioFramePts blocks.length
  copies : ∃ more, after.copies = t.copies ++ more ∧ ∀ copy ∈ more, InBounds (frameSize t) copy

section Stamps

variable {nbSamples pts : Int}

theorem stamped_append (first second : List ByteString) :
    stamped nbSamples pts (first ++ second) =
      stamped nbSamples pts first ++
        stamped nbSamples (ptsAfter nbSamples pts first.length) second := by
  induction first generalizing pts with
  | nil => rfl
  | cons data rest induction =>
      simp only [List.cons_append, stamped, List.length_cons, ptsAfter]
      rw [induction]

theorem pts_after_add (first second : Nat) :
    ptsAfter nbSamples pts (first + second) =
      ptsAfter nbSamples (ptsAfter nbSamples pts first) second := by
  induction first generalizing pts with
  | zero => rw [Nat.zero_add]; rfl
  | succ first induction =>
      rw [Nat.succ_add]
      exact induction

end Stamps

section Framing

variable {t middle after : AudioTrack}

theorem Framed.frame_size {input : ByteString} (framed : Framed t input after) :
    frameSize after = frameSize t := by
  unfold frameSize
  rw [framed.nbSamples, framed.audioBytes]

theorem framed_refl (ready : Ready t) : Framed t [] t where
  ready := ready
  nbSamples := rfl
  audioBytes := rfl
  behind := rfl
  frames := by
    refine ⟨[], ?_, (List.append_nil _).symm, rfl⟩
    rw [List.append_nil]
    apply cut_short
    have short := ready.short
    have started := ready.started
    unfold leftOver
    rw [List.length_take]
    omega
  copies := ⟨[], (List.append_nil _).symm, nofun⟩

theorem Framed.trans {input more : ByteString} (first : Framed t input middle)
    (second : Framed middle more after) : Framed t (input ++ more) after := by
  have size := first.frame_size
  constructor
  · exact second.ready
  · exact second.nbSamples.trans first.nbSamples
  · exact second.audioBytes.trans first.audioBytes
  · exact second.behind.trans first.behind
  · rcases first.frames with ⟨blocks, cut, sent, pts⟩
    rcases second.frames with ⟨later, laterCut, laterSent, laterPts⟩
    rw [size] at laterCut
    rw [first.behind, first.nbSamples, pts] at laterSent
    rw [first.nbSamples, pts] at laterPts
    refine ⟨blocks ++ later, ?_, ?_, ?_⟩
    · rw [← List.append_assoc]
      exact cut.append laterCut
    · rw [laterSent, sent, List.map_append, stamped_append, List.length_map, List.append_assoc]
    · rw [laterPts, List.length_append, pts_after_add]
  · rcases first.copies with ⟨copies, same, inside⟩
    rcases second.copies with ⟨later, laterSame, laterInside⟩
    rw [size] at laterInside
    refine ⟨copies ++ later, ?_, ?_⟩
    · rw [laterSame, same, List.append_assoc]
    · intro copy member
      rcases List.mem_append.mp member with early | late
      · exact inside copy early
      · exact laterInside copy late

end Framing

section Overwriting

variable {data bytes : ByteString} {offset : Nat}

theorem overwrite_length (inside : offset + bytes.length ≤ data.length) :
    (overwrite data offset bytes).length = data.length := by
  unfold overwrite
  rw [List.length_append, List.length_append, List.length_take, List.length_drop]
  omega

theorem overwrite_take (inside : offset + bytes.length ≤ data.length) :
    (overwrite data offset bytes).take (offset + bytes.length) = data.take offset ++ bytes := by
  unfold overwrite
  apply List.take_left'
  rw [List.length_append, List.length_take]
  omega

theorem overwrite_drop {place : Nat} (inside : offset + bytes.length ≤ data.length)
    (later : offset + bytes.length ≤ place) :
    (overwrite data offset bytes).drop place = data.drop place := by
  unfold overwrite
  have front : (data.take offset ++ bytes).length = offset + bytes.length := by
    rw [List.length_append, List.length_take]
    omega
  rw [List.drop_append, front, List.drop_eq_nil_of_le (by omega), List.nil_append, List.drop_drop]
  congr 1
  omega

theorem slice_length {length : Nat} (inside : offset + length ≤ data.length) :
    (slice data offset length).length = length := by
  unfold slice
  rw [List.length_take, List.length_drop]
  omega

theorem slice_append_drop (length : Nat) :
    slice data offset length ++ data.drop (offset + length) = data.drop offset := by
  unfold slice
  rw [← List.drop_drop]
  exact List.take_append_drop length (data.drop offset)

end Overwriting

section Chunks

variable {t : AudioTrack} {e : Encoding}

structure Under (e : Encoding) : Prop where
  sized : e.size = e.data.length
  started : 0 ≤ e.encodedSize
  unfinished : e.encodedSize ≤ e.size

def unread (e : Encoding) : ByteString := e.data.drop e.encodedSize.toNat

def piece (e : Encoding) (length : Int) : ByteString :=
  slice e.data e.encodedSize.toNat length.toNat

structure Fits (t : AudioTrack) (e : Encoding) (length : Int) : Prop where
  nonneg : 0 ≤ length
  room : t.remainedAudioSize + length ≤ frameSize t
  bytes : e.encodedSize + length ≤ e.size

theorem piece_length {length : Int} (under : Under e) (fits : Fits t e length) :
    ((piece e length).length : Int) = length := by
  have sized := under.sized
  have started := under.started
  have nonneg := fits.nonneg
  have bytes := fits.bytes
  unfold piece
  rw [slice_length (by omega)]
  exact Int.toNat_of_nonneg nonneg

theorem copied_data {length : Int} (ready : Ready t) (under : Under e) (fits : Fits t e length) :
    (copied t e length).data.length = t.data.length ∧
      (copied t e length).data.take (t.remainedAudioSize + length).toNat =
        leftOver t ++ piece e length ∧
      (copied t e length).data.drop (frameSize t).toNat = behind t := by
  have counted := piece_length under fits
  have started := ready.started
  have room := ready.room
  have fitsRoom := fits.room
  have nonneg := fits.nonneg
  have inside : t.remainedAudioSize.toNat + (piece e length).length ≤ t.data.length := by omega
  refine ⟨overwrite_length inside, ?_, ?_⟩
  · have place : (t.remainedAudioSize + length).toNat =
        t.remainedAudioSize.toNat + (piece e length).length := by omega
    rw [place]
    exact overwrite_take inside
  · have later : t.remainedAudioSize.toNat + (piece e length).length ≤ (frameSize t).toNat := by
      omega
    exact overwrite_drop inside later

theorem copied_in_bounds {length : Int} (ready : Ready t) (under : Under e)
    (fits : Fits t e length) :
    ∃ more, (copied t e length).copies = t.copies ++ more ∧
      ∀ copy ∈ more, InBounds (frameSize t) copy := by
  refine ⟨_, rfl, ?_⟩
  intro copy member
  rw [List.mem_singleton.mp member]
  exact ⟨fits.nonneg, ⟨ready.started, ready.short, fits.room⟩, ⟨under.started, fits.bytes⟩⟩

theorem framed_completes (ready : Ready t) (under : Under e)
    (fits : Fits t e (frameSize t - t.remainedAudioSize)) :
    Framed t (piece e (frameSize t - t.remainedAudioSize))
      (sendFrame
        { copied t e (frameSize t - t.remainedAudioSize) with remainedAudioSize := 0 }) := by
  rcases copied_data ready under fits with ⟨counted, front, back⟩
  have positive := ready.positive
  have full : t.remainedAudioSize + (frameSize t - t.remainedAudioSize) = frameSize t := by omega
  rw [full] at front
  constructor
  · refine ⟨positive, Int.le_refl 0, positive, ?_⟩
    have room := ready.room
    rw [← counted] at room
    exact room
  · rfl
  · rfl
  · exact back
  · have whole : (copied t e (frameSize t - t.remainedAudioSize)).data =
        (leftOver t ++ piece e (frameSize t - t.remainedAudioSize)) ++ behind t := by
      rw [← front, ← back]
      exact (List.take_append_drop _ _).symm
    refine ⟨[leftOver t ++ piece e (frameSize t - t.remainedAudioSize)], ?_, ?_, rfl⟩
    · have sized : (leftOver t ++ piece e (frameSize t - t.remainedAudioSize)).length =
          (frameSize t).toNat := by
        have room := ready.room
        rw [← front, List.length_take, counted]
        omega
      have nothing : Cut (frameSize t).toNat ([] : ByteString) [] [] := by
        apply cut_short
        rw [List.length_nil]
        omega
      have cut := nothing.cons sized
      rw [List.append_nil] at cut
      exact cut
    · simp only [sendFrame, copied, List.map_cons, List.map_nil, stamped] at whole ⊢
      rw [whole]
  · exact copied_in_bounds ready under fits

theorem framed_leaves {length : Int} (ready : Ready t) (under : Under e) (fits : Fits t e length)
    (incomplete : t.remainedAudioSize + length < frameSize t) :
    Framed t (piece e length)
      { copied t e length with remainedAudioSize := t.remainedAudioSize + length } := by
  rcases copied_data ready under fits with ⟨counted, front, back⟩
  have started := ready.started
  have nonneg := fits.nonneg
  constructor
  · refine ⟨ready.positive, ?_, incomplete, ?_⟩
    · dsimp only
      omega
    · have room := ready.room
      rw [← counted] at room
      exact room
  · rfl
  · rfl
  · exact back
  · refine ⟨[], ?_, (List.append_nil _).symm, rfl⟩
    rw [← front]
    apply cut_short
    rw [List.length_take]
    omega
  · exact copied_in_bounds ready under fits

/-- What an iteration can do: nothing more is to be read, the frame is completed
and sent, or the element ends inside the frame. -/
theorem impl_iteration_cases (t : AudioTrack) (e : Encoding) :
    (e.encodedSize = e.size ∧ implIteration (t, e) = .ends t) ∨
    (e.encodedSize ≠ e.size ∧ frameSize t - t.remainedAudioSize ≤ e.size - e.encodedSize ∧
      implIteration (t, e) = .again
        (sendFrame { copied t e (frameSize t - t.remainedAudioSize) with remainedAudioSize := 0 },
          { e with encodedSize := e.encodedSize + (frameSize t - t.remainedAudioSize) })) ∨
    (e.encodedSize ≠ e.size ∧ e.size - e.encodedSize < frameSize t - t.remainedAudioSize ∧
      implIteration (t, e) = .ends
        { copied t e (e.size - e.encodedSize) with
          remainedAudioSize := t.remainedAudioSize + (e.size - e.encodedSize) }) := by
  by_cases done : e.encodedSize = e.size
  · apply Or.inl
    refine ⟨done, ?_⟩
    unfold implIteration
    rw [if_pos done]
  · apply Or.inr
    by_cases fills : frameSize t - t.remainedAudioSize ≤ e.size - e.encodedSize
    · apply Or.inl
      refine ⟨done, fills, ?_⟩
      have chunk := fills
      unfold frameSize at chunk
      simp only [implIteration, copyChunk, if_neg done, ge_iff_le, if_pos chunk, if_true, frameSize]
    · apply Or.inr
      refine ⟨done, by omega, ?_⟩
      have chunk := fills
      unfold frameSize at chunk
      simp only [implIteration, copyChunk, if_neg done, ge_iff_le, if_neg chunk,
        Bool.false_eq_true, if_false]

/-- Iteration by iteration, the rest of the element is cut into frames. -/
theorem iterations_framed {fuel : Nat} (ready : Ready t) (under : Under e)
    (enough : e.size - e.encodedSize < fuel) :
    ∃ after, whileLoop implIteration fuel (t, e) = some after ∧ Framed t (unread e) after := by
  apply while_loop_total (fun s : AudioTrack × Encoding => Ready s.1 ∧ Under s.2)
    (fun s => (s.2.size - s.2.encodedSize).toNat) (fun s after => Framed s.1 (unread s.2) after)
  · rintro ⟨track, rest⟩ after ⟨trackReady, restUnder⟩ ends
    have unfinished : rest.encodedSize ≤ rest.size := restUnder.unfinished
    have sized : rest.size = rest.data.length := restUnder.sized
    have started : 0 ≤ rest.encodedSize := restUnder.started
    rcases impl_iteration_cases track rest with ⟨done, pass⟩ | ⟨_, _, pass⟩ | ⟨_, leaves, pass⟩
    · rw [pass] at ends
      cases ends
      have nothing : unread rest = [] := List.drop_eq_nil_of_le (by omega)
      rw [nothing]
      exact framed_refl trackReady
    · rw [pass] at ends
      cases ends
    · rw [pass] at ends
      cases ends
      have fits : Fits track rest (rest.size - rest.encodedSize) :=
        ⟨by omega, by omega, by omega⟩
      have all : piece rest (rest.size - rest.encodedSize) = unread rest := by
        apply List.take_of_length_le
        rw [List.length_drop]
        omega
      have incomplete : track.remainedAudioSize + (rest.size - rest.encodedSize) <
          frameSize track := by
        omega
      rw [← all]
      exact framed_leaves trackReady restUnder fits incomplete
  · rintro ⟨track, rest⟩ next ⟨trackReady, restUnder⟩ again
    have started : 0 ≤ rest.encodedSize := restUnder.started
    have short : track.remainedAudioSize < frameSize track := trackReady.short
    rcases impl_iteration_cases track rest with ⟨_, pass⟩ | ⟨_, fills, pass⟩ | ⟨_, _, pass⟩
    · rw [pass] at again
      cases again
    · rw [pass] at again
      cases again
      have fits : Fits track rest (frameSize track - track.remainedAudioSize) :=
        ⟨by omega, by omega, by omega⟩
      have framed := framed_completes trackReady restUnder fits
      refine ⟨⟨framed.ready, restUnder.sized, ?_, ?_⟩, ?_, ?_⟩
      · dsimp only
        omega
      · dsimp only
        omega
      · dsimp only
        omega
      · intro out later
        have pieces : piece rest (frameSize track - track.remainedAudioSize) ++
            unread { rest with encodedSize :=
              rest.encodedSize + (frameSize track - track.remainedAudioSize) } = unread rest := by
          have place : (rest.encodedSize + (frameSize track - track.remainedAudioSize)).toNat =
              rest.encodedSize.toNat + (frameSize track - track.remainedAudioSize).toNat := by
            omega
          unfold piece unread
          rw [place]
          exact slice_append_drop _
        rw [← pieces]
        exact framed.trans later
    · rw [pass] at again
      cases again
  · exact ⟨ready, under⟩
  · have unfinished := under.unfinished
    dsimp only
    omega

end Chunks

section Elements

variable {t : AudioTrack}

theorem encode_audio_impl_framed {fuel : Nat} {element : EncoderElement ByteString}
    (ready : Ready t) (sized : Sized element) (enough : element.size < fuel) :
    ∃ after, encodeAudioImpl fuel t element = some after ∧ Framed t element.data after := by
  have under : Under (encodingOf element) := by
    refine ⟨sized, Int.le_refl 0, ?_⟩
    have bytes : element.size = element.data.length := sized
    simp only [encodingOf]
    omega
  have left : (encodingOf element).size - (encodingOf element).encodedSize < fuel := by
    simp only [encodingOf]
    omega
  exact iterations_framed ready under left

theorem encode_all_impl_framed {fuel : Nat} {elements : List (EncoderElement ByteString)}
    (ready : Ready t) (sized : ∀ element ∈ elements, Sized element)
    (enough : ∀ element ∈ elements, element.size < fuel) :
    ∃ after, encodeAllImpl fuel t elements = some after ∧
      Framed t (elements.flatMap EncoderElement.data) after := by
  induction elements generalizing t with
  | nil => exact ⟨t, rfl, framed_refl ready⟩
  | cons element rest induction =>
      rcases encode_audio_impl_framed ready (sized element List.mem_cons_self)
        (enough element List.mem_cons_self) with ⟨middle, first, framed⟩
      rcases induction framed.ready
        (fun other member => sized other (List.mem_cons_of_mem element member))
        (fun other member => enough other (List.mem_cons_of_mem element member)) with
        ⟨after, second, later⟩
      refine ⟨after, ?_, ?_⟩
      · simp only [encodeAllImpl, List.foldlM_cons, first]
        exact second
      · rw [List.flatMap_cons]
        exact framed.trans later

/-- The loop of `encodeAudioLoop` does to the frames what that of `encodeAudioImpl` does. -/
theorem encode_element_track (rates : Rates) (silentAt : Nat → Bool) (fuel : Nat)
    (s : AudioTrack × Pacing) (element : EncoderElement ByteString) :
    (encodeElement rates silentAt fuel s element).map Prod.fst =
      encodeAudioImpl fuel s.1 element := by
  have same : ∀ loop : LoopState,
      (loopIteration rates (silentAt loop.track.sent.length) loop).map
        (fun loop => (loop.track, loop.encoding)) Prod.fst =
      implIteration (loop.track, loop.encoding) := by
    intro loop
    unfold loopIteration implIteration
    dsimp only
    split_ifs <;> rfl
  exact while_loop_view same fuel
    { track := s.1, pacing := s.2, encoding := encodingOf element }

theorem encode_all_track (rates : Rates) (silentAt : Nat → Bool) (fuel : Nat)
    (s : AudioTrack × Pacing) (elements : List (EncoderElement ByteString)) :
    (encodeAll rates silentAt fuel s elements).map Prod.fst =
      encodeAllImpl fuel s.1 elements := by
  induction elements generalizing s with
  | nil => rfl
  | cons element rest induction =>
      have first := encode_element_track rates silentAt fuel s element
      unfold encodeAll encodeAllImpl
      rw [List.foldlM_cons, List.foldlM_cons, ← first]
      cases encodeElement rates silentAt fuel s element with
      | none => rfl
      | some middle => exact induction middle

/-- The frames and what is left over depend on the stream and not on its elements. -/
theorem Framed.same_stream {after other : AudioTrack} {input : ByteString}
    (framed : Framed t input after) (again : Framed t input other) :
    other.sent = after.sent ∧ other.audioFramePts = after.audioFramePts ∧
      leftOver other = leftOver after := by
  rcases framed.frames with ⟨blocks, cut, sent, pts⟩
  rcases again.frames with ⟨otherBlocks, otherCut, otherSent, otherPts⟩
  rcases cut_unique cut otherCut with ⟨sameBlocks, sameRest⟩
  refine ⟨?_, ?_, sameRest.symm⟩
  · rw [otherSent, sent, sameBlocks]
  · rw [otherPts, pts, sameBlocks]

/-- Both loops end on every element and cut the stream of elements into frames,
with every copy in bounds; elements of the same bytes cut elsewhere give the same frames. -/
theorem audio_framed {fuel : Nat} {elements others : List (EncoderElement ByteString)}
    (ready : Ready t) (sized : ∀ element ∈ elements ++ others, Sized element)
    (enough : ∀ element ∈ elements ++ others, element.size < fuel)
    (sameBytes : others.flatMap EncoderElement.data = elements.flatMap EncoderElement.data)
    (rates : Rates) (silentAt : Nat → Bool) (pacing : Pacing) :
    ∃ after, Framed t (elements.flatMap EncoderElement.data) after ∧
      encodeAllImpl fuel t elements = some after ∧
      (∃ paced, encodeAll rates silentAt fuel (t, pacing) elements = some (after, paced)) ∧
      ∃ otherAfter, encodeAllImpl fuel t others = some otherAfter ∧
        otherAfter.sent = after.sent ∧ otherAfter.audioFramePts = after.audioFramePts ∧
        leftOver otherAfter = leftOver after := by
  rcases encode_all_impl_framed ready
    (fun element member => sized element (List.mem_append_left others member))
    (fun element member => enough element (List.mem_append_left others member)) with
    ⟨after, result, framed⟩
  rcases encode_all_impl_framed ready
    (fun element member => sized element (List.mem_append_right elements member))
    (fun element member => enough element (List.mem_append_right elements member)) with
    ⟨otherAfter, otherResult, again⟩
  rw [sameBytes] at again
  refine ⟨after, framed, result, ?_, otherAfter, otherResult, framed.same_stream again⟩
  have track := encode_all_track rates silentAt fuel (t, pacing) elements
  rw [result] at track
  rcases Option.map_eq_some_iff.mp track with ⟨⟨sameTrack, paced⟩, both, same⟩
  refine ⟨paced, ?_⟩
  rw [both]
  exact congrArg (fun track => some (track, paced)) same

def oneByteLeft : AudioTrack where
  nbSamples := 2
  audioBytes := 2
  data := [7, 0, 0, 0]
  remainedAudioSize := 1
  audioFramePts := 0
  sent := []
  copies := []

def audioElement (data : ByteString) : EncoderElement ByteString where
  data := data
  size := data.length
  fake := false

def twoElements : List (EncoderElement ByteString) :=
  [audioElement [1, 2], audioElement [3, 4, 5, 6]]

def oneElement : List (EncoderElement ByteString) := [audioElement [1, 2, 3, 4, 5, 6]]

theorem audio_framed_two_cuts :
    ∃ after, Framed oneByteLeft (twoElements.flatMap EncoderElement.data) after ∧
      encodeAllImpl 8 oneByteLeft twoElements = some after ∧
      (∃ paced, encodeAll { audio := ⟨1, 48000⟩, video := ⟨1, 25⟩ } (fun _ => false) 8
        (oneByteLeft, { videoSyncPts := 0, requested := 0 }) twoElements = some (after, paced)) ∧
      ∃ otherAfter, encodeAllImpl 8 oneByteLeft oneElement = some otherAfter ∧
        otherAfter.sent = after.sent ∧ otherAfter.audioFramePts = after.audioFramePts ∧
        leftOver otherAfter = leftOver after := by
  have ready : Ready oneByteLeft := ⟨by decide, by decide, by decide, by decide⟩
  have sized : ∀ element ∈ twoElements ++ oneElement, Sized element := by
    unfold Sized
    decide
  exact audio_framed ready sized (by decide) rfl _ _ _

end Elements

end Collabo.AudioFraming
