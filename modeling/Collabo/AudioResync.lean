import Collabo.AudioFraming
import Collabo.Library.ByteBuffer
import Collabo.Library.PartialRuns
import Mathlib.Algebra.Order.Floor.Ring
import Mathlib.Data.Rat.Floor

/-!
# The audio loop beside the video loop

`encodeAudioLoop` of a session with both streams, statement by statement, while
the video loop sends frames and another thread changes `isSilent`. An element
that comes after a change may be resynchronised: it is copied into a new one
whose size has the difference of the two clocks in it, and silence is filled in
behind the copy. The codecs and the muxer succeed.
-/

namespace Collabo.AudioResync

open ByteBuffer PartialRuns WhileLoops Collabo.CInt Collabo.CString Collabo.EncoderQueue
  Collabo.AudioFraming

set_option autoImplicit false

/-- Where the loop stands: before `dequeue`, before the statements that
resynchronise an element, or in the inner loop. -/
inductive LoopPlace where
  | dequeues
  | resyncs (element : EncoderElement ByteString)
  | encodes (encoding : Encoding)
  deriving DecidableEq, Repr

/-- `silent` is the local of the loop. -/
structure AudioLoop where
  isSilent : Bool
  videoFramePts : Int
  silent : Bool
  track : AudioTrack
  pacing : Pacing
  place : LoopPlace
  deriving DecidableEq, Repr

/-- `dequeues` has what `audioCQ` gives, and `resyncs` what the memory of the new
element held before. -/
inductive LoopEvent where
  | setsSilent (silent : Bool)
  | sendsVideo
  | dequeues (element : EncoderElement ByteString)
  | resyncs (heap : Nat → UInt8)
  | encodes

def loopBegins (track : AudioTrack) (isSilent : Bool) : AudioLoop where
  isSilent := isSilent
  videoFramePts := 0
  silent := isSilent
  track := track
  pacing := { videoSyncPts := 0, requested := 0 }
  place := .dequeues

/-- The conversion to an `int`. -/
def truncated (value : ℚ) : Int := if value < 0 then ⌈value⌉ else ⌊value⌋

/-- The times of the two clocks are exact. -/
def syncDiff (rates : Rates) (loop : AudioLoop) : ℚ :=
  let videoTime : ℚ := loop.videoFramePts / rates.video.den
  let audioTime : ℚ := loop.track.audioFramePts / rates.audio.den
  videoTime - audioTime

def bytesPerSecond (rates : Rates) (loop : AudioLoop) : Int :=
  loop.track.audioBytes * rates.audio.den

def addedBytes (rates : Rates) (loop : AudioLoop) : ℚ :=
  bytesPerSecond rates loop * syncDiff rates loop

/-- Undefined where the product or the sum does not fit an `int`. -/
def resyncSize (rates : Rates) (loop : AudioLoop) (size : Int) : Option Int :=
  if FitsInt (bytesPerSecond rates loop) then
    let sum := truncated (size + addedBytes rates loop)
    if FitsInt sum then some sum else none
  else none

structure Refilled where
  size : Int
  writes : List (Write UInt8)

/-- `new` throws where the size is negative. -/
def refilled (rates : Rates) (loop : AudioLoop) (element : EncoderElement ByteString) :
    Option Refilled :=
  (resyncSize rates loop element.size).bind fun size =>
    if size < 0 then none
    else
      some
        { size := size
          writes :=
            [{ place := 0, items := element.data.take (sizeT element.size) },
              { place := element.size.toNat
                items := List.replicate (sizeT (size - element.size)) 0 }] }

def refilledBytes (heap : Nat → UInt8) (r : Refilled) : ByteString :=
  readOut (contents heap r.writes) r.size.toNat

/-- The loop does not get past a write outside the new element. -/
def resynchronised (rates : Rates) (loop : AudioLoop) (heap : Nat → UInt8)
    (element : EncoderElement ByteString) : Option AudioLoop :=
  (refilled rates loop element).bind fun r =>
    if Inside r.size.toNat r.writes then
      some
        { loop with
          silent := loop.isSilent
          place := .encodes { data := refilledBytes heap r, size := r.size, encodedSize := 0 } }
    else none

def placeOf (loop : AudioLoop) (element : EncoderElement ByteString) : LoopPlace :=
  if loop.silent ≠ loop.isSilent ∧ element.fake ≠ loop.isSilent then .resyncs element
  else .encodes (encodingOf element)

def encodes (rates : Rates) (loop : AudioLoop) (encoding : Encoding) : AudioLoop :=
  match loopIteration rates loop.isSilent
      { track := loop.track, pacing := loop.pacing, encoding := encoding } with
  | .again s => { loop with track := s.track, pacing := s.pacing, place := .encodes s.encoding }
  | .ends s => { loop with track := s.1, pacing := s.2, place := .dequeues }

def step (rates : Rates) (loop : AudioLoop) : LoopEvent → Option AudioLoop
  | .setsSilent silent => some { loop with isSilent := silent }
  | .sendsVideo => some { loop with videoFramePts := wrapInt (loop.videoFramePts + 1) }
  | .dequeues element =>
      match loop.place with
      | .dequeues => some { loop with place := placeOf loop element }
      | _ => none
  | .resyncs heap =>
      match loop.place with
      | .resyncs element => resynchronised rates loop heap element
      | _ => none
  | .encodes =>
      match loop.place with
      | .encodes encoding => some (encodes rates loop encoding)
      | _ => none

/-- The dequeued element owns as many bytes as it says. -/
def Legal (_ : AudioLoop) : LoopEvent → Prop
  | .dequeues element => Sized element
  | _ => True

/-- The new element is the old one with zeros behind it, and both writes stay inside. -/
structure Lengthened (rates : Rates) (loop : AudioLoop) (element : EncoderElement ByteString)
    (heap : Nat → UInt8) (r : Refilled) : Prop where
  made : refilled rates loop element = some r
  longer : element.size ≤ r.size
  inside : Inside r.size.toNat r.writes
  bytes : refilledBytes heap r =
    element.data ++ List.replicate (r.size - element.size).toNat 0

def AddsSilence (rates : Rates) (loop : AudioLoop) : LoopEvent → Prop
  | .resyncs heap =>
      ∀ element, loop.place = .resyncs element → ∃ r, Lengthened rates loop element heap r
  | _ => True

/-- The video clock is not behind the audio clock; or the element is empty and the
difference is less than a byte. -/
def VideoNotBehind (rates : Rates) (loop : AudioLoop) (size : Int) : Prop :=
  0 ≤ addedBytes rates loop ∨ (size = 0 ∧ -1 < addedBytes rates loop)

/-- Besides, the sizes that are computed fit an `int`. -/
def ResyncsInTime (rates : Rates) (loop : AudioLoop) : LoopEvent → Prop
  | .resyncs _ =>
      ∀ element, loop.place = .resyncs element →
        FitsInt (bytesPerSecond rates loop) ∧
          element.size + addedBytes rates loop < 2 ^ 31 ∧
          VideoNotBehind rates loop element.size
  | _ => True

section Sizes

theorem truncated_ge_iff {size : Int} {added : ℚ} (nonneg : 0 ≤ size) :
    size ≤ truncated (size + added) ↔ 0 ≤ added ∨ (size = 0 ∧ -1 < added) := by
  have nonnegRat : (0 : ℚ) ≤ size := by exact_mod_cast nonneg
  unfold truncated
  split_ifs with negative
  · rw [Int.le_ceil_iff]
    constructor
    · intro lower
      have small : (size : ℚ) < 1 := by linarith
      have zero : size = 0 := by
        have smallInt : size < 1 := by exact_mod_cast small
        omega
      refine .inr ⟨zero, ?_⟩
      rw [zero] at lower
      push_cast at lower
      linarith
    · rintro (ahead | ⟨zero, close⟩)
      · linarith
      · rw [zero]
        push_cast
        linarith
  · rw [Int.le_floor]
    constructor
    · intro lower
      exact .inl (by linarith)
    · rintro (ahead | ⟨zero, close⟩)
      · linarith
      · rw [zero] at negative ⊢
        push_cast at negative ⊢
        linarith

theorem truncated_lt_iff {size : Int} {added : ℚ} :
    truncated (size + added) < 2 ^ 31 ↔ size + added < 2 ^ 31 := by
  unfold truncated
  split_ifs with negative
  · have small : (⌈(size : ℚ) + added⌉ : Int) ≤ 0 := by
      apply Int.ceil_le.mpr
      push_cast
      linarith
    constructor
    · intro _
      linarith
    · intro _
      omega
  · rw [Int.floor_lt]
    push_cast
    exact Iff.rfl

variable {rates : Rates} {loop : AudioLoop}

theorem resync_size_iff {size sum : Int} :
    resyncSize rates loop size = some sum ↔
      FitsInt (bytesPerSecond rates loop) ∧ sum = truncated (size + addedBytes rates loop) ∧
        FitsInt sum := by
  unfold resyncSize
  dsimp only
  split_ifs with product whole
  · constructor
    · intro same
      cases same
      exact ⟨product, rfl, whole⟩
    · rintro ⟨_, same, _⟩
      rw [same]
  · constructor
    · intro same
      cases same
    · rintro ⟨_, same, fits⟩
      rw [same] at fits
      exact absurd fits whole
  · constructor
    · intro same
      cases same
    · rintro ⟨fits, _, _⟩
      exact absurd fits product

theorem size_t_of_int {value : Int} (nonneg : 0 ≤ value) (small : value < 2 ^ 31) :
    sizeT value = value.toNat := by
  unfold sizeT
  rw [Int.emod_eq_of_lt nonneg (by omega)]

/-- Where the new size is not the smaller one, the writes lie one behind the other
and fill the new element. -/
theorem refilled_lengthened {element : EncoderElement ByteString} {sum : Int}
    (sized : Sized element) (heap : Nat → UInt8)
    (made : resyncSize rates loop element.size = some sum) (longer : element.size ≤ sum) :
    ∃ r, Lengthened rates loop element heap r := by
  have bytes : element.size = element.data.length := sized
  rcases resync_size_iff.mp made with ⟨_, _, _, small⟩
  have whole : element.data.take (sizeT element.size) = element.data := by
    rw [size_t_of_int (by omega) (by omega)]
    exact List.take_of_length_le (by omega)
  let zeros := List.replicate (sizeT (sum - element.size)) (0 : UInt8)
  have filled : sizeT (sum - element.size) = (sum - element.size).toNat :=
    size_t_of_int (by omega) (by omega)
  have laid : laidOut 0 [element.data, zeros] =
      [{ place := 0, items := element.data.take (sizeT element.size) },
        { place := element.size.toNat, items := zeros }] := by
    rw [whole, bytes]
    simp only [laidOut, Nat.zero_add, Int.toNat_natCast]
  have length : [element.data, zeros].flatten.length = sum.toNat := by
    simp only [List.flatten_cons, List.flatten_nil, List.append_nil, List.length_append, zeros,
      List.length_replicate, filled]
    omega
  have inside := @laid_out_inside UInt8 0 [element.data, zeros]
  have contained := read_out_laid_out heap [element.data, zeros] 0
  rw [Nat.zero_add, length] at inside
  rw [Nat.add_zero, length] at contained
  rw [laid] at inside contained
  refine ⟨{ size := sum, writes := _ }, ?_, longer, inside, ?_⟩
  · unfold refilled
    rw [made]
    exact if_neg (by omega)
  · refine contained.trans ?_
    simp only [List.flatten_cons, List.flatten_nil, List.append_nil, zeros, filled, readOut,
      List.range_zero, List.map_nil]

end Sizes

section Resyncs

variable {rates : Rates} {loop : AudioLoop}

theorem lengthened_iff {element : EncoderElement ByteString} (sized : Sized element)
    (heap : Nat → UInt8) :
    (∃ r, Lengthened rates loop element heap r) ↔
      FitsInt (bytesPerSecond rates loop) ∧ element.size + addedBytes rates loop < 2 ^ 31 ∧
        VideoNotBehind rates loop element.size := by
  have nonneg : 0 ≤ element.size := by
    have bytes : element.size = element.data.length := sized
    omega
  constructor
  · rintro ⟨r, made, longer, _, _⟩
    rcases Option.bind_eq_some_iff.mp made with ⟨sum, computed, refills⟩
    rcases resync_size_iff.mp computed with ⟨product, same, fits⟩
    split_ifs at refills
    cases refills
    rw [same] at longer fits
    have ahead := (truncated_ge_iff nonneg).mp longer
    exact ⟨product, truncated_lt_iff.mp fits.2, ahead⟩
  · rintro ⟨product, small, ahead⟩
    have longer := (truncated_ge_iff nonneg).mpr ahead
    have fits : FitsInt (truncated (element.size + addedBytes rates loop)) :=
      ⟨by omega, truncated_lt_iff.mpr small⟩
    exact refilled_lengthened sized heap (resync_size_iff.mpr ⟨product, rfl, fits⟩) longer

def Waiting (loop : AudioLoop) : Prop := ∀ element, loop.place = .resyncs element → Sized element

theorem adds_silence_iff (waiting : Waiting loop) (event : LoopEvent) :
    AddsSilence rates loop event ↔ ResyncsInTime rates loop event := by
  cases event with
  | resyncs heap =>
      constructor
      · intro adds element stands
        exact (lengthened_iff (waiting element stands) heap).mp (adds element stands)
      · intro inTime element stands
        exact (lengthened_iff (waiting element stands) heap).mpr (inTime element stands)
  | setsSilent silent => exact Iff.rfl
  | sendsVideo => exact Iff.rfl
  | dequeues element => exact Iff.rfl
  | encodes => exact Iff.rfl

theorem step_cases {event : LoopEvent} {following : AudioLoop}
    (stepped : step rates loop event = some following) :
    (∃ silent, event = .setsSilent silent ∧ following = { loop with isSilent := silent }) ∨
    (event = .sendsVideo ∧
      following = { loop with videoFramePts := wrapInt (loop.videoFramePts + 1) }) ∨
    (∃ element, event = .dequeues element ∧ loop.place = .dequeues ∧
      following = { loop with place := placeOf loop element }) ∨
    (∃ heap element r, event = .resyncs heap ∧ loop.place = .resyncs element ∧
      refilled rates loop element = some r ∧
      following = { loop with
        silent := loop.isSilent
        place := .encodes { data := refilledBytes heap r, size := r.size, encodedSize := 0 } }) ∨
    (∃ encoding, event = .encodes ∧ loop.place = .encodes encoding ∧
      following = encodes rates loop encoding) := by
  cases event with
  | setsSilent silent => exact .inl ⟨silent, rfl, (Option.some.inj stepped).symm⟩
  | sendsVideo => exact .inr (.inl ⟨rfl, (Option.some.inj stepped).symm⟩)
  | dequeues element =>
      apply Or.inr ∘ Or.inr ∘ Or.inl
      simp only [step] at stepped
      split at stepped
      · exact ⟨element, rfl, ‹_›, (Option.some.inj stepped).symm⟩
      · cases stepped
  | resyncs heap =>
      apply Or.inr ∘ Or.inr ∘ Or.inr ∘ Or.inl
      simp only [step] at stepped
      split at stepped
      · rcases Option.bind_eq_some_iff.mp stepped with ⟨r, made, refills⟩
        split_ifs at refills
        exact ⟨heap, _, r, rfl, ‹_›, made, (Option.some.inj refills).symm⟩
      · cases stepped
  | encodes =>
      apply Or.inr ∘ Or.inr ∘ Or.inr ∘ Or.inr
      simp only [step] at stepped
      split at stepped
      · exact ⟨_, rfl, ‹_›, (Option.some.inj stepped).symm⟩
      · cases stepped

theorem encodes_place (rates : Rates) (loop : AudioLoop) (encoding : Encoding)
    (element : EncoderElement ByteString) :
    (encodes rates loop encoding).place ≠ .resyncs element := by
  unfold encodes
  split <;> nofun

theorem waiting_step {event : LoopEvent} {following : AudioLoop} (waiting : Waiting loop)
    (legal : Legal loop event) (stepped : step rates loop event = some following) :
    Waiting following := by
  intro element stands
  rcases step_cases stepped with ⟨_, _, same⟩ | ⟨_, same⟩ | ⟨dequeued, named, _, same⟩ |
    ⟨_, _, _, _, _, _, same⟩ | ⟨encoding, _, _, same⟩
  · rw [same] at stands
    exact waiting element stands
  · rw [same] at stands
    exact waiting element stands
  · rw [same] at stands
    rw [named] at legal
    dsimp only [placeOf] at stands
    split_ifs at stands
    rw [← LoopPlace.resyncs.inj stands]
    exact legal
  · rw [same] at stands
    cases stands
  · rw [same] at stands
    exact absurd stands (encodes_place rates loop encoding element)

end Resyncs

/-- Along a run of the loop, resynchronisations only add silence exactly where each
one comes while the video clock is not behind. -/
theorem adds_silence_along_iff (rates : Rates) {start : AudioLoop} (waiting : Waiting start)
    (events : List LoopEvent) (legal : Along (step rates) Legal start events) :
    Along (step rates) (AddsSilence rates) start events ↔
      Along (step rates) (ResyncsInTime rates) start events :=
  along_iff_of_invariant Legal Waiting
    (fun _ event waits _ => adds_silence_iff waits event)
    (fun _ _ _ waits permitted _ stepped => waiting_step waits permitted stepped) waiting legal

def monoRates : Rates where
  audio := { num := 1, den := 48000 }
  video := { num := 1, den := 25 }

def monoTrack : AudioTrack where
  nbSamples := 1024
  audioBytes := 2
  data := List.replicate 2048 0
  remainedAudioSize := 0
  audioFramePts := 0
  sent := []
  copies := []

def realElement (size : Nat) : EncoderElement ByteString where
  data := List.replicate size 0
  size := size
  fake := false

theorem real_element_sized (size : Nat) : Sized (realElement size) := by
  simp only [Sized, realElement, List.length_replicate]

def silencedAfter (frames : Nat) : List LoopEvent :=
  .dequeues (realElement (frames * 2048)) :: List.replicate (frames + 1) .encodes ++
    [.sendsVideo, .setsSilent true, .dequeues (realElement 2048), .resyncs fun _ => 0]

theorem silenced_legal (frames : Nat) :
    Along (step monoRates) Legal (loopBegins monoTrack false) (silencedAfter frames) := by
  apply along_of_mem
  intro event member state
  simp only [silencedAfter, List.cons_append, List.mem_cons, List.mem_append, List.mem_replicate,
    List.not_mem_nil, or_false] at member
  rcases member with first | ⟨_, later⟩ | later | later | later | later
  · rw [first]
    exact real_element_sized (frames * 2048)
  · rw [later]
    trivial
  · rw [later]
    trivial
  · rw [later]
    trivial
  · rw [later]
    exact real_element_sized 2048
  · rw [later]
    trivial

theorem begins_waiting (track : AudioTrack) (isSilent : Bool) :
    Waiting (loopBegins track isSilent) := nofun

theorem adds_silence_along_iff_one_frame :
    Along (step monoRates) (AddsSilence monoRates) (loopBegins monoTrack false) (silencedAfter 1) ↔
      Along (step monoRates) (ResyncsInTime monoRates) (loopBegins monoTrack false)
        (silencedAfter 1) :=
  adds_silence_along_iff monoRates (begins_waiting monoTrack false) (silencedAfter 1)
    (silenced_legal 1)

/-- After the second frame the audio clock is ahead by 128 samples. -/
theorem two_frames_ahead {loop : AudioLoop} (bytes : loop.track.audioBytes = 2)
    (audio : loop.track.audioFramePts = 2048) (video : loop.videoFramePts = 1) :
    addedBytes monoRates loop = -256 := by
  simp only [addedBytes, bytesPerSecond, syncDiff, monoRates, bytes, audio, video]
  norm_num

theorem silenced_element_shortened :
    ¬Along (step monoRates) (AddsSilence monoRates) (loopBegins monoTrack false)
      (silencedAfter 2) := by
  intro adds
  have audible := (((adds.2 _ rfl).2 _ rfl).2 _ rfl).2 _ rfl
  have stands := (((audible.2 _ rfl).2 _ rfl).2 _ rfl).1
  rcases (lengthened_iff (real_element_sized 2048) _).mp (stands _ rfl) with
    ⟨_, _, ahead | ⟨empty, _⟩⟩
  · rw [two_frames_ahead rfl rfl rfl] at ahead
    norm_num at ahead
  · cases empty

/-- For samples of some size, the added bytes tell which clock is ahead. -/
theorem added_bytes_nonneg_iff {rates : Rates} {loop : AudioLoop}
    (positive : 0 < bytesPerSecond rates loop) :
    0 ≤ addedBytes rates loop ↔
      (loop.track.audioFramePts : ℚ) / rates.audio.den ≤ loop.videoFramePts / rates.video.den := by
  have factor : (0 : ℚ) < bytesPerSecond rates loop := by exact_mod_cast positive
  unfold addedBytes
  rw [mul_nonneg_iff_of_pos_left factor]
  exact sub_nonneg

end Collabo.AudioResync
