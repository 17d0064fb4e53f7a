import Collabo.AudioResync

/-!
# Video paced by audio

While the session is audible, `encodeAudioLoop` requests a video frame with each
audio frame whose time stamp is in another tick of the video clock than the last
one. A phase begins when the session becomes audible.
-/

namespace Collabo.VideoPacing

open PartialRuns WhileLoops RoundedRescale
open Collabo.CInt Collabo.CString Collabo.EncoderQueue Collabo.AudioFraming Collabo.AudioResync

set_option autoImplicit false

/-- `syncPts` and `requested` are the `videoSyncPts` and the count of requested frames
with which the last audible phase began. -/
structure Phase where
  loop : AudioLoop
  syncPts : Int
  requested : Nat
  deriving DecidableEq, Repr

def phaseBegins (track : AudioTrack) (isSilent : Bool) : Phase where
  loop := loopBegins track isSilent
  syncPts := 0
  requested := 0

def newPhase (loop : AudioLoop) : Phase where
  loop := loop
  syncPts := loop.pacing.videoSyncPts
  requested := loop.pacing.requested

def phaseStep (rates : Rates) (p : Phase) (event : LoopEvent) : Option Phase :=
  (step rates p.loop event).map fun loop =>
    if p.loop.isSilent = true ∧ loop.isSilent = false then newPhase loop
    else { p with loop := loop }

/-- The units of the two clocks: a time stamp of the audio is `audioUnit` of them and
a tick of the video `videoUnit`. -/
def audioUnit (rates : Rates) : Int := rates.audio.num * rates.video.den

def videoUnit (rates : Rates) : Int := rates.video.num * rates.audio.den

/-- With this audio frame, as many video frames have been requested in the phase as
the audio clock has moved on in ticks, and the two clocks are within one tick. -/
structure InStep (rates : Rates) (p : Phase) (frame : SentFrame) : Prop where
  counted : (p.loop.pacing.requested : Int) - p.requested =
    avRescaleQ frame.pts rates.audio rates.video - p.syncPts
  near : |(p.syncPts + (p.loop.pacing.requested - p.requested)) * videoUnit rates -
    frame.pts * audioUnit rates| ≤ videoUnit rates

/-- Each audio frame that is sent while the session is audible is in step. -/
def Paced (rates : Rates) (p : Phase) (event : LoopEvent) : Prop :=
  ∀ following, phaseStep rates p event = some following → p.loop.isSilent = false →
    ∀ frame, following.loop.track.sent = p.loop.track.sent ++ [frame] →
      InStep rates following frame

def SendsFrame (loop : AudioLoop) : LoopEvent → Prop
  | .encodes =>
      ∃ encoding, loop.place = .encodes encoding ∧ encoding.encodedSize ≠ encoding.size ∧
        frameSize loop.track - loop.track.remainedAudioSize ≤ encoding.size - encoding.encodedSize
  | _ => False

/-- A frame that is sent while the session is audible is in the tick of `videoSyncPts`
or in the next one. -/
def OneTickAtMost (rates : Rates) (p : Phase) (event : LoopEvent) : Prop :=
  SendsFrame p.loop event → p.loop.isSilent = false →
    let syncPts := avRescaleQ p.loop.track.audioFramePts rates.audio rates.video
    syncPts = p.loop.pacing.videoSyncPts ∨ syncPts = p.loop.pacing.videoSyncPts + 1

/-- The audio clock does not leave its `int`. -/
def ClockFits (p : Phase) (event : LoopEvent) : Prop :=
  SendsFrame p.loop event → p.loop.track.audioFramePts + p.loop.track.nbSamples < 2 ^ 31

section Frames

variable {rates : Rates} {loop : AudioLoop}

structure Sent (rates : Rates) (loop following : AudioLoop) : Prop where
  sent : ∃ data, following.track.sent =
    loop.track.sent ++ [{ pts := loop.track.audioFramePts, data := data }]
  pacing : following.pacing =
    paceVideo rates loop.isSilent loop.track.audioFramePts loop.pacing
  audioFramePts : following.track.audioFramePts =
    wrapInt (loop.track.audioFramePts + loop.track.nbSamples)
  nbSamples : following.track.nbSamples = loop.track.nbSamples
  isSilent : following.isSilent = loop.isSilent

structure Unsent (loop following : AudioLoop) : Prop where
  sent : following.track.sent = loop.track.sent
  pacing : following.pacing = loop.pacing
  audioFramePts : following.track.audioFramePts = loop.track.audioFramePts
  nbSamples : following.track.nbSamples = loop.track.nbSamples

theorem encodes_cases {encoding : Encoding} (stands : loop.place = .encodes encoding) :
    (SendsFrame loop .encodes ∧ Sent rates loop (encodes rates loop encoding)) ∨
    (¬SendsFrame loop .encodes ∧ Unsent loop (encodes rates loop encoding)) := by
  by_cases done : encoding.encodedSize = encoding.size
  · apply Or.inr
    refine ⟨?_, ?_⟩
    · rintro ⟨other, same, unfinished, _⟩
      rw [stands] at same
      cases same
      exact unfinished done
    · unfold encodes loopIteration
      rw [if_pos done]
      exact ⟨rfl, rfl, rfl, rfl⟩
  · by_cases fills :
      frameSize loop.track - loop.track.remainedAudioSize ≤ encoding.size - encoding.encodedSize
    · apply Or.inl
      refine ⟨⟨encoding, stands, done, fills⟩, ?_⟩
      have chunk := fills
      unfold frameSize at chunk
      simp only [encodes, loopIteration, if_neg done, copyChunk, ge_iff_le, if_pos chunk, if_true]
      exact ⟨⟨_, rfl⟩, rfl, rfl, rfl, rfl⟩
    · apply Or.inr
      refine ⟨?_, ?_⟩
      · rintro ⟨other, same, _, enough⟩
        rw [stands] at same
        cases same
        exact fills enough
      · have chunk := fills
        unfold frameSize at chunk
        simp only [encodes, loopIteration, if_neg done, copyChunk, ge_iff_le, if_neg chunk,
          Bool.false_eq_true, if_false]
        exact ⟨rfl, rfl, rfl, rfl⟩

/-- An event either sends a frame or leaves the clocks as they are. -/
theorem step_sends {event : LoopEvent} {following : AudioLoop}
    (stepped : step rates loop event = some following) :
    (SendsFrame loop event ∧ Sent rates loop following) ∨
    (¬SendsFrame loop event ∧ Unsent loop following) := by
  rcases step_cases stepped with ⟨_, named, same⟩ | ⟨named, same⟩ | ⟨_, named, _, same⟩ |
    ⟨_, _, _, named, _, _, same⟩ | ⟨encoding, named, stands, same⟩
  · rw [named, same]
    exact .inr ⟨id, rfl, rfl, rfl, rfl⟩
  · rw [named, same]
    exact .inr ⟨id, rfl, rfl, rfl, rfl⟩
  · rw [named, same]
    exact .inr ⟨id, rfl, rfl, rfl, rfl⟩
  · rw [named, same]
    exact .inr ⟨id, rfl, rfl, rfl, rfl⟩
  · rw [named, same]
    exact encodes_cases stands

theorem sends_steps {event : LoopEvent} (sends : SendsFrame loop event) :
    ∃ following, step rates loop event = some following := by
  cases event with
  | encodes =>
      rcases sends with ⟨encoding, stands, _⟩
      refine ⟨encodes rates loop encoding, ?_⟩
      simp only [step, stands]
  | setsSilent silent => exact sends.elim
  | sendsVideo => exact sends.elim
  | dequeues element => exact sends.elim
  | resyncs heap => exact sends.elim

end Frames

section Pacing

variable {rates : Rates} {p : Phase}

theorem pace_video_sync (isSilent : Bool) (pts : Int) (pacing : Pacing) :
    (paceVideo rates isSilent pts pacing).videoSyncPts =
      avRescaleQ pts rates.audio rates.video := by
  unfold paceVideo
  dsimp only
  split_ifs with silent other
  · rfl
  · rfl
  · exact (not_not.mp other).symm

theorem pace_video_requested (pts : Int) (pacing : Pacing) :
    ((paceVideo rates false pts pacing).requested : Int) = pacing.requested +
      if avRescaleQ pts rates.audio rates.video = pacing.videoSyncPts then 0 else 1 := by
  unfold paceVideo
  rw [if_pos Bool.false_ne_true]
  by_cases same : avRescaleQ pts rates.audio rates.video = pacing.videoSyncPts
  · rw [if_neg (not_not.mpr same), if_pos same, Int.add_zero]
  · rw [if_pos same, if_neg same]
    rfl

theorem phase_step_audible {event : LoopEvent} {following : Phase}
    (audible : p.loop.isSilent = false) (stepped : phaseStep rates p event = some following) :
    ∃ loop, step rates p.loop event = some loop ∧ following = { p with loop := loop } := by
  rcases Option.map_eq_some_iff.mp stepped with ⟨loop, next, same⟩
  refine ⟨loop, next, ?_⟩
  rw [← same, if_neg]
  rintro ⟨silent, _⟩
  rw [audible] at silent
  cases silent

def Counted (p : Phase) : Prop :=
  p.loop.isSilent = false →
    (p.loop.pacing.requested : Int) - p.requested = p.loop.pacing.videoSyncPts - p.syncPts

/-- A frame that is sent in an audible phase is in step just when its tick is that of
`videoSyncPts` or the next one. -/
theorem in_step_iff {loop : AudioLoop} {data : ByteString} (positive : 0 < videoUnit rates)
    (counted : Counted p) (audible : p.loop.isSilent = false) (sent : Sent rates p.loop loop) :
    InStep rates { p with loop := loop } { pts := p.loop.track.audioFramePts, data := data } ↔
      avRescaleQ p.loop.track.audioFramePts rates.audio rates.video =
          p.loop.pacing.videoSyncPts ∨
        avRescaleQ p.loop.track.audioFramePts rates.audio rates.video =
          p.loop.pacing.videoSyncPts + 1 := by
  have before := counted audible
  have requested := @pace_video_requested rates p.loop.track.audioFramePts p.loop.pacing
  have pacing := sent.pacing
  rw [audible] at pacing
  rw [← pacing] at requested
  constructor
  · intro inStep
    have counts := inStep.counted
    dsimp only at counts
    rw [requested] at counts
    split_ifs at counts with same
    · exact .inl same
    · exact .inr (by omega)
  · intro tick
    have counts : (loop.pacing.requested : Int) - p.requested =
        avRescaleQ p.loop.track.audioFramePts rates.audio rates.video - p.syncPts := by
      rw [requested]
      split_ifs with same
      · omega
      · omega
    refine ⟨counts, ?_⟩
    have clock : p.syncPts + ((loop.pacing.requested : Int) - p.requested) =
        avRescaleQ p.loop.track.audioFramePts rates.audio rates.video := by omega
    have nearest := @rescale_near (audioUnit rates) (videoUnit rates)
      p.loop.track.audioFramePts positive
    have nonneg := abs_nonneg (avRescaleQ p.loop.track.audioFramePts rates.audio rates.video *
      videoUnit rates - p.loop.track.audioFramePts * audioUnit rates)
    dsimp only
    rw [clock]
    unfold avRescaleQ audioUnit videoUnit at *
    omega

theorem paced_iff (positive : 0 < videoUnit rates) (counted : Counted p) (event : LoopEvent) :
    Paced rates p event ↔ OneTickAtMost rates p event := by
  constructor
  · intro paced sends audible
    rcases @sends_steps rates p.loop event sends with ⟨loop, stepped⟩
    rcases step_sends stepped with ⟨_, sent⟩ | ⟨quiet, _⟩
    · rcases sent.sent with ⟨data, appended⟩
      have next : phaseStep rates p event = some { p with loop := loop } := by
        unfold phaseStep
        rw [stepped, Option.map_some, if_neg]
        rintro ⟨silent, _⟩
        rw [audible] at silent
        cases silent
      exact (in_step_iff positive counted audible sent).mp (paced _ next audible _ appended)
    · exact absurd sends quiet
  · intro tick following stepped audible frame appended
    rcases phase_step_audible audible stepped with ⟨loop, next, same⟩
    rw [same] at appended ⊢
    rcases step_sends next with ⟨sends, sent⟩ | ⟨_, unsent⟩
    · rcases sent.sent with ⟨data, logged⟩
      have frames := List.append_cancel_left (logged.symm.trans appended)
      rw [← List.singleton_inj.mp frames]
      exact (in_step_iff positive counted audible sent).mpr (tick sends audible)
    · have longer := congrArg List.length (unsent.sent.symm.trans appended)
      rw [List.length_append, List.length_singleton] at longer
      omega

theorem counted_step {event : LoopEvent} {following : Phase} (positive : 0 < videoUnit rates)
    (counted : Counted p) (paced : Paced rates p event)
    (stepped : phaseStep rates p event = some following) : Counted following := by
  rcases Option.map_eq_some_iff.mp stepped with ⟨loop, next, same⟩
  split_ifs at same with begins
  · rw [← same]
    intro _
    simp only [newPhase, sub_self]
  · rw [← same]
    intro audibleNow
    rcases step_sends next with ⟨sends, sent⟩ | ⟨_, unsent⟩
    · have audible : p.loop.isSilent = false := sent.isSilent.symm.trans audibleNow
      rcases sent.sent with ⟨data, appended⟩
      have inStep := (@in_step_iff rates p _ data positive counted audible sent).mpr
        ((paced_iff positive counted event).mp paced sends audible)
      have counts := inStep.counted
      dsimp only at counts ⊢
      rw [counts, sent.pacing, pace_video_sync]
    · have audible : p.loop.isSilent = false := by
        cases silent : p.loop.isSilent with
        | false => rfl
        | true => exact absurd ⟨silent, audibleNow⟩ begins
      dsimp only
      rw [unsent.pacing]
      exact counted audible

end Pacing

section ShortFrames

variable {rates : Rates} {p : Phase} {nbSamples : Int}

/-- `videoSyncPts` is the tick of a time stamp that is behind by one frame at most. -/
def Follows (rates : Rates) (nbSamples : Int) (p : Phase) : Prop :=
  p.loop.track.nbSamples = nbSamples ∧
    ∃ last, 0 ≤ last ∧ last ≤ p.loop.track.audioFramePts ∧
      p.loop.track.audioFramePts ≤ last + nbSamples ∧
      p.loop.pacing.videoSyncPts = avRescaleQ last rates.audio rates.video

structure ShortFrames (rates : Rates) (nbSamples : Int) : Prop where
  samples : 0 ≤ nbSamples
  audio : 0 ≤ audioUnit rates
  video : 0 < videoUnit rates
  short : nbSamples * audioUnit rates ≤ videoUnit rates

theorem one_tick_of_follows (short : ShortFrames rates nbSamples)
    (follows : Follows rates nbSamples p) (event : LoopEvent) : OneTickAtMost rates p event := by
  intro _ _
  rcases follows with ⟨_, last, nonneg, lower, upper, sync⟩
  have moved : (p.loop.track.audioFramePts - last) * audioUnit rates ≤ videoUnit rates :=
    (Int.mul_le_mul_of_nonneg_right (by omega) short.audio).trans short.short
  have grows := rescale_mono lower short.audio short.video
  have once := rescale_step nonneg (Int.sub_nonneg_of_le lower) moved short.video
  rw [add_sub_cancel] at once
  dsimp only
  rw [sync]
  unfold avRescaleQ audioUnit videoUnit at *
  omega

theorem follows_step {event : LoopEvent} {following : Phase} (short : ShortFrames rates nbSamples)
    (follows : Follows rates nbSamples p) (fits : ClockFits p event)
    (stepped : phaseStep rates p event = some following) : Follows rates nbSamples following := by
  rcases Option.map_eq_some_iff.mp stepped with ⟨loop, next, same⟩
  have samples := short.samples
  have loopFollows : Follows rates nbSamples { p with loop := loop } := by
    rcases follows with ⟨size, last, nonneg, lower, upper, sync⟩
    rcases step_sends next with ⟨sends, sent⟩ | ⟨_, unsent⟩
    · have bound := fits sends
      have pts : loop.track.audioFramePts = p.loop.track.audioFramePts + nbSamples := by
        rw [sent.audioFramePts, size, wrap_int_fits (by omega) (by omega)]
      refine ⟨sent.nbSamples.trans size, p.loop.track.audioFramePts, by omega, ?_, ?_, ?_⟩
      · dsimp only
        omega
      · exact pts.le
      · exact (congrArg Pacing.videoSyncPts sent.pacing).trans (pace_video_sync _ _ _)
    · refine ⟨unsent.nbSamples.trans size, last, nonneg, ?_, ?_, ?_⟩
      · exact lower.trans_eq unsent.audioFramePts.symm
      · exact unsent.audioFramePts.trans_le upper
      · exact (congrArg Pacing.videoSyncPts unsent.pacing).trans sync
  split_ifs at same
  · rw [← same]
    exact loopFollows
  · rw [← same]
    exact loopFollows

end ShortFrames

/-- Along a run, video is paced by audio exactly where no audible frame skips a tick;
frames that are not longer than a tick skip none, while the audio clock fits. -/
theorem video_paced_along_iff {rates : Rates} (positive : 0 < videoUnit rates)
    (track : AudioTrack) (isSilent : Bool) (events : List LoopEvent) :
    (Along (phaseStep rates) (Paced rates) (phaseBegins track isSilent) events ↔
      Along (phaseStep rates) (OneTickAtMost rates) (phaseBegins track isSilent) events) ∧
    (track.audioFramePts = 0 → ShortFrames rates track.nbSamples →
      Along (phaseStep rates) ClockFits (phaseBegins track isSilent) events →
      Along (phaseStep rates) (OneTickAtMost rates) (phaseBegins track isSilent) events) := by
  constructor
  · have begun : Counted (phaseBegins track isSilent) := fun _ => rfl
    exact along_iff_of_invariant (fun _ _ => True) Counted
      (fun p event counted _ => paced_iff positive counted event)
      (fun p event following counted _ paced stepped =>
        counted_step positive counted paced stepped)
      begun (along_of_forall (fun _ _ => trivial) events)
  · intro zero short fits
    have begun : Follows rates track.nbSamples (phaseBegins track isSilent) := by
      have samples := short.samples
      refine ⟨rfl, 0, Int.le_refl 0, zero.ge, ?_, ?_⟩
      · rw [Int.zero_add]
        exact zero.le.trans samples
      · have unit := short.video
        unfold videoUnit at unit
        have rest : (rates.video.num * rates.audio.den) / 2 /
            (rates.video.num * rates.audio.den) = 0 :=
          Int.ediv_eq_zero_of_lt (by omega) (by omega)
        simp only [phaseBegins, loopBegins, avRescaleQ, rescale, roundedUp, Int.zero_mul,
          Int.zero_add, rest, Int.lt_irrefl, if_false]
    exact along_of_invariant (Follows rates track.nbSamples)
      (fun p event follows _ => one_tick_of_follows short follows event)
      (fun p event following follows bound stepped => follows_step short follows bound stepped)
      begun fits

def twoFrames : List LoopEvent := [.dequeues (realElement 4096), .encodes, .encodes, .encodes]

theorem video_paced_along_iff_two_frames :
    (Along (phaseStep monoRates) (Paced monoRates) (phaseBegins monoTrack false) twoFrames ↔
      Along (phaseStep monoRates) (OneTickAtMost monoRates) (phaseBegins monoTrack false)
        twoFrames) ∧
    (monoTrack.audioFramePts = 0 → ShortFrames monoRates monoTrack.nbSamples →
      Along (phaseStep monoRates) ClockFits (phaseBegins monoTrack false) twoFrames →
      Along (phaseStep monoRates) (OneTickAtMost monoRates) (phaseBegins monoTrack false)
        twoFrames) :=
  video_paced_along_iff (by decide) monoTrack false twoFrames

def slowRates : Rates where
  audio := { num := 1, den := 8000 }
  video := { num := 1, den := 25 }

theorem slow_frames_skip_ticks :
    ¬Along (phaseStep slowRates) (Paced slowRates) (phaseBegins monoTrack false) twoFrames := by
  intro paced
  have second := ((paced.2 _ rfl).2 _ rfl).1
  have counted := (second _ rfl rfl _ rfl).counted
  revert counted
  decide

end Collabo.VideoPacing
