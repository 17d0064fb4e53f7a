import Collabo.AudioFrameLength
import Collabo.AudioResync

/-!
# From the host's audio to the frames

`audio_capture` gives the buffers of the host to `encodeAudio`, and the threads of the
silent branch of `encodeVideoLoop` add silence. Both put their elements into `audioCQ`,
from which `encodeAudioLoop` takes them and cuts them into frames. The session is open
throughout. Each `enqueue` and each `dequeue` is one step, a wait of `dequeue` ends when
the queue holds something, and a run ends at a resynchronisation that would shorten the
element in hand.
-/

namespace Collabo.AudioPath

open PartialRuns WhileLoops Blocks Collabo.CInt Collabo.CString Collabo.EncoderQueue
  Collabo.AudioFraming Collabo.AudioFrameLength Collabo.AudioResync

set_option autoImplicit false

/-- `captured` are the buffers that `audioCQ` has accepted. -/
structure SoundPath where
  audioCQ : EncoderCQ ByteString
  loop : AudioLoop
  captured : List ByteString

/-- `silence` is the `enqueue` of a thread of the silent branch. -/
inductive AudioEvent where
  | captures (buf : ByteString)
  | silence
  | dequeues
  | setsSilent (silent : Bool)
  | sendsVideo
  | resyncs (heap : Nat → UInt8)
  | encodes

def opened (audioCQ : EncoderCQ ByteString) (track : AudioTrack) (isSilent : Bool) : SoundPath where
  audioCQ := audioCQ.start
  loop := loopBegins track isSilent
  captured := []

/-- An element that the queue refuses is not kept. -/
def enqueues (path : SoundPath) (element : EncoderElement ByteString)
    (captured : List ByteString) : SoundPath :=
  let done := path.audioCQ.enqueue element
  { path with
    audioCQ := done.queue
    captured := if done.msg = .success then path.captured ++ captured else path.captured }

def copyData (buf : ByteString) : EncoderElement ByteString where
  data := buf
  size := buf.length
  fake := false

/-- `audioElement` of the silent branch, or `none` where its size has no value. -/
def audioElement (rates : Rates) (loop : AudioLoop) : Option (EncoderElement ByteString) :=
  let size := (bytesPerSecond rates loop).tdiv rates.video.den
  if FitsInt (bytesPerSecond rates loop) ∧ 0 ≤ size then
    some { data := List.replicate size.toNat 0, size := size, fake := true }
  else none

def dequeues (rates : Rates) (path : SoundPath) : Option SoundPath :=
  path.audioCQ.dequeue.bind fun done =>
    done.element.bind fun element =>
      (AudioResync.step rates path.loop (.dequeues element)).map fun loop =>
        { path with audioCQ := done.queue, loop := loop }

def loops (rates : Rates) (path : SoundPath) (event : LoopEvent) : Option SoundPath :=
  (AudioResync.step rates path.loop event).map fun loop => { path with loop := loop }

def step (rates : Rates) (path : SoundPath) : AudioEvent → Option SoundPath
  | .captures buf => some (enqueues path (copyData buf) [buf])
  | .silence =>
      (audioElement rates path.loop).map fun element => enqueues path element []
  | .dequeues => dequeues rates path
  | .setsSilent silent => loops rates path (.setsSilent silent)
  | .sendsVideo => loops rates path .sendsVideo
  | .resyncs heap => loops rates path (.resyncs heap)
  | .encodes => loops rates path .encodes

def FindsSlot (path : SoundPath) : AudioEvent → Prop
  | .captures _ => path.audioCQ.rear < path.audioCQ.maxsize
  | .silence => path.audioCQ.rear < path.audioCQ.maxsize
  | .dequeues => True
  | .setsSilent _ => True
  | .sendsVideo => True
  | .resyncs _ => True
  | .encodes => True

instance (path : SoundPath) : (event : AudioEvent) → Decidable (FindsSlot path event)
  | .captures _ => inferInstanceAs (Decidable (_ < _))
  | .silence => inferInstanceAs (Decidable (_ < _))
  | .dequeues => .isTrue trivial
  | .setsSilent _ => .isTrue trivial
  | .sendsVideo => .isTrue trivial
  | .resyncs _ => .isTrue trivial
  | .encodes => .isTrue trivial

inductive Segment where
  | sound (bytes : ByteString)
  | silence (count : Nat)

def Segment.bytes : Segment → ByteString
  | .sound bytes => bytes
  | .silence count => List.replicate count 0

def Segment.buffers : Segment → List ByteString
  | .sound bytes => [bytes]
  | .silence _ => []

/-- The stream is made of the buffers, whole and in their order, and of silence between
them. -/
def MadeOf (buffers : List ByteString) (stream : ByteString) : Prop :=
  ∃ segments : List Segment,
    segments.flatMap Segment.bytes = stream ∧ segments.flatMap Segment.buffers = buffers

def framedBytes (track : AudioTrack) : ByteString :=
  (track.sent.map fun frame => frame.data.take (frameSize track).toNat).flatten

def inHand : LoopPlace → ByteString
  | .dequeues => []
  | .resyncs element => element.data
  | .encodes encoding => unread encoding

def waitingBytes (q : EncoderCQ ByteString) : ByteString :=
  (q.heldSlots.filterMap id).flatMap EncoderElement.data

/-- Every buffer that was accepted is in the frames, in the frame that is not full yet,
in the hand of the loop or in the queue, whole, once and in its turn. -/
def Carried (path : SoundPath) : Prop :=
  MadeOf path.captured
    (framedBytes path.loop.track ++ leftOver path.loop.track ++ inHand path.loop.place ++
      waitingBytes path.audioCQ)

section Segments

variable {buffers more : List ByteString} {stream rest : ByteString}

theorem made_of_nothing : MadeOf [] [] := ⟨[], rfl, rfl⟩

theorem made_of_append (first : MadeOf buffers stream) (second : MadeOf more rest) :
    MadeOf (buffers ++ more) (stream ++ rest) := by
  obtain ⟨segments, bytes, sounds⟩ := first
  obtain ⟨others, otherBytes, otherSounds⟩ := second
  refine ⟨segments ++ others, ?_, ?_⟩
  · rw [List.flatMap_append, bytes, otherBytes]
  · rw [List.flatMap_append, sounds, otherSounds]

theorem made_of_sound (bytes : ByteString) : MadeOf [bytes] bytes := by
  refine ⟨[.sound bytes], ?_, rfl⟩
  rw [List.flatMap_singleton, Segment.bytes]

theorem made_of_silence (count : Nat) : MadeOf [] (List.replicate count 0) := by
  refine ⟨[.silence count], ?_, rfl⟩
  rw [List.flatMap_singleton, Segment.bytes]

end Segments

def buffersOf (element : EncoderElement ByteString) : List ByteString :=
  if element.fake then [] else [element.data]

/-- The element owns as many bytes as it says, and a fake one is silent. -/
structure Genuine (element : EncoderElement ByteString) : Prop where
  sized : Sized element
  silent : element.fake = true → element.data = List.replicate element.data.length 0

def HandSound : LoopPlace → Prop
  | .dequeues => True
  | .resyncs element => Sized element
  | .encodes encoding => Under encoding

structure Flowing (path : SoundPath) (held : List (EncoderElement ByteString)) : Prop where
  holds : Holds path.audioCQ held
  running : path.audioCQ.isStop = false
  genuine : ∀ element ∈ held, Genuine element
  ready : Ready path.loop.track
  hand : HandSound path.loop.place
  made : ∃ taken, path.captured = taken ++ held.flatMap buffersOf ∧
    MadeOf taken (framedBytes path.loop.track ++ leftOver path.loop.track ++
      inHand path.loop.place)

section Elements

variable {held : List (EncoderElement ByteString)}

theorem copy_genuine (buf : ByteString) : Genuine (copyData buf) where
  sized := rfl
  silent fake := by cases fake

theorem audio_element_genuine {rates : Rates} {loop : AudioLoop}
    {element : EncoderElement ByteString} (made : audioElement rates loop = some element) :
    Genuine element ∧ buffersOf element = [] := by
  unfold audioElement at made
  dsimp only at made
  split_ifs at made with fits
  cases made
  refine ⟨⟨?_, ?_⟩, rfl⟩
  · have nonneg := fits.2
    simp only [Sized, List.length_replicate]
    omega
  · intro _
    rw [List.length_replicate]

theorem genuine_made {element : EncoderElement ByteString} (genuine : Genuine element) :
    MadeOf (buffersOf element) element.data := by
  unfold buffersOf
  split_ifs with fake
  · rw [genuine.silent fake]
    exact made_of_silence _
  · exact made_of_sound element.data

theorem held_made (genuine : ∀ element ∈ held, Genuine element) :
    MadeOf (held.flatMap buffersOf) (held.flatMap EncoderElement.data) := by
  induction held with
  | nil => exact made_of_nothing
  | cons oldest rest induction =>
      rw [List.flatMap_cons, List.flatMap_cons]
      apply made_of_append (genuine_made (genuine oldest List.mem_cons_self))
      exact induction fun element member => genuine element (List.mem_cons_of_mem oldest member)

theorem waiting_bytes_held {q : EncoderCQ ByteString} (holds : Holds q held) :
    waitingBytes q = held.flatMap EncoderElement.data := by
  unfold waitingBytes
  rw [holds.contents, List.filterMap_map]
  simp

theorem flowing_carried {path : SoundPath} (flowing : Flowing path held) : Carried path := by
  obtain ⟨taken, captured, made⟩ := flowing.made
  unfold Carried
  rw [captured, waiting_bytes_held flowing.holds]
  exact made_of_append made (held_made flowing.genuine)

end Elements

section Iterations

variable {t after : AudioTrack} {input : ByteString}

/-- What lies behind a frame in its buffer is not read. -/
theorem stamped_blocks (nbSamples pts : Int) {size : Nat} {blocks : List ByteString}
    (sized : ∀ block ∈ blocks, block.length = size) (behind : ByteString) :
    ((stamped nbSamples pts (blocks.map fun block => block ++ behind)).map
      fun frame => frame.data.take size) = blocks := by
  have whole : ((stamped nbSamples pts (blocks.map fun block => block ++ behind)).map
      SentFrame.data).map (List.take size) = blocks := by
    rw [stamped_data, List.map_map]
    apply (List.map_congr_left _).trans (List.map_id blocks)
    intro block member
    exact List.take_left' (sized block member)
  rw [List.map_map] at whole
  exact whole

theorem framed_bytes (framed : Framed t input after) :
    framedBytes after ++ leftOver after = framedBytes t ++ leftOver t ++ input := by
  obtain ⟨blocks, cut, sent, _⟩ := framed.frames
  have added : framedBytes after = framedBytes t ++ blocks.flatten := by
    unfold framedBytes
    rw [framed.frame_size, sent, List.map_append, stamped_blocks _ _ cut.sized,
      List.flatten_append]
  rw [added, List.append_assoc, cut.same, List.append_assoc]

theorem loop_iteration_view (rates : Rates) (isSilent : Bool) (loop : LoopState) :
    (loopIteration rates isSilent loop).map (fun later => (later.track, later.encoding)) Prod.fst =
      implIteration (loop.track, loop.encoding) := by
  unfold loopIteration implIteration
  dsimp only
  split_ifs
  · rfl
  · rfl
  · rfl

theorem impl_iteration_carries {e : Encoding} (ready : Ready t) (under : Under e) :
    (∀ out, implIteration (t, e) = .ends out → Framed t (unread e) out) ∧
      ∀ later rest, implIteration (t, e) = .again (later, rest) →
        Under rest ∧ ∃ taken, Framed t taken later ∧ taken ++ unread rest = unread e := by
  have unfinished := under.unfinished
  have sized := under.sized
  have started := under.started
  have short := ready.short
  obtain ⟨done, pass⟩ | ⟨_, fills, pass⟩ | ⟨_, leaves, pass⟩ := impl_iteration_cases t e
  · rw [pass]
    refine ⟨?_, nofun⟩
    intro out ends
    cases ends
    have nothing : unread e = [] := List.drop_eq_nil_of_le (by omega)
    rw [nothing]
    exact framed_refl ready
  · rw [pass]
    refine ⟨nofun, ?_⟩
    intro later rest again
    cases again
    have fits : Fits t e (frameSize t - t.remainedAudioSize) := ⟨by omega, by omega, by omega⟩
    refine ⟨⟨sized, ?_, ?_⟩, _, framed_completes ready under fits, ?_⟩
    · dsimp only
      omega
    · dsimp only
      omega
    · have place : (e.encodedSize + (frameSize t - t.remainedAudioSize)).toNat =
          e.encodedSize.toNat + (frameSize t - t.remainedAudioSize).toNat := by
        omega
      unfold piece unread
      rw [place]
      exact slice_append_drop _
  · rw [pass]
    refine ⟨?_, nofun⟩
    intro out ends
    cases ends
    have fits : Fits t e (e.size - e.encodedSize) := ⟨by omega, by omega, by omega⟩
    have all : piece e (e.size - e.encodedSize) = unread e := by
      apply List.take_of_length_le
      rw [List.length_drop]
      omega
    rw [← all]
    exact framed_leaves ready under fits (by omega)

theorem encodes_carries (rates : Rates) {loop : AudioLoop} {e : Encoding}
    (ready : Ready loop.track) (under : Under e) :
    Ready (encodes rates loop e).track ∧ HandSound (encodes rates loop e).place ∧
      framedBytes (encodes rates loop e).track ++ leftOver (encodes rates loop e).track ++
          inHand (encodes rates loop e).place =
        framedBytes loop.track ++ leftOver loop.track ++ unread e := by
  have view := loop_iteration_view rates loop.isSilent
    { track := loop.track, pacing := loop.pacing, encoding := e }
  obtain ⟨ends, again⟩ := impl_iteration_carries ready under
  unfold encodes
  cases pass : loopIteration rates loop.isSilent
      { track := loop.track, pacing := loop.pacing, encoding := e } with
  | ends out =>
      rw [pass] at view
      have framed := ends out.1 view.symm
      refine ⟨framed.ready, trivial, ?_⟩
      dsimp only [inHand]
      rw [List.append_nil]
      exact framed_bytes framed
  | again later =>
      rw [pass] at view
      obtain ⟨rest, taken, framed, whole⟩ := again later.track later.encoding view.symm
      refine ⟨framed.ready, rest, ?_⟩
      dsimp only [inHand]
      rw [framed_bytes framed, ← whole, List.append_assoc _ taken]

end Iterations

section Steps

variable {rates : Rates} {path following : SoundPath} {held : List (EncoderElement ByteString)}

theorem empty_delivers {q : EncoderCQ ByteString} (holds : Holds q []) (running : q.isStop = false)
    {done : Done ByteString} (dequeued : q.dequeue = some done)
    (element : EncoderElement ByteString) : done.element ≠ some element := by
  have counted := holds.length_eq
  have ordered := holds.ordered
  have same : q.front = q.rear := by
    rw [List.length_nil] at counted
    omega
  unfold EncoderCQ.dequeue at dequeued
  simp only [same, running, true_and] at dequeued
  cases waits : q.isWait with
  | true => simp [waits] at dequeued
  | false =>
      simp only [waits] at dequeued
      cases dequeued
      nofun

theorem dequeues_place {loop following : AudioLoop} {element : EncoderElement ByteString}
    (ran : AudioResync.step rates loop (.dequeues element) = some following) :
    loop.place = .dequeues ∧ following = { loop with place := placeOf loop element } := by
  simp only [AudioResync.step] at ran
  cases place : loop.place with
  | dequeues =>
      rw [place] at ran
      exact ⟨rfl, (Option.some.inj ran).symm⟩
  | resyncs other =>
      rw [place] at ran
      cases ran
  | encodes encoding =>
      rw [place] at ran
      cases ran

theorem place_sound (loop : AudioLoop) {element : EncoderElement ByteString}
    (sized : Sized element) :
    HandSound (placeOf loop element) ∧ inHand (placeOf loop element) = element.data := by
  unfold placeOf
  split_ifs
  · exact ⟨sized, rfl⟩
  · have under : Under (encodingOf element) := by
      refine ⟨sized, Int.le_refl 0, ?_⟩
      have bytes : element.size = element.data.length := sized
      simp only [encodingOf]
      omega
    exact ⟨under, List.drop_zero⟩

/-- A new element that the two writes stay inside is the old one with zeros behind it. -/
theorem resynchronised_lengthened {loop following : AudioLoop} {heap : Nat → UInt8}
    {element : EncoderElement ByteString} (sized : Sized element)
    (ran : resynchronised rates loop heap element = some following) :
    ∃ r, Lengthened rates loop element heap r ∧ following = { loop with
      silent := loop.isSilent
      place := .encodes { data := refilledBytes heap r, size := r.size, encodedSize := 0 } } := by
  obtain ⟨r, made, kept⟩ := Option.bind_eq_some_iff.mp ran
  split_ifs at kept with inside
  obtain ⟨size, computed, refills⟩ := Option.bind_eq_some_iff.mp made
  split_ifs at refills with negative
  have longer : element.size ≤ size := by
    cases refills
    have second := inside _ (List.mem_cons_of_mem _ List.mem_cons_self)
    dsimp only at second
    omega
  obtain ⟨other, lengthened⟩ := refilled_lengthened sized heap computed longer
  cases made.symm.trans lengthened.made
  exact ⟨r, lengthened, (Option.some.inj kept).symm⟩

theorem enqueues_flowing (flowing : Flowing path held)
    (room : path.audioCQ.rear < path.audioCQ.maxsize) {element : EncoderElement ByteString}
    (genuine : Genuine element) :
    Flowing (enqueues path element (buffersOf element)) (held ++ [element]) := by
  obtain ⟨result, holds⟩ := enqueue_appends flowing.holds flowing.running room element
  have accepted : (path.audioCQ.enqueue element).msg = .success := by rw [result]
  obtain ⟨taken, captured, made⟩ := flowing.made
  refine ⟨holds, ?_, ?_, flowing.ready, flowing.hand, taken, ?_, made⟩
  · exact (enqueue_keeps_flag path.audioCQ element).trans flowing.running
  · intro other member
    obtain before | added := List.mem_append.mp member
    · exact flowing.genuine other before
    · rw [List.mem_singleton.mp added]
      exact genuine
  · unfold enqueues
    dsimp only
    rw [if_pos accepted, captured, List.flatMap_append, List.append_assoc, List.flatMap_singleton]

theorem dequeues_flowing (flowing : Flowing path held)
    (stepped : dequeues rates path = some following) : ∃ left, Flowing following left := by
  obtain ⟨done, dequeued, rest⟩ := Option.bind_eq_some_iff.mp stepped
  obtain ⟨element, delivered, looped⟩ := Option.bind_eq_some_iff.mp rest
  obtain ⟨loop, ran, same⟩ := Option.map_eq_some_iff.mp looped
  cases held with
  | nil =>
      exact absurd delivered (empty_delivers flowing.holds flowing.running dequeued element)
  | cons oldest left =>
      obtain ⟨result, holds⟩ := dequeue_delivers flowing.holds flowing.running
      rw [result] at dequeued
      cases dequeued
      cases delivered
      obtain ⟨place, placed⟩ := dequeues_place ran
      obtain ⟨taken, captured, made⟩ := flowing.made
      have genuine := flowing.genuine element List.mem_cons_self
      obtain ⟨hand, bytes⟩ := place_sound path.loop genuine.sized
      rw [place, inHand, List.append_nil] at made
      rw [← same, placed]
      refine ⟨left, holds, flowing.running, ?_, flowing.ready, hand, taken ++ buffersOf element, ?_,
        ?_⟩
      · intro other member
        exact flowing.genuine other (List.mem_cons_of_mem element member)
      · rw [captured, List.flatMap_cons, List.append_assoc]
      · dsimp only
        rw [bytes]
        exact made_of_append made (genuine_made genuine)

theorem loops_flowing (flowing : Flowing path held) {loop : AudioLoop}
    (ready : Ready loop.track) (hand : HandSound loop.place)
    (goesOn : ∃ count, framedBytes loop.track ++ leftOver loop.track ++ inHand loop.place =
      framedBytes path.loop.track ++ leftOver path.loop.track ++ inHand path.loop.place ++
        List.replicate count 0) :
    Flowing { path with loop := loop } held := by
  obtain ⟨taken, captured, made⟩ := flowing.made
  obtain ⟨count, goesOn⟩ := goesOn
  refine ⟨flowing.holds, flowing.running, flowing.genuine, ready, hand, taken, captured, ?_⟩
  have longer := made_of_append made (made_of_silence count)
  rw [List.append_nil] at longer
  dsimp only
  rw [goesOn]
  exact longer

theorem resyncs_flowing (flowing : Flowing path held) {heap : Nat → UInt8}
    (stepped : loops rates path (.resyncs heap) = some following) : Flowing following held := by
  obtain ⟨loop, ran, same⟩ := Option.map_eq_some_iff.mp stepped
  simp only [AudioResync.step] at ran
  rw [← same]
  cases place : path.loop.place with
  | dequeues =>
      rw [place] at ran
      cases ran
  | encodes encoding =>
      rw [place] at ran
      cases ran
  | resyncs element =>
      rw [place] at ran
      have sized : Sized element := by
        have hand := flowing.hand
        rw [place] at hand
        exact hand
      obtain ⟨r, lengthened, refilled⟩ := resynchronised_lengthened sized ran
      rw [refilled]
      have under : Under { data := refilledBytes heap r, size := r.size, encodedSize := 0 } := by
        have longer := lengthened.longer
        have bytes : element.size = element.data.length := sized
        refine ⟨?_, Int.le_refl 0, ?_⟩
        · rw [lengthened.bytes, List.length_append, List.length_replicate]
          dsimp only
          omega
        · dsimp only
          omega
      refine loops_flowing flowing ?_ under ⟨(r.size - element.size).toNat, ?_⟩
      · exact flowing.ready
      · have rest : unread { data := refilledBytes heap r, size := r.size, encodedSize := 0 } =
            element.data ++ List.replicate (r.size - element.size).toNat 0 := lengthened.bytes
        rw [place, inHand, inHand, rest, ← List.append_assoc]

theorem encodes_flowing (flowing : Flowing path held)
    (stepped : loops rates path .encodes = some following) : Flowing following held := by
  obtain ⟨loop, ran, same⟩ := Option.map_eq_some_iff.mp stepped
  simp only [AudioResync.step] at ran
  rw [← same]
  cases place : path.loop.place with
  | dequeues =>
      rw [place] at ran
      cases ran
  | resyncs element =>
      rw [place] at ran
      cases ran
  | encodes encoding =>
      rw [place] at ran
      cases ran
      have under : Under encoding := by
        have hand := flowing.hand
        rw [place] at hand
        exact hand
      obtain ⟨ready, hand, bytes⟩ := encodes_carries rates flowing.ready under
      apply loops_flowing flowing ready hand
      refine ⟨0, ?_⟩
      rw [List.replicate_zero, List.append_nil, bytes, place, inHand]

theorem step_flowing {event : AudioEvent} (flowing : ∃ held, Flowing path held)
    (room : FindsSlot path event) (stepped : step rates path event = some following) :
    ∃ held, Flowing following held := by
  obtain ⟨held, flowing⟩ := flowing
  cases event with
  | captures buf =>
      cases stepped
      exact ⟨_, enqueues_flowing flowing room (copy_genuine buf)⟩
  | silence =>
      obtain ⟨element, made, same⟩ := Option.map_eq_some_iff.mp stepped
      obtain ⟨genuine, nobody⟩ := audio_element_genuine made
      rw [← same, ← nobody]
      exact ⟨_, enqueues_flowing flowing room genuine⟩
  | dequeues => exact dequeues_flowing flowing stepped
  | setsSilent silent =>
      cases stepped
      exact ⟨held, loops_flowing flowing flowing.ready flowing.hand ⟨0, (List.append_nil _).symm⟩⟩
  | sendsVideo =>
      cases stepped
      exact ⟨held, loops_flowing flowing flowing.ready flowing.hand ⟨0, (List.append_nil _).symm⟩⟩
  | resyncs heap => exact ⟨held, resyncs_flowing flowing stepped⟩
  | encodes => exact ⟨held, encodes_flowing flowing stepped⟩

end Steps

/-- However captures, silence, switches and the statements of the loop fall together, and
as long as each `enqueue` finds a slot, every captured buffer that was accepted goes into
the frames, whole, once and in its turn, with nothing but silence between. -/
theorem audio_carried {rates : Rates} {audioCQ : EncoderCQ ByteString} {track : AudioTrack}
    {isSilent : Bool} {path : SoundPath} (emptied : Holds audioCQ []) (ready : Ready track)
    (nothing : track.remainedAudioSize = 0) (unsent : track.sent = [])
    (reached : Reaches (step rates) FindsSlot (opened audioCQ track isSilent) path) :
    Carried path := by
  have start : Flowing (opened audioCQ track isSilent) [] := by
    refine ⟨emptied.start, rfl, nofun, ready, trivial, [], rfl, ?_⟩
    have first : framedBytes track ++ leftOver track ++ inHand .dequeues = [] := by
      simp [framedBytes, leftOver, inHand, nothing, unsent]
    have none := made_of_nothing
    rw [← first] at none
    exact none
  obtain ⟨held, flowing⟩ := invariant_of_step (fun state => ∃ held, Flowing state held) ⟨[], start⟩
    (fun _ _ _ flowing room stepped => step_flowing flowing room stepped) reached
  exact flowing_carried flowing

def shortRates : Rates where
  audio := { num := 1, den := 4 }
  video := { num := 1, den := 1 }

def shortTrack : AudioTrack where
  nbSamples := 2
  audioBytes := 1
  data := [0, 0]
  remainedAudioSize := 0
  audioFramePts := 0
  sent := []
  copies := []

def silencedBetween : List AudioEvent :=
  [.captures [1, 2, 3], .captures [4, 5, 6], .dequeues, .encodes, .encodes, .sendsVideo,
    .setsSilent true, .silence, .dequeues, .resyncs fun _ => 9]

theorem silenced_between_carried :
    Carried (after (step shortRates) (opened (EncoderCQ.new true) shortTrack false)
      silencedBetween) := by
  have slots : Along (step shortRates) FindsSlot
      (opened (EncoderCQ.new true) shortTrack false) silencedBetween := by
    apply along_cons rfl (by decide)
    apply along_cons rfl (by decide)
    apply along_cons rfl trivial
    apply along_cons rfl trivial
    apply along_cons rfl trivial
    apply along_cons rfl trivial
    apply along_cons rfl trivial
    apply along_cons rfl (by decide)
    apply along_cons rfl trivial
    exact ⟨trivial, fun _ _ => trivial⟩
  have reached := reaches_after slots (by decide +kernel)
  have ready : Ready shortTrack := ⟨by decide, by decide, by decide, by decide⟩
  exact audio_carried (holds_of_size true 40) ready rfl rfl reached

end Collabo.AudioPath
