import Collabo.AudioFraming
import Collabo.SessionThreads
import Collabo.Library.PartialRuns

/-!
# Failing calls of the codec and the muxer

Each of the nine error exits of the encode functions calls `loopStop`, which
starts a thread that is to call `stop` and keeps it in a temporary. A temporary
ends with its statement, and the end of a thread that is neither joined nor
detached is the end of the process.
-/

namespace Collabo.EncodeFailures

open PartialRuns WhileLoops Collabo.CString Collabo.EncoderQueue Collabo.EncoderSession
  Collabo.SessionThreads Collabo.AudioFraming

set_option autoImplicit false

section Functions

def averrorEagain : Int := -11

def averrorEof : Int := -541478725

/-- What `avcodec_receive_packet` answers, and `av_interleaved_write_frame` to the
packet that it gave. -/
structure PacketAnswer where
  receive : Int
  write : Int
  deriving DecidableEq, Repr

/-- What the library answers while one frame is encoded. After the answers the
codec has no packet left. -/
structure FrameAnswers where
  send : Int
  packets : List PacketAnswer
  deriving DecidableEq, Repr

/-- The errors that the three exits of a frame give to `loopStop`. -/
structure EncodeErrors where
  encode : EncoderState
  receivePacket : EncoderState
  writeFrame : EncoderState

def videoErrors : EncodeErrors where
  encode := .videoEncodeError
  receivePacket := .videoReceivePacketError
  writeFrame := .videoWriteFrameError

def audioErrors : EncodeErrors where
  encode := .audioEncodeError
  receivePacket := .audioReceivePacketError
  writeFrame := .audioWriteFrameError

/-- The loop over the packets of a frame, which the three functions share. -/
def packetError (errors : EncodeErrors) : List PacketAnswer → Option EncoderState
  | [] => none
  | answer :: rest =>
      if answer.receive = averrorEagain ∨ answer.receive = averrorEof then none
      else if answer.receive < 0 then some errors.receivePacket
      else if answer.write ≠ 0 then some errors.writeFrame
      else packetError errors rest

def frameError (errors : EncodeErrors) (answers : FrameAnswers) : Option EncoderState :=
  if answers.send < 0 then some errors.encode else packetError errors answers.packets

/-- How a function ends: the error of its exit, if it takes one, and whether the
buffer of the element has been deleted. -/
structure Exit where
  error : Option EncoderState
  deleted : Bool
  deriving DecidableEq, Repr

/-- The buffer is deleted once it has been scaled. -/
def encodeVideoImpl (videoFramePts : Int) (answers : FrameAnswers) : Int × Exit :=
  (if answers.send < 0 then videoFramePts else videoFramePts + 1,
    { error := frameError videoErrors answers, deleted := true })

/-- The frame is not counted where the codec refuses it. -/
def failedTrack (t : AudioTrack) (answers : FrameAnswers) : AudioTrack :=
  if answers.send < 0 then t else sendFrame t

def implIteration (answersAt : Nat → FrameAnswers) (s : AudioTrack × Encoding) :
    Pass (AudioTrack × Encoding) (AudioTrack × Option EncoderState) :=
  if s.2.encodedSize = s.2.size then .ends (s.1, none)
  else
    let chunk := copyChunk s.1 s.2
    if chunk.completes then
      let answers := answersAt chunk.track.sent.length
      match frameError audioErrors answers with
      | none => .again (sendFrame chunk.track, chunk.encoding)
      | some error => .ends (failedTrack chunk.track answers, some error)
    else .ends (chunk.track, none)

/-- The buffer is deleted behind the loop. -/
def encodeAudioImpl (answersAt : Nat → FrameAnswers) (fuel : Nat) (t : AudioTrack)
    (element : EncoderElement ByteString) : Option (AudioTrack × Exit) :=
  (whileLoop (implIteration answersAt) fuel (t, encodingOf element)).map fun ended =>
    (ended.1, { error := ended.2, deleted := ended.2 = none })

def loopIteration (answersAt : Nat → FrameAnswers) (rates : Rates) (isSilent : Bool)
    (s : LoopState) : Pass LoopState ((AudioTrack × Pacing) × Option EncoderState) :=
  if s.encoding.encodedSize = s.encoding.size then .ends ((s.track, s.pacing), none)
  else
    let chunk := copyChunk s.track s.encoding
    if chunk.completes then
      let pacing := paceVideo rates isSilent chunk.track.audioFramePts s.pacing
      let answers := answersAt chunk.track.sent.length
      match frameError audioErrors answers with
      | none =>
          .again
            { track := sendFrame chunk.track, pacing := pacing, encoding := chunk.encoding }
      | some error => .ends ((failedTrack chunk.track answers, pacing), some error)
    else .ends ((chunk.track, s.pacing), none)

def encodeElement (answersAt : Nat → FrameAnswers) (rates : Rates) (silentAt : Nat → Bool)
    (fuel : Nat) (s : AudioTrack × Pacing) (element : EncoderElement ByteString) :
    Option ((AudioTrack × Pacing) × Exit) :=
  (whileLoop (fun loop => loopIteration answersAt rates (silentAt loop.track.sent.length) loop) fuel
    { track := s.1, pacing := s.2, encoding := encodingOf element }).map fun ended =>
    (ended.1, { error := ended.2, deleted := ended.2 = none })

end Functions

section Succeeding

variable {answersAt : Nat → FrameAnswers}

def AllSucceed (answersAt : Nat → FrameAnswers) : Prop :=
  ∀ number, frameError audioErrors (answersAt number) = none

theorem encode_audio_impl_succeeds (succeed : AllSucceed answersAt) (fuel : Nat) (t : AudioTrack)
    (element : EncoderElement ByteString) :
    encodeAudioImpl answersAt fuel t element =
      (AudioFraming.encodeAudioImpl fuel t element).map fun after =>
        (after, { error := none, deleted := true }) := by
  have passes : ∀ s : AudioTrack × Encoding,
      (AudioFraming.implIteration s).map id (fun after => (after, none)) =
        implIteration answersAt s := by
    intro s
    unfold implIteration AudioFraming.implIteration
    by_cases ended : s.2.encodedSize = s.2.size
    · rw [if_pos ended, if_pos ended]
      rfl
    · rw [if_neg ended, if_neg ended]
      dsimp only
      by_cases completes : (copyChunk s.1 s.2).completes = true
      · rw [if_pos completes, if_pos completes, succeed]
        rfl
      · rw [if_neg completes, if_neg completes]
        rfl
  unfold encodeAudioImpl AudioFraming.encodeAudioImpl
  rw [← id_eq (t, encodingOf element), ← while_loop_view passes, Option.map_map]
  rfl

theorem encode_element_succeeds (succeed : AllSucceed answersAt) (rates : Rates)
    (silentAt : Nat → Bool) (fuel : Nat) (s : AudioTrack × Pacing)
    (element : EncoderElement ByteString) :
    encodeElement answersAt rates silentAt fuel s element =
      (AudioFraming.encodeElement rates silentAt fuel s element).map fun after =>
        (after, { error := none, deleted := true }) := by
  have passes : ∀ loop : LoopState,
      (AudioFraming.loopIteration rates (silentAt loop.track.sent.length) loop).map id
          (fun after => (after, none)) =
        loopIteration answersAt rates (silentAt loop.track.sent.length) loop := by
    intro loop
    unfold loopIteration AudioFraming.loopIteration
    by_cases ended : loop.encoding.encodedSize = loop.encoding.size
    · rw [if_pos ended, if_pos ended]
      rfl
    · rw [if_neg ended, if_neg ended]
      dsimp only
      by_cases completes : (copyChunk loop.track loop.encoding).completes = true
      · rw [if_pos completes, if_pos completes, succeed]
        rfl
      · rw [if_neg completes, if_neg completes]
        rfl
  unfold encodeElement AudioFraming.encodeElement
  rw [← id_eq (LoopState.mk _ _ _), ← while_loop_view passes, Option.map_map]
  rfl

/-- An audio function that takes an error exit leaves the buffer of its element. -/
theorem encode_audio_impl_leaks {fuel : Nat} {t after : AudioTrack}
    {element : EncoderElement ByteString} {exit : Exit}
    (ended : encodeAudioImpl answersAt fuel t element = some (after, exit))
    (failed : exit.error ≠ none) : exit.deleted = false := by
  obtain ⟨out, -, same⟩ := Option.map_eq_some_iff.mp ended
  rw [← (Prod.mk.inj same).2] at failed ⊢
  exact decide_eq_false failed

theorem encode_element_leaks {rates : Rates} {silentAt : Nat → Bool} {fuel : Nat}
    {s after : AudioTrack × Pacing} {element : EncoderElement ByteString} {exit : Exit}
    (ended : encodeElement answersAt rates silentAt fuel s element = some (after, exit))
    (failed : exit.error ≠ none) : exit.deleted = false := by
  obtain ⟨out, -, same⟩ := Option.map_eq_some_iff.mp ended
  rw [← (Prod.mk.inj same).2] at failed ⊢
  exact decide_eq_false failed

end Succeeding

section Process

structure ThreadObject where
  joinable : Bool
  deriving DecidableEq, Repr

def startedThread : ThreadObject := { joinable := true }

inductive EncodeCall where
  | video (videoFramePts : Int) (element : EncoderElement Captured) (answers : FrameAnswers)
  | audioImpl (track : AudioTrack) (element : EncoderElement ByteString)
      (answersAt : Nat → FrameAnswers) (fuel : Nat)
  | audioLoop (s : AudioTrack × Pacing) (element : EncoderElement ByteString)
      (answersAt : Nat → FrameAnswers) (rates : Rates) (silentAt : Nat → Bool) (fuel : Nat)

def EncodeCall.exit : EncodeCall → Option Exit
  | .video videoFramePts _ answers => some (encodeVideoImpl videoFramePts answers).2
  | .audioImpl track element answersAt fuel =>
      (encodeAudioImpl answersAt fuel track element).map Prod.snd
  | .audioLoop s element answersAt rates silentAt fuel =>
      (encodeElement answersAt rates silentAt fuel s element).map Prod.snd

inductive ElementBuffer where
  | video (data : Captured)
  | audio (data : ByteString)
  deriving DecidableEq, Repr

def EncodeCall.buffer : EncodeCall → ElementBuffer
  | .video _ element _ => .video element.data
  | .audioImpl _ element _ _ => .audio element.data
  | .audioLoop _ element _ _ _ _ => .audio element.data

inductive Runner where
  | loop (number : Nat)
  | task (number : Nat)
  deriving DecidableEq, Repr

def loopMakes : Loop → EncodeCall → Bool
  | .video _, .video _ _ _ => true
  | .audio true, .audioImpl _ _ _ _ => true
  | .audio false, .audioLoop _ _ _ _ _ _ => true
  | _, _ => false

/-- The threads of the silent branches make the call of the loop that detached them. -/
def taskMakes : EncodeCall → Bool
  | .video _ _ _ => true
  | .audioImpl _ _ _ _ => true
  | .audioLoop _ _ _ _ _ _ => false

def makesCall (t : Threads) : Runner → EncodeCall → Bool
  | .loop number, call =>
      t.loops[number]?.any fun thread => thread.place = .encodes && loopMakes thread.loop call
  | .task number, call => t.tasks[number]?.any fun task => task.place = .encodes && taskMakes call

/-- The statements of `loopStop`. The first begins with the construction of its
temporary and ends with the destruction. -/
inductive ExitPlace where
  | startsThread
  | destroysThread (thread : ThreadObject)
  | callsBack
  deriving DecidableEq, Repr

structure ErrorExit where
  runner : Runner
  error : EncoderState
  place : ExitPlace
  deriving DecidableEq, Repr

/-- `exits` are the threads that are in `loopStop`, and `stopThreads` counts those
that it has started and that have not come to `stop` yet. `stopsTaken` counts the
calls of `stop` that took effect, `deleted` are the buffers deleted by the encode
functions. -/
structure Process where
  threads : Threads
  exits : List ErrorExit
  stopThreads : Nat
  stopsTaken : Nat
  stateCallbacks : List EncoderState
  deleted : List ElementBuffer
  aborted : Bool

/-- `starts` says whether the system has a thread left. -/
inductive ProcessEvent where
  | threads (event : ThreadEvent)
  | encodes (runner : Runner) (call : EncodeCall)
  | exitGoesOn (number : Nat) (starts : Bool)
  | stopThreadRuns

def processStart (eCtx : EncoderContext) (audioBytes : Int) : Process where
  threads := constructedThreads eCtx audioBytes
  exits := []
  stopThreads := 0
  stopsTaken := 0
  stateCallbacks := []
  deleted := []
  aborted := false

def outsideEncode (t : Threads) : ThreadEvent → Bool
  | .loopGoesOn number => !t.loops[number]?.any fun thread => thread.place = .encodes
  | .taskGoesOn number _ _ => !t.tasks[number]?.any fun task => task.place = .encodes
  | .initializes _ => true
  | .stops => true
  | .callGoesOn _ => true
  | .enqueuesVideo _ => true
  | .enqueuesAudio _ => true

def moved (p : Process) (threads : Threads) : Process :=
  { p with
    threads := threads
    stopsTaken :=
      if threads.enc.stopped ∧ p.threads.enc.stopped = false then p.stopsTaken + 1
      else p.stopsTaken }

/-- The step behind the call, the arguments of which a task does not read there. -/
def callReturns (t : Threads) : Runner → Option Threads
  | .loop number => loopGoesOn t number
  | .task number => taskGoesOn t number 0 0

def encoded (p : Process) (runner : Runner) (call : EncodeCall) (exit : Exit) : Option Process :=
  let left := { p with deleted := p.deleted ++ if exit.deleted then [call.buffer] else [] }
  match exit.error with
  | none => (callReturns p.threads runner).map fun threads => { left with threads := threads }
  | some error =>
      some { left with
        exits := p.exits ++ [{ runner := runner, error := error, place := .startsThread }] }

/-- Where a loop is when its encode function has taken an error exit: the one that
calls `encodeAudioImpl` goes on, the others have returned. -/
def afterError : Loop → LoopPlace
  | .video _ => .ended
  | .audio onlyAudio => if onlyAudio then .testsStopped else .ended

def exitReturns (t : Threads) : Runner → Threads
  | .loop number =>
      { t with loops := t.loops.modify number fun thread =>
          { thread with place := afterError thread.loop } }
  | .task number =>
      { t with tasks := t.tasks.modify number fun task => { task with place := .ended } }

/-- No thread function catches what the constructor of the temporary throws. -/
def exitGoesOn (p : Process) (number : Nat) (starts : Bool) (exit : ErrorExit) : Process :=
  match exit.place with
  | .startsThread =>
      if starts then
        { p with
          stopThreads := p.stopThreads + 1
          exits := p.exits.set number { exit with place := .destroysThread startedThread } }
      else { p with aborted := true }
  | .destroysThread thread =>
      if thread.joinable then { p with aborted := true }
      else { p with exits := p.exits.set number { exit with place := .callsBack } }
  | .callsBack =>
      { p with
        stateCallbacks := p.stateCallbacks ++ [exit.error]
        exits := p.exits.eraseIdx number
        threads := exitReturns p.threads exit.runner }

def stopThreadRuns (p : Process) : Option Process :=
  match p.stopThreads with
  | 0 => none
  | others + 1 =>
      (beginStop p.threads none).map fun threads => { moved p threads with stopThreads := others }

/-- Nothing happens in a process that has been aborted. -/
def step (p : Process) (event : ProcessEvent) : Option Process :=
  if p.aborted then none
  else
    match event with
    | .threads event =>
        if outsideEncode p.threads event then (SessionThreads.step p.threads event).map (moved p)
        else none
    | .encodes runner call =>
        if makesCall p.threads runner call ∧ runner ∉ p.exits.map ErrorExit.runner then
          call.exit.bind (encoded p runner call)
        else none
    | .exitGoesOn number starts => (p.exits[number]?).map (exitGoesOn p number starts)
    | .stopThreadRuns => stopThreadRuns p

/-- What the claimed clean-up leaves of an error exit that `before` took. -/
structure OrderlyExit (before : Process) (call : EncodeCall) (error : EncoderState)
    (later : Process) : Prop where
  alive : later.aborted = false
  stopsOnce : later.stopsTaken = before.stopsTaken + 1
  calledBack : error ∈ later.stateCallbacks.drop before.stateCallbacks.length
  released : call.buffer ∈ later.deleted.drop before.deleted.length
  emptied : later.threads.enc.audioCQ.front = later.threads.enc.audioCQ.rear

def AbortsNext (p : Process) (number : Nat) : Prop :=
  ∀ first second, ∃ next, step p (.exitGoesOn number first) = some next ∧
    (next.aborted = true ∨
      ∃ last, step next (.exitGoesOn number second) = some last ∧ last.aborted = true)

end Process

section Exits

variable {p following : Process} {runner : Runner} {call : EncodeCall} {event : ProcessEvent}

def Begun (exit : ErrorExit) : Prop :=
  exit.place = .startsThread ∨ exit.place = .destroysThread startedThread

structure NoneBehind (p : Process) : Prop where
  begun : ∀ exit ∈ p.exits, Begun exit
  uncalled : p.stateCallbacks = []

theorem exit_steps {number : Nat} {exit : ErrorExit} (alive : p.aborted = false)
    (found : p.exits[number]? = some exit) (starts : Bool) :
    step p (.exitGoesOn number starts) = some (exitGoesOn p number starts exit) := by
  simp [step, alive, found]

theorem destroying_aborts {exit : ErrorExit} (destroys : exit.place = .destroysThread startedThread)
    (number : Nat) (starts : Bool) : (exitGoesOn p number starts exit).aborted = true := by
  unfold exitGoesOn
  rw [destroys]
  rfl

theorem begun_aborts {number : Nat} {exit : ErrorExit} (alive : p.aborted = false)
    (found : p.exits[number]? = some exit) (begun : Begun exit) : AbortsNext p number := by
  intro first second
  refine ⟨exitGoesOn p number first exit, exit_steps alive found first, ?_⟩
  rcases begun with starts | destroys
  · cases first with
    | false =>
        unfold exitGoesOn
        rw [starts]
        exact .inl rfl
    | true =>
        have inside : number < p.exits.length := (List.getElem?_eq_some_iff.mp found).1
        have next : exitGoesOn p number true exit =
            { p with
              stopThreads := p.stopThreads + 1
              exits := p.exits.set number
                { exit with place := .destroysThread startedThread } } := by
          unfold exitGoesOn
          rw [starts]
          rfl
        rw [next]
        refine .inr ⟨_, exit_steps ?_ (List.getElem?_set_self inside) second, ?_⟩
        · exact alive
        · exact destroying_aborts rfl number second
  · exact .inl (destroying_aborts destroys number first)

theorem exit_goes_on_begun {number : Nat} {exit : ErrorExit} (none : NoneBehind p)
    (found : p.exits[number]? = some exit) (starts : Bool) :
    NoneBehind (exitGoesOn p number starts exit) ∧
      ((exitGoesOn p number starts exit).aborted = true ∨
        (exitGoesOn p number starts exit).exits =
          p.exits.set number { exit with place := .destroysThread startedThread }) := by
  rcases none.begun exit (List.mem_of_getElem? found) with place | place
  · unfold exitGoesOn
    rw [place]
    cases starts with
    | false => exact ⟨⟨none.begun, none.uncalled⟩, .inl rfl⟩
    | true =>
        refine ⟨⟨?_, none.uncalled⟩, .inr rfl⟩
        intro other member
        rcases List.mem_or_eq_of_mem_set member with before | same
        · exact none.begun other before
        · rw [same]
          exact .inr rfl
  · unfold exitGoesOn
    rw [place]
    exact ⟨⟨none.begun, none.uncalled⟩, .inl rfl⟩

def ExitsKept (p following : Process) : Prop :=
  ∀ (number : Nat) exit, p.exits[number]? = some exit →
    ∃ later, following.exits[number]? = some later ∧ later.runner = exit.runner ∧
      later.error = exit.error

theorem same_exits_kept (same : following.exits = p.exits) : ExitsKept p following := by
  intro number exit found
  rw [same]
  exact ⟨exit, found, rfl, rfl⟩

theorem exits_kept_trans {later : Process} (first : ExitsKept p following)
    (second : ExitsKept following later) : ExitsKept p later := by
  intro number exit found
  obtain ⟨middle, middleFound, runner, error⟩ := first number exit found
  obtain ⟨last, lastFound, lastRunner, lastError⟩ := second number middle middleFound
  exact ⟨last, lastFound, lastRunner.trans runner, lastError.trans error⟩

theorem added_exits_kept {added : ErrorExit} (adds : following.exits = p.exits ++ [added]) :
    ExitsKept p following := by
  intro number exit found
  have inside := (List.getElem?_eq_some_iff.mp found).1
  rw [adds, List.getElem?_append_left inside]
  exact ⟨exit, found, rfl, rfl⟩

theorem moved_exits_kept {index : Nat} {running : ErrorExit} {place : ExitPlace}
    (runs : p.exits[index]? = some running)
    (moves : following.exits = p.exits.set index { running with place := place }) :
    ExitsKept p following := by
  intro number exit found
  rw [moves]
  by_cases same : number = index
  · have inside := (List.getElem?_eq_some_iff.mp runs).1
    rw [same] at found ⊢
    rw [runs] at found
    rw [List.getElem?_set_self inside, ← Option.some.inj found]
    exact ⟨_, rfl, rfl, rfl⟩
  · rw [List.getElem?_set_ne (Ne.symm same)]
    exact ⟨exit, found, rfl, rfl⟩

theorem encoded_exits {exit : Exit} (none : NoneBehind p)
    (went : encoded p runner call exit = some following) :
    NoneBehind following ∧ ExitsKept p following := by
  unfold encoded at went
  dsimp only at went
  split at went
  · obtain ⟨threads, -, rfl⟩ := Option.map_eq_some_iff.mp went
    exact ⟨⟨none.begun, none.uncalled⟩, same_exits_kept rfl⟩
  · cases went
    refine ⟨⟨?_, none.uncalled⟩, added_exits_kept rfl⟩
    intro other member
    rcases List.mem_append.mp member with before | added
    · exact none.begun other before
    · rw [List.mem_singleton.mp added]
      exact .inl rfl

theorem step_exits (none : NoneBehind p) (stepped : step p event = some following) :
    NoneBehind following ∧ (following.aborted = true ∨ ExitsKept p following) := by
  unfold step at stepped
  split at stepped
  · cases stepped
  · cases event with
    | threads event =>
        dsimp only at stepped
        split at stepped
        · obtain ⟨threads, -, rfl⟩ := Option.map_eq_some_iff.mp stepped
          exact ⟨⟨none.begun, none.uncalled⟩, .inr (same_exits_kept rfl)⟩
        · cases stepped
    | encodes runner call =>
        dsimp only at stepped
        split at stepped
        · obtain ⟨exit, -, ended⟩ := Option.bind_eq_some_iff.mp stepped
          obtain ⟨still, kept⟩ := encoded_exits none ended
          exact ⟨still, .inr kept⟩
        · cases stepped
    | exitGoesOn index starts =>
        dsimp only at stepped
        obtain ⟨running, runs, rfl⟩ := Option.map_eq_some_iff.mp stepped
        obtain ⟨still, aborted | moves⟩ := exit_goes_on_begun none runs starts
        · exact ⟨still, .inl aborted⟩
        · exact ⟨still, .inr (moved_exits_kept runs moves)⟩
    | stopThreadRuns =>
        dsimp only at stepped
        unfold stopThreadRuns at stepped
        split at stepped
        · cases stepped
        · obtain ⟨threads, -, rfl⟩ := Option.map_eq_some_iff.mp stepped
          exact ⟨⟨none.begun, none.uncalled⟩, .inr (same_exits_kept rfl)⟩

theorem aborted_stays {events : List ProcessEvent} {later : Process} (aborted : p.aborted = true)
    (ran : events.foldlM step p = some later) : later = p := by
  cases events with
  | nil => exact (Option.some.inj ran).symm
  | cons event rest =>
      have nowhere : step p event = none := by
        unfold step
        rw [if_pos aborted]
      rw [List.foldlM_cons, nowhere] at ran
      cases ran

theorem run_exits {events : List ProcessEvent} {later : Process} (none : NoneBehind p)
    (ran : events.foldlM step p = some later) :
    NoneBehind later ∧ (later.aborted = true ∨ ExitsKept p later) := by
  induction events generalizing p with
  | nil =>
      rw [← Option.some.inj ran]
      exact ⟨none, .inr (same_exits_kept rfl)⟩
  | cons event rest induction =>
      cases stepped : step p event with
      | none =>
          simp only [List.foldlM_cons, stepped] at ran
          cases ran
      | some following =>
          simp only [List.foldlM_cons, stepped] at ran
          obtain ⟨still, head⟩ := step_exits none stepped
          obtain ⟨last, tail⟩ := induction still ran
          refine ⟨last, ?_⟩
          rcases tail with aborted | kept
          · exact .inl aborted
          · rcases head with aborted | first
            · rw [aborted_stays aborted ran]
              exact .inl aborted
            · exact .inr (exits_kept_trans first kept)

theorem start_none_behind (eCtx : EncoderContext) (audioBytes : Int) :
    NoneBehind (processStart eCtx audioBytes) :=
  ⟨nofun, rfl⟩

theorem failing_step {exit : Exit} {error : EncoderState} (ended : call.exit = some exit)
    (failed : exit.error = some error) (stepped : step p (.encodes runner call) = some following) :
    following.exits =
      p.exits ++ [{ runner := runner, error := error, place := .startsThread }] := by
  unfold step at stepped
  split at stepped
  · cases stepped
  · dsimp only at stepped
    split at stepped
    · rw [ended, Option.bind_some] at stepped
      unfold encoded at stepped
      rw [failed] at stepped
      rw [← Option.some.inj stepped]
    · cases stepped

/-- In every run, whichever call fails and whatever else happens then: `encStateCallback`
is never called, the clean-up is not there in any later state, and the process
has been aborted or is so by the next two statements of the thread. -/
theorem error_exits_abort (eCtx : EncoderContext) (audioBytes : Int)
    {events more : List ProcessEvent} {exit : Exit} {error : EncoderState} {later : Process}
    (ran : events.foldlM step (processStart eCtx audioBytes) = some p)
    (ended : call.exit = some exit) (failed : exit.error = some error)
    (stepped : step p (.encodes runner call) = some following)
    (onward : more.foldlM step following = some later) :
    ¬OrderlyExit p call error later ∧ later.stateCallbacks = [] ∧
      (later.aborted = true ∨ AbortsNext later p.exits.length) := by
  have before := (run_exits (start_none_behind eCtx audioBytes) ran).1
  have started := (step_exits before stepped).1
  obtain ⟨after, pending⟩ := run_exits started onward
  refine ⟨?_, after.uncalled, ?_⟩
  · intro orderly
    have called := orderly.calledBack
    rw [after.uncalled, List.drop_nil] at called
    cases called
  · rcases pending with aborted | kept
    · exact .inl aborted
    · cases alive : later.aborted with
      | true => exact .inl rfl
      | false =>
          have there : following.exits[p.exits.length]? =
              some { runner := runner, error := error, place := .startsThread } := by
            rw [failing_step ended failed stepped]
            simp
          obtain ⟨last, found, -, -⟩ := kept _ _ there
          exact .inr (begun_aborts alive found (after.begun last (List.mem_of_getElem? found)))

end Exits

section Samples

def silentContext : EncoderContext where
  videoCodecName := "libx264"
  audioCodecName := "libfdk_aac"
  width := 800
  height := 600
  framerate := 25
  outSmpFmt := .s16
  samplerate := 44100
  channels := 2
  isSilent := true

def openLib : Libav := Libav.succeeds [] []

def capturedFrame : List ProcessEvent :=
  [.threads (.initializes silentContext), .threads (.callGoesOn openLib),
    .threads (.loopGoesOn 0), .threads (.loopGoesOn 0), .threads (.loopGoesOn 0),
    .threads (.loopGoesOn 0), .threads (.taskGoesOn 0 800 600)]

def firstCapture : EncoderElement Captured where
  data := { serial := 0, width := 800, height := 600, stops := 0, restarts := false }
  size := 3 * 800 * 600
  fake := false

def refused : EncodeCall := .video 0 firstCapture { send := -1, packets := [] }

def captured : Process := after step (processStart silentContext 0) capturedFrame

def refusedFrame : Process := after step captured [.encodes (.task 0) refused]

theorem error_exits_abort_refused_frame :
    ¬OrderlyExit captured refused .videoEncodeError refusedFrame ∧
      refusedFrame.stateCallbacks = [] ∧
      (refusedFrame.aborted = true ∨ AbortsNext refusedFrame captured.exits.length) :=
  @error_exits_abort captured refusedFrame (.task 0) refused silentContext 0 capturedFrame []
    { error := some .videoEncodeError, deleted := true } .videoEncodeError refusedFrame rfl rfl rfl
    rfl rfl

/-- The thread that was to call `stop` is started, and the process ends with the
statement that started it. -/
theorem refused_frame_aborts :
    ∃ later, capturedFrame.foldlM step (processStart silentContext 0) = some captured ∧
      [ProcessEvent.encodes (.task 0) refused, .exitGoesOn 0 true, .exitGoesOn 0 true].foldlM step
        captured = some later ∧ later.aborted = true ∧ later.stateCallbacks = [] ∧
      later.stopsTaken = 0 ∧ ¬OrderlyExit captured refused .videoEncodeError later := by
  refine ⟨_, rfl, rfl, rfl, rfl, rfl, ?_⟩
  intro orderly
  cases orderly.alive

end Samples

end Collabo.EncodeFailures
