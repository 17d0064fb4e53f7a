import Collabo.SessionThreads
import Collabo.Library.PartialRuns
import Collabo.Library.ThreadTable

/-!
# The loops of one session at a time

`initialize` opens the streams by one chain of conditions and chooses the loops
by another one, and `stop` does not wait for the loops: one that has left its
test of `stopped` behind encodes all the same, and one that has not come to it
goes on in the next session.
-/

namespace Collabo.LoopThreads

open PartialRuns ThreadTable Collabo.CString Collabo.EncoderQueue Collabo.QueueStatements
  Collabo.EncoderSession Collabo.SessionThreads

set_option autoImplicit false

def Live (thread : LoopThread) : Prop := thread.place ≠ .ended

instance (thread : LoopThread) : Decidable (Live thread) := inferInstanceAs (Decidable (_ ≠ _))

def IsVideo : Loop → Prop
  | .video _ => True
  | .audio _ => False

def LiveVideo (thread : LoopThread) : Prop := Live thread ∧ IsVideo thread.loop

def LiveAudio (thread : LoopThread) : Prop := Live thread ∧ ¬IsVideo thread.loop

/-- The stream that a loop is for. -/
def streamOf (enc : Encoder) : Loop → Bool
  | .video _ => enc.videoStream
  | .audio _ => enc.audioStream

/-- At most one loop of each kind is live, each of the current session and for
a stream that it opened. -/
structure LoopsBelong (t : Threads) : Prop where
  video : AtMostOne LiveVideo t.loops
  audio : AtMostOne LiveAudio t.loops
  current : ∀ thread ∈ t.loops, Live thread →
    thread.session = t.enc.session ∧ streamOf t.enc thread.loop = true

/-- An encode step comes before the `stop` of its session has returned. -/
def EncodesInSession (t : Threads) : ThreadEvent → Prop
  | .loopGoesOn number =>
      ∀ thread, t.loops[number]? = some thread → thread.place = .encodes → t.ended < thread.session
  | .taskGoesOn number _ _ =>
      ∀ task, t.tasks[number]? = some task → task.place = .encodes → t.ended < task.session
  | .initializes _ => True
  | .stops => True
  | .callGoesOn _ => True
  | .enqueuesVideo _ => True
  | .enqueuesAudio _ => True

def SessionsApart (t : Threads) (event : ThreadEvent) : Prop :=
  (∀ following, step t event = some following → LoopsBelong following) ∧ EncodesInSession t event

/-- A thread that encodes without another look at a flag. -/
def OnItsWay (enc : Encoder) (place : LoopPlace) : Prop :=
  match place with
  | .spawns => True
  | .encodes => True
  | .choosesBranch => enc.eCtx.isSilent = true
  | .dequeues place => Committed place
  | .begins => False
  | .testsStopped => False
  | .testsSilent => False
  | .testsAudible => False
  | .ended => False

/-- A stopped encoder is initialised when no loop is live. A session that opens
has audio, named and with a stream, and has video where that is named. `stop`
returns when no thread is on its way to an encode step. No capture finds another
screen size. -/
def OneSessionAtATime (t : Threads) : ThreadEvent → Prop
  | .initializes _ =>
      t.calling = none → t.enc.stopped = true → ∀ thread ∈ t.loops, ¬Live thread
  | .callGoesOn lib =>
      ∀ calling, t.calling = some calling →
        (calling.call = .opens → lib.opens t.enc.eCtx = true →
          lib.hasAudio t.enc.eCtx = true ∧
            (t.enc.eCtx.videoCodecName ≠ "none" → lib.hasVideo t.enc.eCtx = true)) ∧
          (calling.call = .frees →
            (∀ thread ∈ t.loops, ¬OnItsWay t.enc thread.place) ∧
              ∀ task ∈ t.tasks, task.place = .ended)
  | .taskGoesOn number width height =>
      ∀ task, t.tasks[number]? = some task → task.place = .captures →
        width = t.enc.eCtx.width ∧ height = t.enc.eCtx.height
  | .stops => True
  | .loopGoesOn _ => True
  | .enqueuesVideo _ => True
  | .enqueuesAudio _ => True

def Dequeues : LoopPlace → Prop
  | .dequeues _ => True
  | .choosesBranch => True
  | .begins => False
  | .testsStopped => False
  | .testsSilent => False
  | .testsAudible => False
  | .spawns => False
  | .encodes => False
  | .ended => False

/-- The queue that the thread takes from, if it is at that, has been stopped. -/
def Halted (enc : Encoder) (thread : LoopThread) : Prop :=
  Dequeues thread.place →
    match thread.loop with
    | .video _ => enc.videoCQ.isStop = true
    | .audio _ => enc.audioCQ.isStop = true

/-- What the threads look like once the `stop` of the session has returned. -/
structure Quiet (t : Threads) : Prop where
  stopped : ∀ thread ∈ t.loops, Live thread → t.enc.stopped = true
  halted : ∀ thread ∈ t.loops, Live thread → Halted t.enc thread
  idle : ∀ thread ∈ t.loops, ¬OnItsWay t.enc thread.place
  tasks : ∀ task ∈ t.tasks, task.place = .ended

structure Opening (t : Threads) : Prop where
  fresh : reset t.enc t.enc.eCtx = t.enc
  loops : ∀ thread ∈ t.loops, ¬Live thread
  tasks : ∀ task ∈ t.tasks, task.place = .ended

structure Apart (t : Threads) : Prop where
  belong : LoopsBelong t
  videoWaits : t.enc.videoCQ.isWait = true
  audioWaits : t.enc.audioCQ.isWait = true
  tasks : ∀ task ∈ t.tasks, task.place ≠ .ended →
    task.session = t.enc.session ∧ (task.place = .captures ∨ task.place = .encodes)
  ended : t.ended ≤ t.enc.session
  sessionOver : t.ended = t.enc.session → Quiet t
  stoppedOver : t.enc.stopped = true → t.calling = none → t.ended = t.enc.session
  stopping : ∀ calling, t.calling = some calling → calling.call ≠ .opens → t.enc.stopped = true
  videoHalted : ∀ calling, t.calling = some calling →
    calling.call = .stopsAudioCQ ∨ calling.call = .frees → t.enc.videoCQ.isStop = true
  halted : ∀ calling, t.calling = some calling → calling.call = .frees →
    ∀ thread ∈ t.loops, Live thread → Halted t.enc thread
  opening : ∀ calling, t.calling = some calling → calling.call = .opens → Opening t
  callers : ∀ calling, t.calling = some calling → calling.task = none

section Loops

variable {enc : Encoder} {thread : LoopThread} {moved : Moved}

structure SameSession (before after : Encoder) : Prop where
  stopped : after.stopped = before.stopped
  eCtx : after.eCtx = before.eCtx
  videoStream : after.videoStream = before.videoStream
  audioStream : after.audioStream = before.audioStream
  session : after.session = before.session
  videoStop : after.videoCQ.isStop = before.videoCQ.isStop
  videoWaits : after.videoCQ.isWait = before.videoCQ.isWait
  audioWaits : after.audioCQ.isWait = before.audioCQ.isWait

theorem SameSession.refl (enc : Encoder) : SameSession enc enc :=
  ⟨rfl, rfl, rfl, rfl, rfl, rfl, rfl, rfl⟩

structure LoopMoves (enc : Encoder) (thread : LoopThread) (moved : Moved) : Prop where
  live : Live thread
  same : SameSession enc moved.enc
  audioStop : moved.enc.audioCQ.isStop = enc.audioCQ.isStop ∨ ¬IsVideo thread.loop
  spawned : ∀ task ∈ moved.spawned, thread.place = .spawns ∧ task.session = thread.session ∧
    (task.place = .captures ∨ task.place = .encodes)
  halted : enc.stopped = true → Halted enc thread →
    Halted moved.enc { thread with place := moved.place }
  idle : enc.stopped = true → enc.videoCQ.isWait = true → enc.audioCQ.isWait = true →
    Halted enc thread → ¬OnItsWay enc thread.place → ¬OnItsWay moved.enc moved.place

theorem moves_calm {after : Encoder} {place : LoopPlace} (live : Live thread)
    (same : SameSession enc after)
    (audioStop : after.audioCQ.isStop = enc.audioCQ.isStop ∨ ¬IsVideo thread.loop)
    (outside : ¬Dequeues place) (idle : ¬OnItsWay after place)
    (stepped : moves after place = some moved) : LoopMoves enc thread moved := by
  rw [← Option.some.inj stepped]
  constructor
  · exact live
  · exact same
  · exact audioStop
  · intro task member
    cases member
  · intro _ _ dequeues
    exact absurd dequeues outside
  · intro _ _ _ _ _
    exact idle

theorem moves_running {place : LoopPlace} (live : Live thread) (running : enc.stopped = false)
    (stepped : moves enc place = some moved) : LoopMoves enc thread moved := by
  rw [← Option.some.inj stepped]
  constructor
  · exact live
  · exact SameSession.refl enc
  · exact .inl rfl
  · intro task member
    cases member
  · intro stopped
    rw [running] at stopped
    cases stopped
  · intro stopped
    rw [running] at stopped
    cases stopped

theorem spawns_moves {next : LoopPlace} {first : TaskPlace} (spawning : thread.place = .spawns)
    (outside : ¬Dequeues next) (place : first = .captures ∨ first = .encodes)
    (stepped : some
      { enc := enc, place := next, spawned := [{ session := thread.session, place := first }] } =
        some moved) : LoopMoves enc thread moved := by
  rw [← Option.some.inj stepped]
  constructor
  · intro ended
    rw [spawning] at ended
    cases ended
  · exact SameSession.refl enc
  · exact .inl rfl
  · intro task member
    rw [List.mem_singleton.mp member]
    exact ⟨spawning, rfl, place⟩
  · intro _ _ dequeues
    exact absurd dequeues outside
  · intro _ _ _ _ idle
    rw [spawning] at idle
    exact absurd trivial idle

theorem video_dequeues_moves {onlyVideo : Bool} {place : DequeuePlace}
    (loop : thread.loop = .video onlyVideo) (at_place : thread.place = .dequeues place)
    (stepped : encodeVideoLoop enc onlyVideo thread.session (.dequeues place) = some moved) :
    LoopMoves enc thread moved := by
  have live : Live thread := by
    intro ended
    rw [at_place] at ended
    cases ended
  have flag := dequeue_statement_flag enc.videoCQ place
  have waiting := dequeue_statement_waits enc.videoCQ place
  have same : SameSession enc { enc with videoCQ := (dequeueStatement enc.videoCQ place).2 } :=
    ⟨rfl, rfl, rfl, rfl, rfl, flag, waiting, rfl⟩
  have haltedHere : Halted enc thread → enc.videoCQ.isStop = true := by
    intro halted
    have stops := halted (by rw [at_place]; trivial)
    rw [loop] at stops
    exact stops
  simp only [encodeVideoLoop] at stepped
  cases statement : dequeueStatement enc.videoCQ place with
  | mk progress q =>
      rw [statement] at flag same
      simp only [statement] at stepped
      cases progress with
      | goesOn next =>
          rw [← Option.some.inj stepped]
          refine ⟨live, same, .inl rfl, nofun, ?_, ?_⟩
          · intro _ halted _
            simp only [loop]
            exact flag.trans (haltedHere halted)
          · intro _ _ _ halted idle
            rw [at_place] at idle
            exact stopped_goes_on enc.videoCQ place (haltedHere halted) idle statement
      | returns msg element =>
          rw [← Option.some.inj stepped]
          refine ⟨live, same, .inl rfl, nofun, ?_, ?_⟩
          · intro _ _ dequeues
            simp only at dequeues
            split_ifs at dequeues
            · cases dequeues
            · cases dequeues
          · intro _ waits _ halted idle
            rw [at_place] at idle
            have stop := stopped_returns enc.videoCQ place (haltedHere halted) waits idle statement
            simp only [stop, if_true]
            exact id

theorem video_moves {onlyVideo : Bool} (loop : thread.loop = .video onlyVideo)
    (stepped : encodeVideoLoop enc onlyVideo thread.session thread.place = some moved) :
    LoopMoves enc thread moved := by
  have live : Live thread := by
    intro ended
    rw [ended] at stepped
    cases stepped
  have same := SameSession.refl enc
  cases place : thread.place with
  | begins =>
      rw [place] at stepped
      exact moves_calm live same (.inl rfl) id id stepped
  | testsStopped =>
      rw [place] at stepped
      simp only [encodeVideoLoop] at stepped
      cases stopped : enc.stopped with
      | true =>
          rw [stopped, if_pos rfl] at stepped
          exact moves_calm live same (.inl rfl) id id stepped
      | false =>
          simp only [stopped, Bool.false_eq_true, if_false] at stepped
          split_ifs at stepped
          · exact moves_running live stopped stepped
          · exact moves_running live stopped stepped
  | testsSilent =>
      rw [place] at stepped
      simp only [encodeVideoLoop] at stepped
      split_ifs at stepped with silent
      · exact moves_running live silent.2 stepped
      · exact moves_calm live same (.inl rfl) id id stepped
  | testsAudible =>
      rw [place] at stepped
      simp only [encodeVideoLoop] at stepped
      split_ifs at stepped with audible
      · exact moves_running live audible.2 stepped
      · exact moves_calm live same (.inl rfl) id id stepped
  | choosesBranch =>
      rw [place] at stepped
      cases stepped
  | spawns =>
      rw [place] at stepped
      cases onlyVideo with
      | true => exact spawns_moves place id (.inl rfl) stepped
      | false => exact spawns_moves place id (.inl rfl) stepped
  | dequeues inner =>
      rw [place] at stepped
      exact video_dequeues_moves loop place stepped
  | encodes =>
      rw [place] at stepped
      exact moves_calm live same (.inl rfl) id id stepped
  | ended => exact absurd place live

theorem audio_dequeues_moves {onlyAudio : Bool} {place : DequeuePlace}
    (loop : thread.loop = .audio onlyAudio) (at_place : thread.place = .dequeues place)
    (stepped : encodeAudioLoop enc onlyAudio thread.session (.dequeues place) = some moved) :
    LoopMoves enc thread moved := by
  have live : Live thread := by
    intro ended
    rw [at_place] at ended
    cases ended
  have isAudio : ¬IsVideo thread.loop := by
    rw [loop]
    exact id
  have flag := dequeue_statement_flag enc.audioCQ place
  have waiting := dequeue_statement_waits enc.audioCQ place
  have haltedHere : Halted enc thread → enc.audioCQ.isStop = true := by
    intro halted
    have stops := halted (by rw [at_place]; trivial)
    rw [loop] at stops
    exact stops
  simp only [encodeAudioLoop] at stepped
  cases statement : dequeueStatement enc.audioCQ place with
  | mk progress q =>
      rw [statement] at flag waiting
      simp only [statement] at stepped
      have same : ∀ queue : EncoderCQ ByteString, queue.isWait = enc.audioCQ.isWait →
          SameSession enc { enc with audioCQ := queue } :=
        fun queue kept => ⟨rfl, rfl, rfl, rfl, rfl, rfl, rfl, kept⟩
      cases progress with
      | goesOn next =>
          rw [← Option.some.inj stepped]
          refine ⟨live, same q waiting, .inr isAudio, nofun, ?_, ?_⟩
          · intro _ halted _
            simp only [loop]
            exact flag.trans (haltedHere halted)
          · intro _ _ _ halted idle
            rw [at_place] at idle
            exact stopped_goes_on enc.audioCQ place (haltedHere halted) idle statement
      | returns msg element =>
          simp only at stepped
          split_ifs at stepped with stop
          · exact moves_calm live (same q.clear.queue waiting) (.inr isAudio) id id stepped
          · rw [← Option.some.inj stepped]
            refine ⟨live, same q waiting, .inr isAudio, nofun, fun _ _ dequeues => dequeues.elim,
              ?_⟩
            intro _ _ waits halted idle
            rw [at_place] at idle
            exact absurd (stopped_returns enc.audioCQ place (haltedHere halted) waits idle
              statement) stop

theorem audio_moves {onlyAudio : Bool} (loop : thread.loop = .audio onlyAudio)
    (stepped : encodeAudioLoop enc onlyAudio thread.session thread.place = some moved) :
    LoopMoves enc thread moved := by
  have live : Live thread := by
    intro ended
    rw [ended] at stepped
    cases stepped
  have isAudio : ¬IsVideo thread.loop := by
    rw [loop]
    exact id
  have same : ∀ queue : EncoderCQ ByteString, queue.isWait = enc.audioCQ.isWait →
      SameSession enc { enc with audioCQ := queue } :=
    fun queue kept => ⟨rfl, rfl, rfl, rfl, rfl, rfl, rfl, kept⟩
  cases place : thread.place with
  | begins =>
      rw [place] at stepped
      exact moves_calm live (same enc.audioCQ.start rfl) (.inr isAudio) id id stepped
  | testsStopped =>
      rw [place] at stepped
      simp only [encodeAudioLoop] at stepped
      by_cases stopped : enc.stopped = true
      · rw [if_pos stopped] at stepped
        exact moves_calm live (same enc.audioCQ.clear.queue rfl) (.inr isAudio) id id stepped
      · rw [if_neg stopped] at stepped
        have running : enc.stopped = false := by simpa using stopped
        split_ifs at stepped
        · exact moves_running live running stepped
        · exact moves_running live running stepped
  | choosesBranch =>
      rw [place] at stepped
      rw [← Option.some.inj stepped]
      refine ⟨live, SameSession.refl enc, .inl rfl, nofun, ?_, ?_⟩
      · intro _ halted _
        have stops := halted (by rw [place]; trivial)
        rw [loop] at stops
        simp only [loop]
        exact stops
      · intro _ _ _ _ idle
        rw [place] at idle
        have audible : enc.eCtx.isSilent = false := by simpa [OnItsWay] using idle
        simp [audible, OnItsWay, Committed]
  | spawns =>
      rw [place] at stepped
      exact spawns_moves place id (.inr rfl) stepped
  | dequeues inner =>
      rw [place] at stepped
      exact audio_dequeues_moves loop place stepped
  | encodes =>
      rw [place] at stepped
      exact moves_calm live (SameSession.refl enc) (.inl rfl) id id stepped
  | testsSilent =>
      rw [place] at stepped
      cases stepped
  | testsAudible =>
      rw [place] at stepped
      cases stepped
  | ended => exact absurd place live

theorem loop_moves (stepped : loopStep enc thread = some moved) : LoopMoves enc thread moved := by
  unfold loopStep at stepped
  cases loop : thread.loop with
  | video onlyVideo =>
      simp only [loop] at stepped
      exact video_moves loop stepped
  | audio onlyAudio =>
      simp only [loop] at stepped
      exact audio_moves loop stepped

end Loops

section Steps

variable {t following : Threads} {number : Nat}

theorem stream_same {before after : Encoder} (same : SameSession before after) (loop : Loop) :
    streamOf after loop = streamOf before loop := by
  cases loop with
  | video onlyVideo => exact same.videoStream
  | audio onlyAudio => exact same.audioStream

theorem on_its_way_same {before after : Encoder} {place : LoopPlace}
    (same : after.eCtx = before.eCtx) : OnItsWay after place ↔ OnItsWay before place := by
  unfold OnItsWay
  rw [same]

theorem halted_after {thread : LoopThread} {moved : Moved} (belong : LoopsBelong t)
    (found : t.loops[number]? = some thread) (move : LoopMoves t.enc thread moved)
    (stopped : t.enc.stopped = true)
    (halted : ∀ entry ∈ t.loops, Live entry → Halted t.enc entry) :
    ∀ entry ∈ t.loops.set number { thread with place := moved.place }, Live entry →
      Halted moved.enc entry := by
  have mine := move.halted stopped (halted thread (List.mem_of_getElem? found) move.live)
  intro entry member live
  rcases List.mem_or_eq_of_mem_set member with before | rfl
  · have prior := halted entry before live
    obtain ⟨loop, session, place⟩ := entry
    cases loop with
    | video onlyVideo => exact fun dequeues => move.same.videoStop.trans (prior dequeues)
    | audio onlyAudio =>
        rcases move.audioStop with kept | isAudio
        · exact fun dequeues => kept.trans (prior dequeues)
        · rcases other_of_at_most_one belong.audio found ⟨move.live, isAudio⟩ member with
            same | other
          · rw [same]
            exact mine
          · exact absurd ⟨live, id⟩ other
  · exact mine

def afterLoop (t : Threads) (number : Nat) (thread : LoopThread) (moved : Moved) : Threads :=
  { t with
    enc := moved.enc
    loops := t.loops.set number { thread with place := moved.place }
    tasks := t.tasks ++ moved.spawned }

theorem belong_after {thread : LoopThread} {moved : Moved} (belong : LoopsBelong t)
    (found : t.loops[number]? = some thread) (move : LoopMoves t.enc thread moved) :
    LoopsBelong (afterLoop t number thread moved) where
  video := at_most_one_set belong.video found fun isVideo => ⟨move.live, isVideo.2⟩
  audio := at_most_one_set belong.audio found fun isAudio => ⟨move.live, isAudio.2⟩
  current := by
    intro entry inTable live
    simp only [afterLoop, stream_same move.same, move.same.session]
    rcases List.mem_or_eq_of_mem_set inTable with before | rfl
    · exact belong.current entry before live
    · exact belong.current thread (List.mem_of_getElem? found) move.live

theorem quiet_after {thread : LoopThread} {moved : Moved} (apart : Apart t)
    (found : t.loops[number]? = some thread) (move : LoopMoves t.enc thread moved)
    (quiet : Quiet t) : Quiet (afterLoop t number thread moved) := by
  have member := List.mem_of_getElem? found
  have stopped := quiet.stopped thread member move.live
  constructor
  · intro _ _ _
    exact move.same.stopped.trans stopped
  · exact halted_after apart.belong found move stopped quiet.halted
  · intro entry inTable
    rcases List.mem_or_eq_of_mem_set inTable with before | rfl
    · exact mt (on_its_way_same move.same.eCtx).mp (quiet.idle entry before)
    · exact move.idle stopped apart.videoWaits apart.audioWaits
        (quiet.halted thread member move.live) (quiet.idle thread member)
  · intro task inTasks
    rcases List.mem_append.mp inTasks with before | spawned
    · exact quiet.tasks task before
    · have spawning := (move.spawned task spawned).1
      have idle := quiet.idle thread member
      rw [spawning] at idle
      exact absurd trivial idle

theorem loop_goes_on_apart (apart : Apart t) (stepped : loopGoesOn t number = some following) :
    Apart following := by
  unfold loopGoesOn at stepped
  cases found : t.loops[number]? with
  | none =>
      simp only [found] at stepped
      cases stepped
  | some thread =>
      simp only [found] at stepped
      rcases Option.map_eq_some_iff.mp stepped with ⟨moved, went, rfl⟩
      have move := loop_moves went
      have member := List.mem_of_getElem? found
      have mine := apart.belong.current thread member move.live
      constructor
      · exact belong_after apart.belong found move
      · exact move.same.videoWaits.trans apart.videoWaits
      · exact move.same.audioWaits.trans apart.audioWaits
      · intro task inTasks pending
        simp only [move.same.session]
        rcases List.mem_append.mp inTasks with before | spawned
        · exact apart.tasks task before pending
        · rcases move.spawned task spawned with ⟨_, session, place⟩
          exact ⟨session.trans mine.1, place⟩
      · simp only [move.same.session]
        exact apart.ended
      · intro ended
        simp only [move.same.session] at ended
        exact quiet_after apart found move (apart.sessionOver ended)
      · intro stopped free
        simp only [move.same.session]
        exact apart.stoppedOver (move.same.stopped.symm.trans stopped) free
      · intro calling called notOpening
        exact move.same.stopped.trans (apart.stopping calling called notOpening)
      · intro calling called place
        exact move.same.videoStop.trans (apart.videoHalted calling called place)
      · intro calling called frees
        have stopped := apart.stopping calling called (by rw [frees]; decide)
        exact halted_after apart.belong found move stopped (apart.halted calling called frees)
      · intro calling called opens
        exact absurd move.live ((apart.opening calling called opens).loops thread member)
      · exact apart.callers

theorem begin_stop_apart (apart : Apart t) (stepped : beginStop t none = some following) :
    Apart following := by
  unfold beginStop at stepped
  cases free : t.calling with
  | some calling =>
      simp only [free] at stepped
      cases stepped
  | none =>
      simp only [free] at stepped
      split_ifs at stepped with stopped
      · rw [← Option.some.inj stepped]
        exact apart
      · rw [← Option.some.inj stepped]
        exact
          { belong := ⟨apart.belong.video, apart.belong.audio, apart.belong.current⟩
            videoWaits := apart.videoWaits
            audioWaits := apart.audioWaits
            tasks := apart.tasks
            ended := apart.ended
            sessionOver := fun ended =>
              { stopped := fun _ _ _ => rfl
                halted := fun thread member live =>
                  absurd ((apart.sessionOver ended).stopped thread member live) stopped
                idle := (apart.sessionOver ended).idle
                tasks := (apart.sessionOver ended).tasks }
            stoppedOver := nofun
            stopping := fun _ _ _ => rfl
            videoHalted := by
              intro calling called place
              rw [← Option.some.inj called] at place
              rcases place with stops | frees
              · cases stops
              · cases frees
            halted := by
              intro calling called place
              rw [← Option.some.inj called] at place
              cases place
            opening := by
              intro calling called place
              rw [← Option.some.inj called] at place
              cases place
            callers := by
              intro calling called
              rw [← Option.some.inj called] }

theorem at_most_one_dead {kind : LoopThread → Prop} {threads : List LoopThread}
    (live : ∀ thread, kind thread → Live thread) (dead : ∀ thread ∈ threads, ¬Live thread) :
    AtMostOne kind threads :=
  at_most_one_of_none fun thread member isKind => dead thread member (live thread isKind)

theorem dead_not_on_its_way {enc : Encoder} {thread : LoopThread} (dead : ¬Live thread) :
    ¬OnItsWay enc thread.place := by
  have ended : thread.place = .ended := by
    by_contra other
    exact dead other
  rw [ended]
  exact id

theorem quiet_of_dead (dead : ∀ thread ∈ t.loops, ¬Live thread)
    (tasks : ∀ task ∈ t.tasks, task.place = .ended) : Quiet t where
  stopped := fun thread member live => absurd live (dead thread member)
  halted := fun thread member live => absurd live (dead thread member)
  idle := fun thread member => dead_not_on_its_way (dead thread member)
  tasks := tasks

theorem begin_initialize_apart {mEncCtx : EncoderContext} (apart : Apart t)
    (allowed : OneSessionAtATime t (.initializes mEncCtx))
    (stepped : beginInitialize t mEncCtx none = some following) : Apart following := by
  unfold beginInitialize at stepped
  cases free : t.calling with
  | some calling =>
      simp only [free] at stepped
      cases stepped
  | none =>
      simp only [free] at stepped
      split_ifs at stepped with stopped
      · have dead := allowed free stopped
        have quiet := apart.sessionOver (apart.stoppedOver stopped free)
        rw [← Option.some.inj stepped]
        exact
          { belong :=
              { video := at_most_one_dead (fun _ live => live.1) dead
                audio := at_most_one_dead (fun _ live => live.1) dead
                current := fun thread member live => absurd live (dead thread member) }
            videoWaits := apart.videoWaits
            audioWaits := apart.audioWaits
            tasks := fun task member pending => absurd (quiet.tasks task member) pending
            ended := apart.ended
            sessionOver := fun _ => quiet_of_dead dead quiet.tasks
            stoppedOver := nofun
            stopping := by
              intro calling called notOpening
              rw [← Option.some.inj called] at notOpening
              exact absurd rfl notOpening
            videoHalted := by
              intro calling called place
              rw [← Option.some.inj called] at place
              rcases place with stops | frees
              · cases stops
              · cases frees
            halted := by
              intro calling called place
              rw [← Option.some.inj called] at place
              cases place
            opening := fun _ _ _ => ⟨rfl, dead, quiet.tasks⟩
            callers := by
              intro calling called
              rw [← Option.some.inj called] }
      · rw [← Option.some.inj stepped]
        exact apart

theorem started_loops_audio {eCtx : EncoderContext} (named : eCtx.audioCodecName ≠ "none") :
    startedLoops eCtx =
      if eCtx.videoCodecName = "none" then [.audio true] else [.video false, .audio false] := by
  by_cases noVideo : eCtx.videoCodecName = "none"
  · simp [startedLoops, named, noVideo]
  · simp [startedLoops, named, noVideo]

theorem started_loops_belong {eCtx : EncoderContext} {enc : Encoder} {session : Nat}
    (dead : ∀ thread ∈ t.loops, ¬Live thread) (named : eCtx.audioCodecName ≠ "none")
    (current : enc.session = session) (audio : enc.audioStream = true)
    (video : eCtx.videoCodecName ≠ "none" → enc.videoStream = true) :
    LoopsBelong
      { t with
        enc := enc
        loops := t.loops ++ (startedLoops eCtx).map (detached session)
        calling := none } := by
  have loops : ∀ thread ∈ t.loops ++ (startedLoops eCtx).map (detached session), Live thread →
      ∃ loop ∈ startedLoops eCtx, thread = detached session loop := by
    intro thread member live
    rcases List.mem_append.mp member with before | started
    · exact absurd live (dead thread before)
    · rcases List.mem_map.mp started with ⟨loop, among, rfl⟩
      exact ⟨loop, among, rfl⟩
  have deadVideo : ∀ thread ∈ t.loops, ¬LiveVideo thread :=
    fun thread member live => dead thread member live.1
  have deadAudio : ∀ thread ∈ t.loops, ¬LiveAudio thread :=
    fun thread member live => dead thread member live.1
  rw [started_loops_audio named] at loops ⊢
  split_ifs at loops ⊢ with noVideo
  · constructor
    · apply at_most_one_of_none
      intro thread member isVideo
      rcases loops thread member isVideo.1 with ⟨loop, among, rfl⟩
      rw [List.mem_singleton.mp among] at isVideo
      exact isVideo.2
    · exact (at_most_one_append_iff ⟨nofun, id⟩).mpr deadAudio
    · intro thread member live
      rcases loops thread member live with ⟨loop, among, rfl⟩
      rw [List.mem_singleton.mp among]
      exact ⟨current.symm, audio⟩
  · have hasVideo := video noVideo
    constructor
    · have first : AtMostOne LiveVideo (t.loops ++ [detached session (.video false)]) :=
        (at_most_one_append_iff ⟨nofun, trivial⟩).mpr deadVideo
      have both := at_most_one_append_other first
        (show ¬LiveVideo (detached session (.audio false)) from fun live => live.2)
      rwa [List.append_assoc] at both
    · have noneYet : ∀ thread ∈ t.loops ++ [detached session (.video false)],
          ¬LiveAudio thread := by
        intro thread member live
        rcases List.mem_append.mp member with before | started
        · exact deadAudio thread before live
        · rw [List.mem_singleton.mp started] at live
          exact live.2 trivial
      have both : AtMostOne LiveAudio
          (t.loops ++ [detached session (.video false)] ++ [detached session (.audio false)]) :=
        (at_most_one_append_iff ⟨nofun, id⟩).mpr noneYet
      rwa [List.append_assoc] at both
    · intro thread member live
      rcases loops thread member live with ⟨loop, among, rfl⟩
      rcases List.mem_cons.mp among with rfl | second
      · exact ⟨current.symm, hasVideo⟩
      · rw [List.mem_singleton.mp second]
        exact ⟨current.symm, audio⟩

theorem has_audio_named {lib : Libav} {eCtx : EncoderContext} (audio : lib.hasAudio eCtx = true) :
    eCtx.audioCodecName ≠ "none" := by
  unfold Libav.hasAudio at audio
  cases context : lib.outputContext with
  | none =>
      rw [context] at audio
      cases audio
  | some format =>
      simp only [context, wantsAudio, Bool.and_eq_true, decide_eq_true_eq] at audio
      exact audio.2

theorem opens_apart {lib : Libav} (apart : Apart t) (opening : Opening t)
    (streams : lib.opens t.enc.eCtx = true → lib.hasAudio t.enc.eCtx = true ∧
      (t.enc.eCtx.videoCodecName ≠ "none" → lib.hasVideo t.enc.eCtx = true)) :
    Apart (opens t lib) := by
  have running : t.enc.stopped = false := by
    rw [← opening.fresh]
    rfl
  unfold opens
  rcases open_session_opens lib t.enc t.enc.eCtx with ⟨failure, result, _, _, kept⟩ |
    ⟨after, result, positive, opened⟩
  · rw [opening.fresh] at result kept
    simp only [result]
    have quiet : Quiet { t with enc := failure.encoder, calling := none } :=
      quiet_of_dead opening.loops opening.tasks
    exact
      { belong :=
          { video := at_most_one_dead (fun _ live => live.1) opening.loops
            audio := at_most_one_dead (fun _ live => live.1) opening.loops
            current := fun thread member live => absurd live (opening.loops thread member) }
        videoWaits := by
          simp only [kept.videoCQ]
          exact apart.videoWaits
        audioWaits := by
          simp only [kept.audioCQ]
          exact apart.audioWaits
        tasks := fun task member pending => absurd (opening.tasks task member) pending
        ended := by
          simp only [kept.session]
          exact apart.ended
        sessionOver := fun _ => quiet
        stoppedOver := by
          intro stopped
          simp only [kept.stopped, running] at stopped
          cases stopped
        stopping := nofun
        videoHalted := nofun
        halted := nofun
        opening := nofun
        callers := nofun }
  · rw [opening.fresh] at result
    simp only [result]
    have context : after.eCtx = t.enc.eCtx := opened.eCtx
    have session : after.session = t.enc.session + 1 := opened.session
    have videoCQ : after.videoCQ = t.enc.videoCQ := opened.videoCQ
    have audioCQ : after.audioCQ = t.enc.audioCQ := opened.audioCQ
    have stopped : after.stopped = false := opened.stopped
    have videoStream : after.videoStream = lib.hasVideo t.enc.eCtx := opened.videoStream
    have audioStream : after.audioStream = lib.hasAudio t.enc.eCtx := opened.audioStream
    rcases streams positive with ⟨audio, video⟩
    have below := apart.ended
    exact
      { belong := by
          apply started_loops_belong opening.loops
          · rw [context]
            exact has_audio_named audio
          · rfl
          · exact audioStream.trans audio
          · intro named
            rw [context] at named
            exact videoStream.trans (video named)
        videoWaits := by
          simp only [videoCQ]
          exact apart.videoWaits
        audioWaits := by
          simp only [audioCQ]
          exact apart.audioWaits
        tasks := fun task member pending => absurd (opening.tasks task member) pending
        ended := by
          simp only [session]
          omega
        sessionOver := by
          intro ended
          simp only [session] at ended
          omega
        stoppedOver := by
          intro raised
          simp only [stopped] at raised
          cases raised
        stopping := nofun
        videoHalted := nofun
        halted := nofun
        opening := nofun
        callers := nofun }

theorem frees_apart (apart : Apart t) (stopped : t.enc.stopped = true)
    (halted : ∀ thread ∈ t.loops, Live thread → Halted t.enc thread)
    (idle : ∀ thread ∈ t.loops, ¬OnItsWay t.enc thread.place)
    (tasks : ∀ task ∈ t.tasks, task.place = .ended) :
    Apart
      { t with
        enc := { t.enc with fmtCtx := false, headerWritten := false }
        calling := none
        ended := t.enc.session } where
  belong := ⟨apart.belong.video, apart.belong.audio, apart.belong.current⟩
  videoWaits := apart.videoWaits
  audioWaits := apart.audioWaits
  tasks := apart.tasks
  ended := Nat.le_refl _
  sessionOver := fun _ => ⟨fun _ _ _ => stopped, halted, idle, tasks⟩
  stoppedOver := fun _ _ => rfl
  stopping := nofun
  videoHalted := nofun
  halted := nofun
  opening := nofun
  callers := nofun

structure QueuesOnly (before after : Encoder) : Prop where
  stopped : after.stopped = before.stopped
  eCtx : after.eCtx = before.eCtx
  videoStream : after.videoStream = before.videoStream
  audioStream : after.audioStream = before.audioStream
  session : after.session = before.session
  videoWaits : after.videoCQ.isWait = before.videoCQ.isWait
  audioWaits : after.audioCQ.isWait = before.audioCQ.isWait
  videoStop : before.videoCQ.isStop = true → after.videoCQ.isStop = true
  audioStop : before.audioCQ.isStop = true → after.audioCQ.isStop = true
  fresh : reset before before.eCtx = before → reset after after.eCtx = after

theorem halted_queues {before after : Encoder} {thread : LoopThread}
    (queues : QueuesOnly before after) (halted : Halted before thread) : Halted after thread := by
  obtain ⟨loop, session, place⟩ := thread
  cases loop with
  | video onlyVideo => exact fun dequeues => queues.videoStop (halted dequeues)
  | audio onlyAudio => exact fun dequeues => queues.audioStop (halted dequeues)

theorem stream_queues {before after : Encoder} (queues : QueuesOnly before after) (loop : Loop) :
    streamOf after loop = streamOf before loop := by
  cases loop with
  | video onlyVideo => exact queues.videoStream
  | audio onlyAudio => exact queues.audioStream

theorem apart_queues {after : Encoder} (apart : Apart t) (queues : QueuesOnly t.enc after) :
    Apart { t with enc := after } := by
  constructor
  · constructor
    · exact apart.belong.video
    · exact apart.belong.audio
    · intro thread member live
      simp only [stream_queues queues, queues.session]
      exact apart.belong.current thread member live
  · exact queues.videoWaits.trans apart.videoWaits
  · exact queues.audioWaits.trans apart.audioWaits
  · intro task member pending
    simp only [queues.session]
    exact apart.tasks task member pending
  · simp only [queues.session]
    exact apart.ended
  · intro ended
    simp only [queues.session] at ended
    have quiet := apart.sessionOver ended
    constructor
    · intro thread member live
      exact queues.stopped.trans (quiet.stopped thread member live)
    · intro thread member live
      exact halted_queues queues (quiet.halted thread member live)
    · intro thread member
      rw [on_its_way_same queues.eCtx]
      exact quiet.idle thread member
    · exact quiet.tasks
  · intro stopped free
    simp only [queues.session]
    exact apart.stoppedOver (queues.stopped.symm.trans stopped) free
  · intro calling called notOpening
    exact queues.stopped.trans (apart.stopping calling called notOpening)
  · intro calling called place
    exact queues.videoStop (apart.videoHalted calling called place)
  · intro calling called frees thread member live
    exact halted_queues queues (apart.halted calling called frees thread member live)
  · intro calling called opens
    have opening := apart.opening calling called opens
    exact ⟨queues.fresh opening.fresh, opening.loops, opening.tasks⟩
  · exact apart.callers

theorem next_call_apart {call : Call} (apart : Apart t) (stopped : t.enc.stopped = true)
    (stops : call = .stopsAudioCQ ∨ call = .frees) (videoStop : t.enc.videoCQ.isStop = true)
    (halted : call = .frees → ∀ thread ∈ t.loops, Live thread → Halted t.enc thread) :
    Apart { t with calling := some { call := call, task := none } } where
  belong := ⟨apart.belong.video, apart.belong.audio, apart.belong.current⟩
  videoWaits := apart.videoWaits
  audioWaits := apart.audioWaits
  tasks := apart.tasks
  ended := apart.ended
  sessionOver := fun ended =>
    ⟨(apart.sessionOver ended).stopped, (apart.sessionOver ended).halted,
      (apart.sessionOver ended).idle, (apart.sessionOver ended).tasks⟩
  stoppedOver := nofun
  stopping := fun _ _ _ => stopped
  videoHalted := fun _ _ _ => videoStop
  halted := by
    intro calling called frees
    rw [← Option.some.inj called] at frees
    exact halted frees
  opening := by
    intro calling called opens
    rw [← Option.some.inj called] at opens
    simp only at opens
    rw [opens] at stops
    rcases stops with audio | last
    · cases audio
    · cases last
  callers := by
    intro calling called
    rw [← Option.some.inj called]

theorem call_goes_on_apart {lib : Libav} (apart : Apart t)
    (allowed : OneSessionAtATime t (.callGoesOn lib))
    (stepped : callGoesOn t lib = some following) : Apart following := by
  unfold callGoesOn at stepped
  cases called : t.calling with
  | none =>
      simp only [called] at stepped
      cases stepped
  | some calling =>
      have noTask := apart.callers calling called
      obtain ⟨call, task⟩ := calling
      simp only at noTask
      subst noTask
      cases call with
      | stopsVideoCQ =>
          simp only [called] at stepped
          rw [← Option.some.inj stepped]
          have stopped := apart.stopping _ called (by decide)
          have queues : QueuesOnly t.enc { t.enc with videoCQ := t.enc.videoCQ.stop } :=
            ⟨rfl, rfl, rfl, rfl, rfl, rfl, rfl, fun _ => rfl, id, fun fresh => by
              rw [← fresh]; rfl⟩
          have raised := apart_queues apart queues
          exact next_call_apart raised stopped (.inl rfl) rfl nofun
      | stopsAudioCQ =>
          simp only [called] at stepped
          rw [← Option.some.inj stepped]
          have stopped := apart.stopping _ called (by decide)
          have videoStop := apart.videoHalted _ called (.inl rfl)
          have queues : QueuesOnly t.enc { t.enc with audioCQ := t.enc.audioCQ.stop } :=
            ⟨rfl, rfl, rfl, rfl, rfl, rfl, rfl, id, fun _ => rfl, fun fresh => by
              rw [← fresh]; rfl⟩
          have raised := apart_queues apart queues
          apply next_call_apart raised stopped (.inr rfl) videoStop
          intro _ thread _ _
          obtain ⟨loop, session, place⟩ := thread
          cases loop with
          | video onlyVideo => exact fun _ => videoStop
          | audio onlyAudio => exact fun _ => rfl
      | frees =>
          simp only [called] at stepped
          rw [← Option.some.inj stepped]
          have returns := (allowed _ called).2 rfl
          exact frees_apart apart (apart.stopping _ called (by decide))
            (apart.halted _ called rfl) returns.1 returns.2
      | opens =>
          simp only [called] at stepped
          rw [← Option.some.inj stepped]
          exact opens_apart apart (apart.opening _ called rfl) ((allowed _ called).1 rfl)

theorem moved_task_apart {task next : Task} (apart : Apart t)
    (found : t.tasks[number]? = some task) (pending : task.place ≠ .ended)
    (session : next.session = task.session)
    (place : next.place ≠ .ended → next.place = .captures ∨ next.place = .encodes) :
    Apart { t with tasks := t.tasks.set number next } := by
  have member := List.mem_of_getElem? found
  have mine := apart.tasks task member pending
  exact
    { belong := ⟨apart.belong.video, apart.belong.audio, apart.belong.current⟩
      videoWaits := apart.videoWaits
      audioWaits := apart.audioWaits
      tasks := by
        intro entry inTable unfinished
        rcases List.mem_or_eq_of_mem_set inTable with before | rfl
        · exact apart.tasks entry before unfinished
        · exact ⟨session.trans mine.1, place unfinished⟩
      ended := apart.ended
      sessionOver := fun ended => absurd ((apart.sessionOver ended).tasks task member) pending
      stoppedOver := apart.stoppedOver
      stopping := apart.stopping
      videoHalted := apart.videoHalted
      halted := apart.halted
      opening := fun calling called opens =>
        absurd ((apart.opening calling called opens).tasks task member) pending
      callers := apart.callers }

theorem task_goes_on_apart {width height : Int} (apart : Apart t)
    (allowed : OneSessionAtATime t (.taskGoesOn number width height))
    (stepped : taskGoesOn t number width height = some following) : Apart following := by
  unfold taskGoesOn at stepped
  cases found : t.tasks[number]? with
  | none =>
      simp only [found] at stepped
      cases stepped
  | some task =>
      have member := List.mem_of_getElem? found
      simp only [found] at stepped
      -- The two steps that the condition leaves change the place of the task only.
      cases place : task.place with
      | captures =>
          have same := allowed task found place
          simp only [place, if_pos same] at stepped
          rw [← Option.some.inj stepped]
          exact moved_task_apart apart found (by simp [place]) rfl (fun _ => .inr rfl)
      | encodes =>
          simp only [place] at stepped
          rw [← Option.some.inj stepped]
          exact moved_task_apart apart found (by simp [place]) rfl
            (fun unfinished => absurd rfl unfinished)
      | stops =>
          rcases (apart.tasks task member (by simp [place])).2 with other | other
          · rw [place] at other
            cases other
          · rw [place] at other
            cases other
      | initializes =>
          rcases (apart.tasks task member (by simp [place])).2 with other | other
          · rw [place] at other
            cases other
          · rw [place] at other
            cases other
      | ended =>
          simp only [place] at stepped
          cases stepped

theorem step_apart {event : ThreadEvent} (apart : Apart t) (allowed : OneSessionAtATime t event)
    (stepped : step t event = some following) : Apart following := by
  cases event with
  | initializes mEncCtx => exact begin_initialize_apart apart allowed stepped
  | stops => exact begin_stop_apart apart stepped
  | callGoesOn lib => exact call_goes_on_apart apart allowed stepped
  | loopGoesOn number => exact loop_goes_on_apart apart stepped
  | taskGoesOn number width height => exact task_goes_on_apart apart allowed stepped
  | enqueuesVideo element =>
      rw [← Option.some.inj stepped]
      have flag := enqueue_keeps_flag t.enc.videoCQ element
      have waits := enqueue_keeps_waits t.enc.videoCQ element
      exact apart_queues apart
        ⟨rfl, rfl, rfl, rfl, rfl, waits, rfl, fun raised => flag.trans raised, id, fun fresh => by
          rw [← fresh]; rfl⟩
  | enqueuesAudio element =>
      rw [← Option.some.inj stepped]
      have flag := enqueue_keeps_flag t.enc.audioCQ element
      have waits := enqueue_keeps_waits t.enc.audioCQ element
      exact apart_queues apart
        ⟨rfl, rfl, rfl, rfl, rfl, rfl, waits, id, fun raised => flag.trans raised, fun fresh => by
          rw [← fresh]; rfl⟩

theorem apart_encodes (apart : Apart t) (event : ThreadEvent) : EncodesInSession t event := by
  cases event with
  | loopGoesOn number =>
      intro thread found encoding
      have member := List.mem_of_getElem? found
      have session := (apart.belong.current thread member (by simp [Live, encoding])).1
      have below := apart.ended
      have open_session : t.ended ≠ t.enc.session := by
        intro ended
        have idle := (apart.sessionOver ended).idle thread member
        rw [encoding] at idle
        exact idle trivial
      omega
  | taskGoesOn number width height =>
      intro task found encoding
      have member := List.mem_of_getElem? found
      have session := (apart.tasks task member (by simp [encoding])).1
      have below := apart.ended
      have open_session : t.ended ≠ t.enc.session := by
        intro ended
        have finished := (apart.sessionOver ended).tasks task member
        rw [encoding] at finished
        cases finished
      omega
  | initializes mEncCtx => trivial
  | stops => trivial
  | callGoesOn lib => trivial
  | enqueuesVideo element => trivial
  | enqueuesAudio element => trivial

theorem constructed_apart (eCtx : EncoderContext) (audioBytes : Int) :
    Apart (constructedThreads eCtx audioBytes) where
  belong := ⟨at_most_one_nil, at_most_one_nil, nofun⟩
  videoWaits := rfl
  audioWaits := rfl
  tasks := nofun
  ended := Nat.le_refl _
  sessionOver := fun _ => ⟨nofun, nofun, nofun, nofun⟩
  stoppedOver := fun _ _ => rfl
  stopping := nofun
  videoHalted := nofun
  halted := nofun
  opening := nofun
  callers := nofun

end Steps

/-- In every run of the encoder with its threads, under any scheduling, whose
steps keep the sessions one at a time, the live loops are one of each kind at
most, of the current session and for its streams, and no thread encodes for a
session whose `stop` has returned. -/
theorem sessions_apart_along (eCtx : EncoderContext) (audioBytes : Int)
    (events : List ThreadEvent)
    (allowed : Along step OneSessionAtATime (constructedThreads eCtx audioBytes) events) :
    Along step SessionsApart (constructedThreads eCtx audioBytes) events := by
  apply along_of_invariant Apart _ _ (constructed_apart eCtx audioBytes) allowed
  · intro t event apart permitted
    exact ⟨fun following stepped => (step_apart apart permitted stepped).belong,
      apart_encodes apart event⟩
  · intro t event following apart permitted stepped
    exact step_apart apart permitted stepped

def sampleContext (videoCodecName audioCodecName : String) : EncoderContext where
  videoCodecName := videoCodecName
  audioCodecName := audioCodecName
  width := 800
  height := 600
  framerate := 25
  outSmpFmt := .s16
  samplerate := 44100
  channels := 2
  isSilent := true

def bothCodecs : EncoderContext := sampleContext "libx264" "libfdk_aac"

def sampleThreads : Threads := constructedThreads bothCodecs 0

def sampleLib : Libav := Libav.succeeds [] []

def restartedLater : List ThreadEvent :=
  [.initializes bothCodecs, .callGoesOn sampleLib, .loopGoesOn 0, .loopGoesOn 1, .stops,
    .callGoesOn sampleLib, .callGoesOn sampleLib, .callGoesOn sampleLib, .loopGoesOn 0,
    .loopGoesOn 1, .initializes bothCodecs, .callGoesOn sampleLib]

theorem call_allowed_elsewhere {t : Threads} {call : Call}
    (called : t.calling = some { call := call, task := none })
    (notOpening : call ≠ .opens) (notFreeing : call ≠ .frees) :
    OneSessionAtATime t (.callGoesOn sampleLib) := by
  intro calling same
  rw [called] at same
  rw [← Option.some.inj same]
  exact ⟨fun opens => absurd opens notOpening, fun frees => absurd frees notFreeing⟩

theorem opens_allowed {t : Threads} (called : t.calling = some { call := .opens, task := none })
    (context : t.enc.eCtx = bothCodecs) : OneSessionAtATime t (.callGoesOn sampleLib) := by
  intro calling same
  rw [called] at same
  rw [← Option.some.inj same, context]
  exact ⟨fun _ _ => ⟨rfl, fun _ => rfl⟩, nofun⟩

theorem frees_allowed {t : Threads} (called : t.calling = some { call := .frees, task := none })
    (places : ∀ thread ∈ t.loops, thread.place = .testsStopped) (tasks : t.tasks = []) :
    OneSessionAtATime t (.callGoesOn sampleLib) := by
  intro calling same
  rw [called] at same
  rw [← Option.some.inj same, tasks]
  refine ⟨nofun, fun _ => ⟨?_, nofun⟩⟩
  intro thread member
  rw [places thread member]
  exact id

theorem sessions_apart_along_restarted : Along step SessionsApart sampleThreads restartedLater := by
  apply sessions_apart_along bothCodecs 0
  apply along_cons rfl nofun
  apply along_cons rfl (opens_allowed rfl rfl)
  apply along_cons rfl trivial
  apply along_cons rfl trivial
  apply along_cons rfl trivial
  apply along_cons rfl (call_allowed_elsewhere rfl (by decide) (by decide))
  apply along_cons rfl (call_allowed_elsewhere rfl (by decide) (by decide))
  apply along_cons rfl (frees_allowed rfl (by decide) rfl)
  apply along_cons rfl trivial
  apply along_cons rfl trivial
  apply along_cons rfl (fun _ _ => by decide)
  exact along_cons rfl (opens_allowed rfl rfl) trivial

def videoAlone : List ThreadEvent :=
  [.initializes (sampleContext "libx264" "none"), .callGoesOn sampleLib]

def restartedByCapture : List ThreadEvent :=
  [.initializes bothCodecs, .callGoesOn sampleLib, .loopGoesOn 0, .loopGoesOn 0, .loopGoesOn 0,
    .loopGoesOn 0, .taskGoesOn 0 1024 768, .taskGoesOn 0 1024 768, .callGoesOn sampleLib,
    .callGoesOn sampleLib, .callGoesOn sampleLib, .taskGoesOn 0 1024 768, .callGoesOn sampleLib,
    .taskGoesOn 0 1024 768]

/-- With video alone two video loops are started, and one for audio without a
stream. After a restart by a capture thread both video loops are live, and the
capture thread encodes in the session of the other one. -/
theorem sessions_overlap :
    ¬Along step SessionsApart (constructedThreads bothCodecs 0) videoAlone ∧
      ¬Along step SessionsApart (constructedThreads bothCodecs 0) restartedByCapture := by
  constructor
  · intro apart
    have belong := (apart.2 _ rfl).1.1 _ rfl
    have same := belong.video 0 1 _ _ rfl rfl ⟨nofun, trivial⟩ ⟨nofun, trivial⟩
    cases same
  · intro apart
    have last := (((((((((((((apart.2 _ rfl).2 _ rfl).2 _ rfl).2 _ rfl).2 _ rfl).2 _ rfl).2 _
      rfl).2 _ rfl).2 _ rfl).2 _ rfl).2 _ rfl).2 _ rfl).2 _ rfl).1.2 _ rfl rfl
    exact absurd last (by decide)

end Collabo.LoopThreads
