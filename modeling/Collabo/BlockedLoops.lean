import Collabo.QueueStatements
import Collabo.Library.PartialRuns

/-!
# The loops of a session and `setSilent`

The loops of one open session, whose `stopped` is false throughout, beside one
thread that calls `setSilent` and any that call `encodeAudio`. `setSilent` wakes
the waiter of `videoCQ` and never that of `audioCQ`, and it does so before it
raises the flag of the queue. An `enqueue` is one step, with its `notify_one`.
-/

namespace Collabo.BlockedLoops

open PartialRuns Collabo.EncoderQueue Collabo.QueueStatements

set_option autoImplicit false

variable {Payload : Type}

/-- The loops that the session started: `encodeAudioLoop` alone with `onlyAudio`,
or both loops without their flags. -/
inductive Mode where
  | combined
  | onlyAudio
  deriving DecidableEq, Repr

inductive Wait where
  | enters
  | blocked
  | notified
  deriving DecidableEq, Repr

/-- A thread in `dequeue`; `wait` counts at the place `waits` only. -/
structure Dequeuing where
  place : DequeuePlace
  wait : Wait
  deriving DecidableEq, Repr

def dequeueBegins : Dequeuing where
  place := .testsEmpty
  wait := .enters

def dequeueGoesOn (q : EncoderCQ Payload) (d : Dequeuing) :
    Option (Progress Dequeuing Payload × EncoderCQ Payload) :=
  if d.place = .waits ∧ d.wait = .enters then some (.goesOn { d with wait := .blocked }, q)
  else if d.place = .waits ∧ d.wait = .blocked then none
  else
    match dequeueStatement q d.place with
    | (.goesOn next, following) => some (.goesOn { place := next, wait := .enters }, following)
    | (.returns msg element, following) => some (.returns msg element, following)

def Dequeuing.notify (d : Dequeuing) : Dequeuing :=
  if d.place = .waits ∧ d.wait = .blocked then { d with wait := .notified } else d

/-- `silentBranch` is where `encodeVideoLoop` starts a capture thread and sleeps. -/
inductive VideoPlace (Payload : Type) where
  | testsSilent
  | silentBranch
  | testsAudible
  | dequeues (d : Dequeuing)
  | encodes (element : Option (EncoderElement Payload))
  | ended
  deriving DecidableEq, Repr

/-- Only the loop with `onlyAudio` has a test of `isSilent` and a silent branch
of its own; the other one captures a frame for the video while it encodes. -/
inductive AudioPlace (Payload : Type) where
  | begins
  | testsSilent
  | silentBranch
  | dequeues (d : Dequeuing)
  | encodes (element : Option (EncoderElement Payload))
  | captures (element : Option (EncoderElement Payload))
  | ended
  deriving DecidableEq, Repr

inductive SetSilent where
  | returned (last : Option Bool)
  | startsVideoCQ
  | writes (silent : Bool)
  | notifiesVideoCQ
  | raisesVideoCQ
  deriving DecidableEq, Repr

/-- `captures` counts the threads of the silent branch that have not enqueued yet. -/
structure Session (Payload : Type) where
  mode : Mode
  isSilent : Bool
  videoCQ : EncoderCQ Payload
  audioCQ : EncoderCQ Payload
  videoLoop : VideoPlace Payload
  audioLoop : AudioPlace Payload
  captures : Nat
  setting : SetSilent
  deriving DecidableEq, Repr

/-- `frame` is what the audio loop captures if a video frame is due. The last
two events are spurious wake-ups. -/
inductive SessionEvent (Payload : Type) where
  | callsSetSilent (silent : Bool)
  | setSilentGoesOn
  | encodesAudio (element : EncoderElement Payload)
  | videoGoesOn
  | audioGoesOn (frame : Option (EncoderElement Payload))
  | captureEnqueues (element : EncoderElement Payload)
  | videoWakes
  | audioWakes

def opened (mode : Mode) (isSilent : Bool) (videoCQ audioCQ : EncoderCQ Payload) :
    Session Payload where
  mode := mode
  isSilent := isSilent
  videoCQ := videoCQ
  audioCQ := audioCQ
  videoLoop := if mode = .combined then .testsSilent else .ended
  audioLoop := .begins
  captures := 0
  setting := .returned none

def VideoPlace.notify : VideoPlace Payload → VideoPlace Payload
  | .dequeues d => .dequeues d.notify
  | place => place

def AudioPlace.notify : AudioPlace Payload → AudioPlace Payload
  | .dequeues d => .dequeues d.notify
  | place => place

def enqueueVideo (s : Session Payload) (element : EncoderElement Payload) : Session Payload :=
  let done := s.videoCQ.enqueue element
  { s with
    videoCQ := done.queue
    videoLoop := if done.msg = .success then s.videoLoop.notify else s.videoLoop }

def enqueueAudio (s : Session Payload) (element : EncoderElement Payload) : Session Payload :=
  let done := s.audioCQ.enqueue element
  { s with
    audioCQ := done.queue
    audioLoop := if done.msg = .success then s.audioLoop.notify else s.audioLoop }

def setSilentGoesOn (s : Session Payload) : Option (Session Payload) :=
  match s.setting with
  | .returned _ => none
  | .startsVideoCQ => some { s with videoCQ := s.videoCQ.start, setting := .writes false }
  | .writes false => some { s with isSilent := false, setting := .returned (some false) }
  | .writes true => some { s with isSilent := true, setting := .notifiesVideoCQ }
  | .notifiesVideoCQ =>
      some { s with videoLoop := s.videoLoop.notify, setting := .raisesVideoCQ }
  | .raisesVideoCQ => some { s with videoCQ := s.videoCQ.stop, setting := .returned (some true) }

def videoGoesOn (s : Session Payload) : Option (Session Payload) :=
  match s.videoLoop with
  | .testsSilent =>
      some { s with videoLoop := if s.isSilent then .silentBranch else .testsAudible }
  | .silentBranch => some { s with videoLoop := .testsSilent, captures := s.captures + 1 }
  | .testsAudible =>
      some { s with videoLoop := if s.isSilent then .testsSilent else .dequeues dequeueBegins }
  | .dequeues d =>
      match dequeueGoesOn s.videoCQ d with
      | none => none
      | some (.goesOn next, q) => some { s with videoCQ := q, videoLoop := .dequeues next }
      | some (.returns msg element, q) =>
          some
            { s with
              videoCQ := q
              videoLoop := if msg = .stop then .testsSilent else .encodes element }
  | .encodes _ => some { s with videoLoop := .testsAudible }
  | .ended => none

def audioDequeues (mode : Mode) : AudioPlace Payload :=
  match mode with
  | .combined => .dequeues dequeueBegins
  | .onlyAudio => .testsSilent

def audioGoesOn (s : Session Payload) (frame : Option (EncoderElement Payload)) :
    Option (Session Payload) :=
  match s.audioLoop with
  | .begins => some { s with audioCQ := s.audioCQ.start, audioLoop := audioDequeues s.mode }
  | .testsSilent =>
      some { s with audioLoop := if s.isSilent then .silentBranch else .dequeues dequeueBegins }
  | .silentBranch => some { s with audioLoop := .testsSilent }
  | .dequeues d =>
      match dequeueGoesOn s.audioCQ d with
      | none => none
      | some (.goesOn next, q) => some { s with audioCQ := q, audioLoop := .dequeues next }
      | some (.returns msg element, q) =>
          if msg = .stop then some { s with audioCQ := q.clear.queue, audioLoop := .ended }
          else some { s with audioCQ := q, audioLoop := .encodes element }
  | .encodes element =>
      if s.mode = .combined ∧ s.isSilent = false ∧ frame.isSome then
        some { s with audioLoop := .captures element }
      else some { s with audioLoop := audioDequeues s.mode }
  | .captures element =>
      match frame with
      | none => none
      | some captured => some { enqueueVideo s captured with audioLoop := .encodes element }
  | .ended => none

def step (s : Session Payload) : SessionEvent Payload → Option (Session Payload)
  | .callsSetSilent silent =>
      match s.setting with
      | .returned _ => some { s with setting := if silent then .writes true else .startsVideoCQ }
      | _ => none
  | .setSilentGoesOn => setSilentGoesOn s
  | .encodesAudio element => some (enqueueAudio s element)
  | .videoGoesOn => videoGoesOn s
  | .audioGoesOn frame => audioGoesOn s frame
  | .captureEnqueues element =>
      match s.captures with
      | 0 => none
      | others + 1 => some (enqueueAudio { s with captures := others } element)
  | .videoWakes => some { s with videoLoop := s.videoLoop.notify }
  | .audioWakes => some { s with audioLoop := s.audioLoop.notify }

def Empty (q : EncoderCQ Payload) : Prop := q.front = q.rear

instance (q : EncoderCQ Payload) : Decidable (Empty q) := inferInstanceAs (Decidable (_ = _))

/-- Blocked, and no notification is on its way. -/
def blocked : Dequeuing where
  place := .waits
  wait := .blocked

/-- The last call of `setSilent` was one with `true` and has returned. -/
def Silenced (s : Session Payload) : Prop := s.setting = .returned (some true)

/-- No loop that has a silent branch waits for what is produced in the audible
state only. -/
structure SilentCanRun (s : Session Payload) : Prop where
  video : s.videoLoop = .dequeues blocked → ¬Empty s.videoCQ
  audio : s.mode = .onlyAudio → s.audioLoop = .dequeues blocked → ¬Empty s.audioCQ

def SilentCanRunNext (s : Session Payload) (event : SessionEvent Payload) : Prop :=
  ∀ following, step s event = some following → Silenced following → SilentCanRun following

/-- From this place `dequeue` gets to a wait, if the queue stays empty, or is in it. -/
def MayBlock (d : Dequeuing) : Prop :=
  d.place = .testsEmpty ∨ d.place = .testsIsWait ∨ d.place = .testsIsStop ∨
    d.place = .waits ∧ d.wait ≠ .notified

/-- An `enqueue` that is accepted does not make a full queue look empty. -/
def KeepsApart (q : EncoderCQ Payload) : Prop :=
  q.isStop = false → ¬(q.front = 0 ∧ q.rear = q.maxsize)

/-- `setSilent(true)` writes `isSilent` while the loop with `onlyAudio` is not
in `dequeue` of an empty queue. Its notification of `videoCQ` does not fall
between the test of the flag and the wait of the video loop, and the video loop
does not make that test between the notification and the write of the flag. -/
def WakesInTime (s : Session Payload) : SessionEvent Payload → Prop
  | .callsSetSilent _ => True
  | .setSilentGoesOn =>
      (s.setting = .writes true → s.mode = .onlyAudio →
        ∀ d, s.audioLoop = .dequeues d → MayBlock d → ¬Empty s.audioCQ) ∧
        (s.setting = .notifiesVideoCQ →
          s.videoLoop = .dequeues { place := .waits, wait := .enters } → ¬Empty s.videoCQ)
  | .encodesAudio _ => KeepsApart s.audioCQ
  | .videoGoesOn =>
      s.setting = .raisesVideoCQ → ∀ d, s.videoLoop = .dequeues d → d.place = .testsIsStop →
        s.videoCQ.isStop = true ∨ ¬Empty s.videoCQ
  | .audioGoesOn _ => ∀ element, s.audioLoop = .captures element → KeepsApart s.videoCQ
  | .captureEnqueues _ => KeepsApart s.audioCQ
  | .videoWakes => True
  | .audioWakes => True

/-- `isSilent` has been written and the flag of `videoCQ` has not been lowered since. -/
def Raising : SetSilent → Prop
  | .notifiesVideoCQ => True
  | .raisesVideoCQ => True
  | .returned last => last = some true
  | .startsVideoCQ => False
  | .writes _ => False

def Notified : SetSilent → Prop
  | .raisesVideoCQ => True
  | .returned last => last = some true
  | .startsVideoCQ => False
  | .writes _ => False
  | .notifiesVideoCQ => False

structure Released (s : Session Payload) : Prop where
  silent : Raising s.setting → s.isSilent = true
  raised : Silenced s → s.videoCQ.isStop = true
  video : Notified s.setting → ∀ wait, s.videoLoop = .dequeues { place := .waits, wait := wait } →
    wait ≠ .notified → ¬Empty s.videoCQ
  audio : s.mode = .onlyAudio → s.isSilent = true → ∀ d, s.audioLoop = .dequeues d →
    MayBlock d → ¬Empty s.audioCQ

theorem released_can_run {s : Session Payload} (released : Released s) (silenced : Silenced s) :
    SilentCanRun s := by
  have setting : s.setting = .returned (some true) := silenced
  constructor
  · intro waits
    apply released.video _ .blocked waits (by decide)
    rw [setting]
    rfl
  · intro onlyAudio waits
    apply released.audio onlyAudio _ blocked waits
    · exact .inr (.inr (.inr ⟨rfl, by decide⟩))
    · apply released.silent
      rw [setting]
      rfl

section Dequeues

variable {q following : EncoderCQ Payload} {d next : Dequeuing}

/-- The statements that can lead to a wait leave the queue as it is. -/
theorem may_block_before (went : dequeueGoesOn q d = some (.goesOn next, following))
    (mayBlock : MayBlock next) : MayBlock d ∧ following = q := by
  obtain ⟨place, wait⟩ := d
  cases place with
  | testsEmpty =>
      by_cases empty : q.front = q.rear
      · simp [dequeueGoesOn, dequeueStatement, empty] at went
        exact ⟨.inl rfl, went.2.symm⟩
      · simp [dequeueGoesOn, dequeueStatement, empty] at went
        exact ⟨.inl rfl, went.2.symm⟩
  | testsIsWait =>
      cases waits : q.isWait with
      | true =>
          simp [dequeueGoesOn, dequeueStatement, waits] at went
          exact ⟨.inr (.inl rfl), went.2.symm⟩
      | false => simp [dequeueGoesOn, dequeueStatement, waits] at went
  | testsIsStop =>
      cases stopped : q.isStop with
      | true =>
          simp [dequeueGoesOn, dequeueStatement, stopped] at went
          exact ⟨.inr (.inr (.inl rfl)), went.2.symm⟩
      | false =>
          simp [dequeueGoesOn, dequeueStatement, stopped] at went
          exact ⟨.inr (.inr (.inl rfl)), went.2.symm⟩
  | waits =>
      cases wait with
      | enters =>
          cases went
          exact ⟨.inr (.inr (.inr ⟨rfl, by decide⟩)), rfl⟩
      | blocked => cases went
      | notified =>
          cases went
          simp [MayBlock] at mayBlock
  | testsIsStopAgain =>
      cases stopped : q.isStop with
      | true => simp [dequeueGoesOn, dequeueStatement, stopped] at went
      | false =>
          simp [dequeueGoesOn, dequeueStatement, stopped] at went
          rw [← went.1] at mayBlock
          simp [MayBlock] at mayBlock
  | advancesFront =>
      simp [dequeueGoesOn, dequeueStatement] at went
      rw [← went.1] at mayBlock
      simp [MayBlock] at mayBlock
  | loads => simp [dequeueGoesOn, dequeueStatement] at went

theorem wait_before {wait : Wait}
    (went : dequeueGoesOn q d = some (.goesOn { place := .waits, wait := wait }, following)) :
    following = q ∧ (d.place = .testsIsStop ∧ q.isStop = false ∨
      d = { place := .waits, wait := .enters }) := by
  obtain ⟨place, prior⟩ := d
  cases place with
  | testsEmpty =>
      by_cases empty : q.front = q.rear
      · simp [dequeueGoesOn, dequeueStatement, empty] at went
      · simp [dequeueGoesOn, dequeueStatement, empty] at went
  | testsIsWait =>
      cases waits : q.isWait with
      | true => simp [dequeueGoesOn, dequeueStatement, waits] at went
      | false => simp [dequeueGoesOn, dequeueStatement, waits] at went
  | testsIsStop =>
      cases stopped : q.isStop with
      | true => simp [dequeueGoesOn, dequeueStatement, stopped] at went
      | false =>
          simp [dequeueGoesOn, dequeueStatement, stopped] at went
          exact ⟨went.2.symm, .inl ⟨rfl, rfl⟩⟩
  | waits =>
      cases prior with
      | enters =>
          cases went
          exact ⟨rfl, .inr rfl⟩
      | blocked => cases went
      | notified => cases went
  | testsIsStopAgain =>
      cases stopped : q.isStop with
      | true => simp [dequeueGoesOn, dequeueStatement, stopped] at went
      | false => simp [dequeueGoesOn, dequeueStatement, stopped] at went
  | advancesFront => simp [dequeueGoesOn, dequeueStatement] at went
  | loads => simp [dequeueGoesOn, dequeueStatement] at went

theorem dequeue_keeps_flag {progress : Progress Dequeuing Payload}
    (went : dequeueGoesOn q d = some (progress, following)) : following.isStop = q.isStop := by
  have statement := dequeue_statement_flag q d.place
  unfold dequeueGoesOn at went
  split_ifs at went
  · cases went
    rfl
  · split at went <;> cases went <;> next same => rw [same] at statement; exact statement

theorem enqueue_not_empty (element : EncoderElement Payload) (apart : KeepsApart q)
    (nonempty : ¬Empty q) : ¬Empty (q.enqueue element).queue := by
  unfold Empty at nonempty ⊢
  unfold EncoderCQ.enqueue
  cases stopped : q.isStop with
  | true =>
      rw [if_pos rfl]
      exact nonempty
  | false =>
      have wrap := apart stopped
      by_cases full : q.front = q.rear + 1
      · simp [full]
      · simp only [Bool.false_eq_true, if_false, if_neg full]
        split_ifs with atEnd
        · intro zero
          exact wrap ⟨zero, atEnd⟩
        · exact full

theorem notify_may_block (mayBlock : MayBlock d.notify) : MayBlock d ∧ d.notify = d := by
  unfold Dequeuing.notify at mayBlock ⊢
  split_ifs at mayBlock ⊢ with waits
  · obtain ⟨place, wait⟩ := d
    cases waits.1
    simp [MayBlock] at mayBlock
  · exact ⟨mayBlock, rfl⟩

end Dequeues

section Steps

variable {s following : Session Payload}

theorem notify_video {place : VideoPlace Payload} {d : Dequeuing}
    (notified : place.notify = .dequeues d) (mayBlock : MayBlock d) : place = .dequeues d := by
  cases place with
  | dequeues prior =>
      have same : prior.notify = d := VideoPlace.dequeues.inj notified
      rw [← same] at mayBlock ⊢
      rw [(notify_may_block mayBlock).2]
  | testsSilent => cases notified
  | silentBranch => cases notified
  | testsAudible => cases notified
  | encodes element => cases notified
  | ended => cases notified

theorem notify_audio {place : AudioPlace Payload} {d : Dequeuing}
    (notified : place.notify = .dequeues d) (mayBlock : MayBlock d) : place = .dequeues d := by
  cases place with
  | dequeues prior =>
      have same : prior.notify = d := AudioPlace.dequeues.inj notified
      rw [← same] at mayBlock ⊢
      rw [(notify_may_block mayBlock).2]
  | begins => cases notified
  | testsSilent => cases notified
  | silentBranch => cases notified
  | encodes element => cases notified
  | captures element => cases notified
  | ended => cases notified

theorem unnotified_may_block {wait : Wait} (unnotified : wait ≠ .notified) :
    MayBlock { place := .waits, wait := wait } := .inr (.inr (.inr ⟨rfl, unnotified⟩))

theorem enqueue_audio_released {element : EncoderElement Payload} (released : Released s)
    (apart : KeepsApart s.audioCQ) : Released (enqueueAudio s element) := by
  constructor
  · exact released.silent
  · exact released.raised
  · exact released.video
  · intro onlyAudio silent d waits mayBlock
    have before : s.audioLoop = .dequeues d := by
      simp only [enqueueAudio] at waits
      split_ifs at waits
      · exact notify_audio waits mayBlock
      · exact waits
    exact enqueue_not_empty element apart (released.audio onlyAudio silent d before mayBlock)

theorem enqueue_video_released {element : EncoderElement Payload} (released : Released s)
    (apart : KeepsApart s.videoCQ) : Released (enqueueVideo s element) := by
  constructor
  · exact released.silent
  · intro silenced
    exact (enqueue_keeps_flag s.videoCQ element).trans (released.raised silenced)
  · intro notified wait waits unnotified
    have before : s.videoLoop = .dequeues { place := .waits, wait := wait } := by
      simp only [enqueueVideo] at waits
      split_ifs at waits
      · exact notify_video waits (unnotified_may_block unnotified)
      · exact waits
    exact enqueue_not_empty element apart (released.video notified wait before unnotified)
  · exact released.audio

theorem notifies_released (released : Released s) (setting : s.setting = .notifiesVideoCQ)
    (noGap : s.videoLoop = .dequeues { place := .waits, wait := .enters } → ¬Empty s.videoCQ) :
    Released { s with videoLoop := s.videoLoop.notify, setting := .raisesVideoCQ } := by
  constructor
  · intro _
    exact released.silent (by rw [setting]; trivial)
  · exact nofun
  · intro _ wait waits unnotified
    have before := notify_video waits (unnotified_may_block unnotified)
    cases wait with
    | enters => exact noGap before
    | blocked =>
        have woken : s.videoLoop.notify = .dequeues { place := .waits, wait := .notified } := by
          rw [before]
          rfl
        rw [woken] at waits
        cases waits
    | notified => exact absurd rfl unnotified
  · exact released.audio

theorem set_silent_released (released : Released s) (inTime : WakesInTime s .setSilentGoesOn)
    (stepped : setSilentGoesOn s = some following) : Released following := by
  unfold setSilentGoesOn at stepped
  cases setting : s.setting with
  | returned last =>
      simp only [setting] at stepped
      cases stepped
  | startsVideoCQ =>
      simp only [setting, Option.some.injEq] at stepped
      rw [← stepped]
      exact ⟨nofun, nofun, nofun, released.audio⟩
  | writes silent =>
      cases silent with
      | false =>
          simp only [setting, Option.some.injEq] at stepped
          rw [← stepped]
          exact ⟨nofun, nofun, nofun, nofun⟩
      | true =>
          simp only [setting, Option.some.injEq] at stepped
          rw [← stepped]
          exact ⟨fun _ => rfl, nofun, nofun, fun onlyAudio _ => inTime.1 setting onlyAudio⟩
  | notifiesVideoCQ =>
      simp only [setting, Option.some.injEq] at stepped
      rw [← stepped]
      exact notifies_released released setting (inTime.2 setting)
  | raisesVideoCQ =>
      simp only [setting, Option.some.injEq] at stepped
      rw [← stepped]
      constructor
      · intro _
        exact released.silent (by rw [setting]; trivial)
      · exact fun _ => rfl
      · intro _
        exact released.video (by rw [setting]; trivial)
      · exact released.audio

theorem video_moves_released {place : VideoPlace Payload} {captures : Nat} (released : Released s)
    (elsewhere : ∀ wait, place ≠ .dequeues { place := .waits, wait := wait }) :
    Released { s with videoLoop := place, captures := captures } :=
  ⟨released.silent, released.raised, fun _ wait waits => absurd waits (elsewhere wait),
    released.audio⟩

theorem video_dequeues_released {d next : Dequeuing} {q : EncoderCQ Payload}
    (released : Released s) (inTime : WakesInTime s .videoGoesOn)
    (dequeuing : s.videoLoop = .dequeues d)
    (went : dequeueGoesOn s.videoCQ d = some (.goesOn next, q)) :
    Released { s with videoCQ := q, videoLoop := .dequeues next } := by
  constructor
  · exact released.silent
  · intro silenced
    exact (dequeue_keeps_flag went).trans (released.raised silenced)
  · intro notified wait waits unnotified
    cases VideoPlace.dequeues.inj waits
    rcases wait_before went with ⟨same, ⟨testing, lowered⟩ | entering⟩
    · rw [same]
      cases setting : s.setting with
      | returned last =>
          simp only [setting, Notified] at notified
          have raised := released.raised (by rw [Silenced, setting, notified])
          rw [lowered] at raised
          cases raised
      | raisesVideoCQ =>
          rcases inTime setting d dequeuing testing with raised | nonempty
          · rw [lowered] at raised
            cases raised
          · exact nonempty
      | startsVideoCQ =>
          simp only [setting] at notified
          cases notified
      | writes silent =>
          simp only [setting] at notified
          cases notified
      | notifiesVideoCQ =>
          simp only [setting] at notified
          cases notified
    · rw [same]
      rw [entering] at dequeuing
      exact released.video notified .enters dequeuing (by decide)
  · exact released.audio

theorem video_released (released : Released s) (inTime : WakesInTime s .videoGoesOn)
    (stepped : videoGoesOn s = some following) : Released following := by
  unfold videoGoesOn at stepped
  cases place : s.videoLoop with
  | testsSilent =>
      simp only [place, Option.some.injEq] at stepped
      rw [← stepped]
      apply video_moves_released released
      intro wait
      split_ifs <;> nofun
  | silentBranch =>
      simp only [place, Option.some.injEq] at stepped
      rw [← stepped]
      exact video_moves_released released nofun
  | testsAudible =>
      simp only [place, Option.some.injEq] at stepped
      rw [← stepped]
      apply video_moves_released released
      intro wait
      split_ifs <;> nofun
  | dequeues d =>
      simp only [place] at stepped
      cases went : dequeueGoesOn s.videoCQ d with
      | none =>
          simp only [went] at stepped
          cases stepped
      | some result =>
          obtain ⟨progress, q⟩ := result
          cases progress with
          | goesOn next =>
              simp only [went, Option.some.injEq] at stepped
              rw [← stepped]
              exact video_dequeues_released released inTime place went
          | returns msg element =>
              simp only [went, Option.some.injEq] at stepped
              rw [← stepped]
              constructor
              · exact released.silent
              · intro silenced
                exact (dequeue_keeps_flag went).trans (released.raised silenced)
              · intro _ wait waits
                simp only at waits
                split_ifs at waits
              · exact released.audio
  | encodes element =>
      simp only [place, Option.some.injEq] at stepped
      rw [← stepped]
      exact video_moves_released released nofun
  | ended =>
      simp only [place] at stepped
      cases stepped

theorem audio_moves_released {place : AudioPlace Payload} {q : EncoderCQ Payload}
    (released : Released s)
    (elsewhere : s.mode = .onlyAudio → s.isSilent = true → ∀ d, place ≠ .dequeues d) :
    Released { s with audioCQ := q, audioLoop := place } :=
  ⟨released.silent, released.raised, released.video,
    fun onlyAudio silent d waits => absurd waits (elsewhere onlyAudio silent d)⟩

theorem audio_dequeues_elsewhere {d : Dequeuing} (onlyAudio : s.mode = .onlyAudio) :
    (audioDequeues s.mode : AudioPlace Payload) ≠ .dequeues d := by
  rw [onlyAudio]
  nofun

theorem audio_released {frame : Option (EncoderElement Payload)} (released : Released s)
    (inTime : WakesInTime s (.audioGoesOn frame)) (stepped : audioGoesOn s frame = some following) :
    Released following := by
  unfold audioGoesOn at stepped
  cases place : s.audioLoop with
  | begins =>
      simp only [place, Option.some.injEq] at stepped
      rw [← stepped]
      apply audio_moves_released released
      intro onlyAudio _ d
      exact audio_dequeues_elsewhere onlyAudio
  | testsSilent =>
      simp only [place, Option.some.injEq] at stepped
      rw [← stepped]
      apply audio_moves_released released
      intro _ silent d
      rw [silent]
      nofun
  | silentBranch =>
      simp only [place, Option.some.injEq] at stepped
      rw [← stepped]
      exact audio_moves_released released nofun
  | dequeues d =>
      simp only [place] at stepped
      cases went : dequeueGoesOn s.audioCQ d with
      | none =>
          simp only [went] at stepped
          cases stepped
      | some result =>
          obtain ⟨progress, q⟩ := result
          cases progress with
          | goesOn next =>
              simp only [went, Option.some.injEq] at stepped
              rw [← stepped]
              refine ⟨released.silent, released.raised, released.video, ?_⟩
              intro onlyAudio silent other waits mayBlock
              cases AudioPlace.dequeues.inj waits
              rcases may_block_before went mayBlock with ⟨before, same⟩
              rw [same]
              exact released.audio onlyAudio silent d place before
          | returns msg element =>
              simp only [went] at stepped
              split_ifs at stepped
              · rw [← Option.some.inj stepped]
                exact audio_moves_released released nofun
              · rw [← Option.some.inj stepped]
                exact audio_moves_released released nofun
  | encodes element =>
      simp only [place] at stepped
      split_ifs at stepped with due
      · rw [← Option.some.inj stepped]
        exact audio_moves_released released nofun
      · rw [← Option.some.inj stepped]
        apply audio_moves_released released
        intro onlyAudio _ d
        exact audio_dequeues_elsewhere onlyAudio
  | captures element =>
      simp only [place] at stepped
      cases frame with
      | none => cases stepped
      | some captured =>
          rw [← Option.some.inj stepped]
          exact audio_moves_released (enqueue_video_released released (inTime element place)) nofun
  | ended =>
      simp only [place] at stepped
      cases stepped

theorem step_released {event : SessionEvent Payload} (released : Released s)
    (inTime : WakesInTime s event) (stepped : step s event = some following) :
    Released following := by
  cases event with
  | callsSetSilent silent =>
      cases setting : s.setting with
      | returned last =>
          simp only [step, setting, Option.some.injEq] at stepped
          rw [← stepped]
          cases silent with
          | true => exact ⟨nofun, nofun, nofun, released.audio⟩
          | false => exact ⟨nofun, nofun, nofun, released.audio⟩
      | startsVideoCQ =>
          simp only [step, setting] at stepped
          cases stepped
      | writes value =>
          simp only [step, setting] at stepped
          cases stepped
      | notifiesVideoCQ =>
          simp only [step, setting] at stepped
          cases stepped
      | raisesVideoCQ =>
          simp only [step, setting] at stepped
          cases stepped
  | setSilentGoesOn => exact set_silent_released released inTime stepped
  | encodesAudio element =>
      rw [← Option.some.inj stepped]
      exact enqueue_audio_released released inTime
  | videoGoesOn => exact video_released released inTime stepped
  | audioGoesOn frame => exact audio_released released inTime stepped
  | captureEnqueues element =>
      simp only [step] at stepped
      split at stepped
      · cases stepped
      · next others _ =>
          rw [← Option.some.inj stepped]
          have counted : Released { s with captures := others } :=
            ⟨released.silent, released.raised, released.video, released.audio⟩
          exact enqueue_audio_released counted inTime
  | videoWakes =>
      rw [← Option.some.inj stepped]
      refine ⟨released.silent, released.raised, ?_, released.audio⟩
      intro notified wait waits unnotified
      have before := notify_video waits (unnotified_may_block unnotified)
      exact released.video notified wait before unnotified
  | audioWakes =>
      rw [← Option.some.inj stepped]
      refine ⟨released.silent, released.raised, released.video, ?_⟩
      intro onlyAudio silent d waits mayBlock
      exact released.audio onlyAudio silent d (notify_audio waits mayBlock) mayBlock

end Steps

theorem opened_released (mode : Mode) (isSilent : Bool) (videoCQ audioCQ : EncoderCQ Payload) :
    Released (opened mode isSilent videoCQ audioCQ) := by
  constructor
  · exact nofun
  · exact nofun
  · exact nofun
  · exact nofun

/-- In every run of a session, over whatever queues, in which the wake-ups come
in time, no loop is blocked where it cannot get to its silent branch in any
state after a `setSilent(true)`. -/
theorem silent_can_run_along (mode : Mode) (isSilent : Bool) (videoCQ audioCQ : EncoderCQ Payload)
    (events : List (SessionEvent Payload))
    (inTime : Along step WakesInTime (opened mode isSilent videoCQ audioCQ) events) :
    Along step SilentCanRunNext (opened mode isSilent videoCQ audioCQ) events := by
  apply along_of_invariant Released _ _ (opened_released mode isSilent videoCQ audioCQ) inTime
  · intro s event released allowed following stepped silenced
    exact released_can_run (step_released released allowed stepped) silenced
  · intro s event following released allowed stepped
    exact step_released released allowed stepped

def audibleSession (mode : Mode) : Session Nat :=
  opened mode false (EncoderCQ.new true) (EncoderCQ.new true)

def silencedInWait : List (SessionEvent Nat) :=
  [.videoGoesOn, .videoGoesOn, .videoGoesOn, .videoGoesOn, .videoGoesOn, .videoGoesOn,
    .callsSetSilent true, .setSilentGoesOn, .setSilentGoesOn, .setSilentGoesOn, .videoGoesOn,
    .videoGoesOn, .videoGoesOn]

theorem silent_can_run_along_in_wait :
    Along step SilentCanRunNext (audibleSession .combined) silencedInWait := by
  apply silent_can_run_along .combined false (EncoderCQ.new true) (EncoderCQ.new true)
  apply along_cons rfl nofun
  apply along_cons rfl nofun
  apply along_cons rfl nofun
  apply along_cons rfl nofun
  apply along_cons rfl nofun
  apply along_cons rfl nofun
  apply along_cons rfl trivial
  apply along_cons rfl ⟨nofun, nofun⟩
  apply along_cons rfl ⟨nofun, nofun⟩
  apply along_cons rfl ⟨nofun, nofun⟩
  apply along_cons rfl nofun
  apply along_cons rfl nofun
  exact along_cons rfl nofun trivial

def audioSilencedInWait : List (SessionEvent Nat) :=
  [.audioGoesOn none, .audioGoesOn none, .audioGoesOn none, .audioGoesOn none, .audioGoesOn none,
    .audioGoesOn none, .callsSetSilent true, .setSilentGoesOn, .setSilentGoesOn,
    .setSilentGoesOn]

def silencedBeforeWait : List (SessionEvent Nat) :=
  [.videoGoesOn, .videoGoesOn, .videoGoesOn, .videoGoesOn, .videoGoesOn, .callsSetSilent true,
    .setSilentGoesOn, .setSilentGoesOn, .setSilentGoesOn, .videoGoesOn]

/-- Nothing wakes the loop with `onlyAudio`, and the video loop misses the
wake-up that comes before its wait. -/
theorem silenced_loop_stays_blocked :
    ¬Along step SilentCanRunNext (audibleSession .onlyAudio) audioSilencedInWait ∧
      ¬Along step SilentCanRunNext (audibleSession .combined) silencedBeforeWait := by
  constructor
  · intro runs
    have last := ((((((((((runs.2 _ rfl).2 _ rfl).2 _ rfl).2 _ rfl).2 _ rfl).2 _ rfl).2 _ rfl).2 _
      rfl).2 _ rfl).1 _ rfl rfl)
    exact last.audio rfl rfl rfl
  · intro runs
    have last := ((((((((((runs.2 _ rfl).2 _ rfl).2 _ rfl).2 _ rfl).2 _ rfl).2 _ rfl).2 _ rfl).2 _
      rfl).2 _ rfl).1 _ rfl rfl)
    exact last.video rfl rfl

end Collabo.BlockedLoops
