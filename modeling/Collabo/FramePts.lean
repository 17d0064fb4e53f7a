import Collabo.AudioFraming
import Collabo.EncoderSession
import Collabo.Library.PartialRuns
import Mathlib.Data.PNat.Basic

/-!
# The time stamps of a session

Each encode call stamps the frame with the counter of its stream, gives the
frame to the codec and advances the counter, by one for a video frame and by the
samples of an audio frame. The counter and the frame are the encoder's: calls of
several threads share them, and `initialize` resets the counters and allocates
other frames. The codecs accept every frame.
-/

namespace Collabo.FramePts

open PartialRuns Collabo.CInt Collabo.AudioFraming Collabo.EncoderSession

set_option autoImplicit false

def avNoPtsValue : Int := -2 ^ 63

/-- A stream with its counter and the time stamp of its frame. `toSend` and `toCount`
are the calls that have stamped the frame and the calls that have sent it. `sent` are
the time stamps of the session, `counted` how often the counter was advanced in it, and
`stampedAt` how often it had been when the frame was stamped. -/
structure Stamping where
  increment : ℕ+
  counter : Int
  framePts : Int
  toSend : Nat
  toCount : Nat
  sent : List Int
  counted : Nat
  stampedAt : Option Nat
  deriving DecidableEq, Repr

inductive Statement where
  | stamps
  | sends
  | counts
  deriving DecidableEq, Repr

def restarted (c : Stamping) (increment : ℕ+) : Stamping :=
  { c with
    increment := increment
    counter := 0
    framePts := avNoPtsValue
    sent := []
    counted := 0
    stampedAt := none }

def stamped (c : Stamping) : Stamping :=
  { c with
    framePts := c.counter
    toSend := c.toSend + 1
    stampedAt := some c.counted }

def sentFrame (c : Stamping) : Stamping :=
  { c with
    sent := c.sent ++ [c.framePts]
    toSend := c.toSend - 1
    toCount := c.toCount + 1 }

def counted (c : Stamping) : Stamping :=
  { c with
    counter := wrapInt (c.counter + c.increment)
    toCount := c.toCount - 1
    counted := c.counted + 1 }

def statement (c : Stamping) : Statement → Option Stamping
  | .stamps => some (stamped c)
  | .sends => if c.toSend = 0 then none else some (sentFrame c)
  | .counts => if c.toCount = 0 then none else some (counted c)

structure Streams where
  video : Stamping
  audio : Stamping
  deriving DecidableEq, Repr

inductive PtsEvent where
  | video (statement : Statement)
  | audio (statement : Statement)
  | initializes (nbSamples : ℕ+)
  deriving DecidableEq, Repr

def step (s : Streams) : PtsEvent → Option Streams
  | .video place => (statement s.video place).map fun video => { s with video := video }
  | .audio place => (statement s.audio place).map fun audio => { s with audio := audio }
  | .initializes nbSamples =>
      some { video := restarted s.video 1, audio := restarted s.audio nbSamples }

def uninitialized : Stamping where
  increment := 1
  counter := 0
  framePts := avNoPtsValue
  toSend := 0
  toCount := 0
  sent := []
  counted := 0
  stampedAt := none

def noSession : Streams where
  video := uninitialized
  audio := uninitialized

structure Exact (c : Stamping) : Prop where
  stamps : ∀ (k : Nat) (pts : Int), c.sent[k]? = some pts → pts = k * c.increment
  increasing : c.sent.Pairwise (· < ·)

def PtsExact (s : Streams) (event : PtsEvent) : Prop :=
  ∀ following, step s event = some following → Exact following.video ∧ Exact following.audio

/-- The frame was stamped when the counter had been advanced for each frame that was
sent, and the product that it stands for fits an `int`. -/
def OnTime (c : Stamping) : Prop :=
  c.stampedAt = some c.sent.length ∧ (c.sent.length : Int) * c.increment < 2 ^ 31

def SendsOnTime (c : Stamping) (place : Statement) : Prop :=
  place = .sends → c.toSend ≠ 0 → OnTime c

def PtsOnTime (s : Streams) : PtsEvent → Prop
  | .video place => SendsOnTime s.video place
  | .audio place => SendsOnTime s.audio place
  | .initializes _ => True

def InitializesIdle (s : Streams) : PtsEvent → Prop
  | .initializes _ =>
      (s.video.toSend = 0 ∧ s.video.toCount = 0) ∧ s.audio.toSend = 0 ∧ s.audio.toCount = 0
  | .video _ => True
  | .audio _ => True

section Stream

variable {c : Stamping}

theorem exact_nil (nothing : c.sent = []) : Exact c := by
  constructor
  · intro k pts inside
    rw [nothing] at inside
    cases inside
  · rw [nothing]
    exact List.Pairwise.nil

/-- The counter stands for the frames that were counted, the frame for those at its stamp. -/
structure Tracks (c : Stamping) : Prop where
  counter : c.counter = wrapInt (c.counted * c.increment)
  framePts : ∀ k, c.stampedAt = some k → c.framePts = wrapInt (k * c.increment)
  unstamped : c.stampedAt = none → c.framePts < 0
  exact : Exact c

theorem restarted_tracks (increment : ℕ+) : Tracks (restarted c increment) where
  counter := by simp only [restarted, Nat.cast_zero, Int.zero_mul]; rfl
  framePts := nofun
  unstamped := fun _ => by
    dsimp only [restarted, avNoPtsValue]
    omega
  exact := exact_nil rfl

theorem stamped_tracks (tracks : Tracks c) : Tracks (stamped c) where
  counter := tracks.counter
  framePts := by
    intro k same
    cases same
    exact tracks.counter
  unstamped := nofun
  exact := ⟨tracks.exact.stamps, tracks.exact.increasing⟩

theorem counted_tracks (tracks : Tracks c) : Tracks (counted c) where
  counter := by
    simp only [counted, tracks.counter, wrap_int_add, Nat.cast_add, Nat.cast_one, Int.add_mul,
      Int.one_mul]
  framePts := tracks.framePts
  unstamped := tracks.unstamped
  exact := ⟨tracks.exact.stamps, tracks.exact.increasing⟩

theorem on_time_pts (tracks : Tracks c) (onTime : OnTime c) :
    c.framePts = c.sent.length * c.increment := by
  rw [tracks.framePts _ onTime.1]
  have nonneg : (0 : Int) ≤ c.sent.length * c.increment := by positivity
  exact wrap_int_fits (by omega) onTime.2

theorem exact_sent_iff (exact : Exact c) :
    Exact (sentFrame c) ↔ c.framePts = c.sent.length * c.increment := by
  constructor
  · intro after
    apply after.stamps
    simp only [sentFrame, List.getElem?_concat_length]
  · intro same
    have earlier : ∀ pts ∈ c.sent, pts < c.framePts := by
      intro pts member
      rcases List.mem_iff_getElem?.mp member with ⟨k, found⟩
      have inside : k < c.sent.length := (List.getElem?_eq_some_iff.mp found).1
      have positive : (0 : Int) < c.increment := by exact_mod_cast c.increment.pos
      have less : (k : Int) < c.sent.length := by exact_mod_cast inside
      rw [exact.stamps k pts found, same]
      exact Int.mul_lt_mul_of_pos_right less positive
    constructor
    · intro k pts found
      simp only [sentFrame] at found ⊢
      by_cases last : k = c.sent.length
      · rw [last, List.getElem?_concat_length] at found
        rw [last, ← same]
        exact (Option.some.inj found).symm
      · by_cases inside : k < c.sent.length
        · rw [List.getElem?_append_left inside] at found
          exact exact.stamps k pts found
        · rw [List.getElem?_eq_none
            (by simp only [List.length_append, List.length_singleton]; omega)] at found
          cases found
    · apply List.pairwise_append.mpr
      refine ⟨exact.increasing, List.pairwise_singleton _ _, ?_⟩
      intro pts member other single
      rw [List.mem_singleton.mp single]
      exact earlier pts member

theorem sent_tracks (tracks : Tracks c) (onTime : OnTime c) : Tracks (sentFrame c) where
  counter := tracks.counter
  framePts := tracks.framePts
  unstamped := tracks.unstamped
  exact := (exact_sent_iff tracks.exact).mpr (on_time_pts tracks onTime)

structure CallsCounted (c : Stamping) : Prop where
  counted : c.counted + c.toCount = c.sent.length
  stampedAt : ∀ k, c.stampedAt = some k → k ≤ c.sent.length

/-- With no call left over from another session, only a frame on time has its stamp. -/
theorem pts_exact_iff (tracks : Tracks c) (calls : CallsCounted c) :
    c.framePts = c.sent.length * c.increment ↔ OnTime c := by
  constructor
  · intro same
    cases stamp : c.stampedAt with
    | none =>
        have negative := tracks.unstamped stamp
        have nonneg : (0 : Int) ≤ c.sent.length * c.increment := by positivity
        omega
    | some k =>
        have nonneg : (0 : Int) ≤ k * c.increment := by positivity
        have few := calls.stampedAt k stamp
        have wrapped := tracks.framePts k stamp
        have small := wrap_int_lt (k * c.increment)
        have positive : (0 : Int) < c.increment := by exact_mod_cast c.increment.pos
        have fewInt : (k : Int) ≤ c.sent.length := by exact_mod_cast few
        have fewer : (k : Int) * c.increment ≤ c.sent.length * c.increment :=
          Int.mul_le_mul_of_nonneg_right fewInt positive.le
        rw [← wrapped, same] at small
        have fits : wrapInt (k * c.increment) = k * c.increment := by
          apply wrap_int_fits
          · exact Int.le_trans (by norm_num) nonneg
          · exact Int.lt_of_le_of_lt fewer small
        have equal : (k : Int) = c.sent.length :=
          Int.eq_of_mul_eq_mul_right (Int.ne_of_gt positive)
            (fits.symm.trans (wrapped.symm.trans same))
        exact ⟨stamp.trans (congrArg some (by exact_mod_cast equal)), small⟩
  · exact on_time_pts tracks

theorem statement_cases {place : Statement} {after : Stamping}
    (stated : statement c place = some after) :
    (place = .stamps ∧ after = stamped c) ∨
    (place = .sends ∧ c.toSend ≠ 0 ∧ after = sentFrame c) ∨
    (place = .counts ∧ c.toCount ≠ 0 ∧ after = counted c) := by
  cases place with
  | stamps => exact .inl ⟨rfl, (Option.some.inj stated).symm⟩
  | sends =>
      simp only [statement] at stated
      split_ifs at stated with none
      exact .inr (.inl ⟨rfl, none, (Option.some.inj stated).symm⟩)
  | counts =>
      simp only [statement] at stated
      split_ifs at stated with none
      exact .inr (.inr ⟨rfl, none, (Option.some.inj stated).symm⟩)

theorem statement_tracks {place : Statement} {after : Stamping} (tracks : Tracks c)
    (onTime : SendsOnTime c place) (stated : statement c place = some after) : Tracks after := by
  rcases statement_cases stated with ⟨_, same⟩ | ⟨named, call, same⟩ | ⟨_, _, same⟩
  · rw [same]
    exact stamped_tracks tracks
  · rw [same]
    exact sent_tracks tracks (onTime named call)
  · rw [same]
    exact counted_tracks tracks

theorem statement_calls {place : Statement} {after : Stamping} (calls : CallsCounted c)
    (stated : statement c place = some after) : CallsCounted after := by
  have total := calls.counted
  rcases statement_cases stated with ⟨_, same⟩ | ⟨_, _, same⟩ | ⟨_, call, same⟩
  · rw [same]
    refine ⟨total, ?_⟩
    intro k stamp
    cases stamp
    dsimp only [stamped]
    omega
  · rw [same]
    simp only [sentFrame]
    refine ⟨?_, ?_⟩
    · rw [List.length_append, List.length_singleton]
      dsimp only
      omega
    · intro k stamp
      have few := calls.stampedAt k stamp
      rw [List.length_append]
      omega
  · rw [same]
    refine ⟨?_, calls.stampedAt⟩
    dsimp only [counted]
    omega

theorem sends_on_time_of_exact {place : Statement} (tracks : Tracks c) (calls : CallsCounted c)
    (exact : ∀ after, statement c place = some after → Exact after) : SendsOnTime c place := by
  intro named call
  have sent : statement c place = some (sentFrame c) := by
    rw [named]
    exact if_neg call
  exact (pts_exact_iff tracks calls).mp ((exact_sent_iff tracks.exact).mp (exact _ sent))

end Stream

section Streams

variable {s : Streams}

def BothTrack (s : Streams) : Prop := Tracks s.video ∧ Tracks s.audio

def BothCounted (s : Streams) : Prop := CallsCounted s.video ∧ CallsCounted s.audio

theorem both_track_step {event : PtsEvent} {following : Streams} (tracks : BothTrack s)
    (onTime : PtsOnTime s event) (stepped : step s event = some following) :
    BothTrack following := by
  cases event with
  | video place =>
      rcases Option.map_eq_some_iff.mp stepped with ⟨after, stated, same⟩
      rw [← same]
      exact ⟨statement_tracks tracks.1 onTime stated, tracks.2⟩
  | audio place =>
      rcases Option.map_eq_some_iff.mp stepped with ⟨after, stated, same⟩
      rw [← same]
      exact ⟨tracks.1, statement_tracks tracks.2 onTime stated⟩
  | initializes nbSamples =>
      cases stepped
      exact ⟨restarted_tracks 1, restarted_tracks nbSamples⟩

theorem restarted_calls {c : Stamping} (increment : ℕ+) (idle : c.toCount = 0) :
    CallsCounted (restarted c increment) where
  counted := (Nat.zero_add _).trans idle
  stampedAt := nofun

theorem both_counted_step {event : PtsEvent} {following : Streams} (calls : BothCounted s)
    (idle : InitializesIdle s event) (stepped : step s event = some following) :
    BothCounted following := by
  cases event with
  | video place =>
      rcases Option.map_eq_some_iff.mp stepped with ⟨after, stated, same⟩
      rw [← same]
      exact ⟨statement_calls calls.1 stated, calls.2⟩
  | audio place =>
      rcases Option.map_eq_some_iff.mp stepped with ⟨after, stated, same⟩
      rw [← same]
      exact ⟨calls.1, statement_calls calls.2 stated⟩
  | initializes nbSamples =>
      cases stepped
      exact ⟨restarted_calls 1 idle.1.2, restarted_calls nbSamples idle.2.2⟩

theorem pts_exact_of_on_time {event : PtsEvent} (tracks : BothTrack s)
    (onTime : PtsOnTime s event) : PtsExact s event := by
  intro following stepped
  have after := both_track_step tracks onTime stepped
  exact ⟨after.1.exact, after.2.exact⟩

theorem on_time_of_pts_exact {event : PtsEvent} (tracks : BothTrack s) (calls : BothCounted s)
    (exact : PtsExact s event) : PtsOnTime s event := by
  cases event with
  | video place =>
      apply sends_on_time_of_exact tracks.1 calls.1
      intro after stated
      exact (exact { s with video := after } (Option.map_eq_some_iff.mpr ⟨after, stated, rfl⟩)).1
  | audio place =>
      apply sends_on_time_of_exact tracks.2 calls.2
      intro after stated
      exact (exact { s with audio := after } (Option.map_eq_some_iff.mpr ⟨after, stated, rfl⟩)).2
  | initializes nbSamples => trivial

end Streams

theorem no_session_tracks : BothTrack noSession :=
  ⟨restarted_tracks (c := uninitialized) 1, restarted_tracks (c := uninitialized) 1⟩

theorem no_session_counted : BothCounted noSession := ⟨⟨rfl, nofun⟩, ⟨rfl, nofun⟩⟩

/-- The time stamps of every session are the multiples of the increments as long as
each frame is sent on time; where `initialize` meets no call in progress, exactly then. -/
theorem pts_exact_along (events : List PtsEvent) :
    (Along step PtsOnTime noSession events → Along step PtsExact noSession events) ∧
    (Along step InitializesIdle noSession events →
      (Along step PtsExact noSession events ↔ Along step PtsOnTime noSession events)) := by
  constructor
  · intro onTime
    exact along_of_invariant BothTrack
      (fun _ _ tracks permitted => pts_exact_of_on_time tracks permitted)
      (fun _ _ _ tracks permitted stepped => both_track_step tracks permitted stepped)
      no_session_tracks onTime
  · intro idle
    exact along_iff_of_invariant InitializesIdle (fun s => BothTrack s ∧ BothCounted s)
      (fun _ _ holds _ =>
        ⟨on_time_of_pts_exact holds.1 holds.2, pts_exact_of_on_time holds.1⟩)
      (fun _ _ _ holds permitted exact stepped =>
        ⟨both_track_step holds.1 (on_time_of_pts_exact holds.1 holds.2 exact) stepped,
          both_counted_step holds.2 permitted stepped⟩)
      ⟨no_session_tracks, no_session_counted⟩ idle

theorem pts_exact_along_one_frame :
    (Along step PtsOnTime noSession
        [.initializes 1024, .audio .stamps, .audio .sends, .audio .counts] →
      Along step PtsExact noSession
        [.initializes 1024, .audio .stamps, .audio .sends, .audio .counts]) ∧
    (Along step InitializesIdle noSession
        [.initializes 1024, .audio .stamps, .audio .sends, .audio .counts] →
      (Along step PtsExact noSession
          [.initializes 1024, .audio .stamps, .audio .sends, .audio .counts] ↔
        Along step PtsOnTime noSession
          [.initializes 1024, .audio .stamps, .audio .sends, .audio .counts])) :=
  pts_exact_along _

section Calls

/-- An encode call of the audio that no other one overlaps. -/
def audioCall : List PtsEvent := [.audio .stamps, .audio .sends, .audio .counts]

def audioCalls (count : Nat) : List PtsEvent := (List.replicate count audioCall).flatten

theorem audio_call_run (s : Streams) :
    audioCall.foldlM step s =
      some { s with audio := counted (sentFrame (stamped s.audio)) } := rfl

/-- The chunk loops send a frame as one such call. -/
theorem send_frame_call {t : AudioTrack} {c : Stamping} (counter : c.counter = t.audioFramePts)
    (increment : (c.increment : Int) = t.nbSamples) (sent : c.sent = t.sent.map SentFrame.pts) :
    (counted (sentFrame (stamped c))).counter = (sendFrame t).audioFramePts ∧
      (counted (sentFrame (stamped c))).sent = (sendFrame t).sent.map SentFrame.pts := by
  simp only [counted, sentFrame, stamped, sendFrame, counter, increment, sent, List.map_append,
    List.map_cons, List.map_nil, and_self]

theorem initialize_restarts {enc opened : Encoder} {mEncCtx : EncoderContext} {lib : Libav}
    (success : initializeEncoder enc mEncCtx lib = (.success, opened)) (c : Stamping)
    (increment : ℕ+) :
    opened.videoFramePts = (restarted c increment).counter ∧
      opened.audioFramePts = (restarted c increment).counter :=
  ⟨(initialize_encoder_counting success).videoFramePts,
    (initialize_encoder_counting success).audioFramePts⟩

theorem audio_calls_run (count : Nat) (s : Streams) (small : s.audio.counter < 2 ^ 31) :
    ∃ after, (audioCalls count).foldlM step s = some after ∧
      after.audio.sent.length = s.audio.sent.length + count ∧
      after.audio.increment = s.audio.increment ∧ after.audio.counter < 2 ^ 31 := by
  induction count generalizing s with
  | zero => exact ⟨s, rfl, rfl, rfl, small⟩
  | succ count induction =>
      rcases induction { s with audio := counted (sentFrame (stamped s.audio)) }
        (wrap_int_lt _) with ⟨after, ran, length, increment, bound⟩
      refine ⟨after, ?_, ?_, increment, bound⟩
      · have split : audioCalls (count + 1) = audioCall ++ audioCalls count := by
          unfold audioCalls
          rw [List.replicate_succ, List.flatten_cons]
        rw [split, List.foldlM_append, audio_call_run]
        exact ran
      · simp only [counted, sentFrame, stamped, List.length_append, List.length_singleton] at length
        omega

end Calls

/-- After about twelve hours of 48 kHz the time stamp of the next frame is negative. -/
theorem long_session_wraps :
    ¬Along step PtsExact noSession
      ((.initializes 1024 :: audioCalls 2097152) ++ [.audio .stamps, .audio .sends]) := by
  intro exact
  let opened : Streams :=
    { video := restarted uninitialized 1, audio := restarted uninitialized 1024 }
  have session : Along step PtsExact opened
      (audioCalls 2097152 ++ [.audio .stamps, .audio .sends]) := exact.2 _ rfl
  rcases audio_calls_run 2097152 opened (by decide) with ⟨after, ran, length, increment, bound⟩
  have last := ((along_rest session ran).2 _ rfl).1
  have stamps := (last _ rfl).2.stamps after.audio.sent.length after.audio.counter
    List.getElem?_concat_length
  have counted : after.audio.sent.length = 2097152 := length.trans (Nat.zero_add _)
  have samples : ((after.audio.increment : ℕ+) : Int) = 1024 := by
    rw [increment]
    rfl
  simp only [sentFrame, stamped, counted, samples] at stamps
  omega

end Collabo.FramePts
