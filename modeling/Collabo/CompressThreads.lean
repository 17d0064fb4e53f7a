import Collabo.JpegCompressor
import Collabo.Library.ThreadTable

/-!
# The threads of the image compressor

Each `initialize` detaches a thread of `compressJpegLoop`. All of them watch the
one flag of the compressor, which `stop` raises and each new thread lowers with
its first statement.
-/

namespace Collabo.CompressThreads

open PartialRuns ThreadTable Collabo.JpegScan Collabo.JpegCompressor

set_option autoImplicit false

/-- Where a thread stands: before its first statement, before the test of its
`while`, in the body, or after the loop. -/
inductive Place where
  | created (width height : Nat)
  | testing (loop : CompressLoop)
  | iterating (loop : CompressLoop)
  | ended

/-- `told` says that a `stop` came since the `initialize` of the thread, `heard`
that one came since its first statement. Neither is in the source. -/
structure LoopThread where
  place : Place
  told : Bool
  heard : Bool

structure Compressor where
  stopped : Bool
  fullFlag : Bool
  sent : List ImageMsg
  threads : List LoopThread

def built : Compressor where
  stopped := false
  fullFlag := false
  sent := []
  threads := []

inductive CompressorEvent where
  | initializes (width height : Nat)
  | stops
  | sendsFull
  | begins (number : Nat)
  | tests (number : Nat)
  | iterates (number : Nat) (frame : Frame) (compresses : Bool)

def LoopThread.tell (thread : LoopThread) : LoopThread :=
  { thread with told := true, heard := true }

def initializes (c : Compressor) (width height : Nat) : Compressor :=
  { c with
    threads := c.threads ++ [{ place := .created width height, told := false, heard := false }] }

def stops (c : Compressor) : Compressor :=
  { c with stopped := true, threads := c.threads.map LoopThread.tell }

def begins (c : Compressor) (number : Nat) : Option Compressor :=
  match c.threads[number]? with
  | some { place := .created width height, told, heard := _ } =>
      let loop := compressJpegLoop width height c.fullFlag
      some
        { c with
          stopped := false
          sent := c.sent ++ loop.2
          threads :=
            c.threads.set number { place := .testing loop.1, told := told, heard := false } }
  | _ => none

def tests (c : Compressor) (number : Nat) : Option Compressor :=
  match c.threads[number]? with
  | some { place := .testing loop, told, heard } =>
      let place := if c.stopped then .ended else .iterating loop
      some
        { c with
          threads := c.threads.set number { place := place, told := told, heard := heard } }
  | _ => none

def iterates (c : Compressor) (number : Nat) (frame : Frame) (compresses : Bool) :
    Option Compressor :=
  match c.threads[number]? with
  | some { place := .iterating loop, told, heard } =>
      let iterated := iterate { loop with fullFlag := c.fullFlag } frame compresses
      some
        { c with
          fullFlag := iterated.loop.fullFlag
          sent := c.sent ++ iterated.sent
          threads := c.threads.set number
            { place := .testing iterated.loop, told := told, heard := heard } }
  | _ => none

def step (c : Compressor) : CompressorEvent → Option Compressor
  | .initializes width height => some (initializes c width height)
  | .stops => some (stops c)
  | .sendsFull => some { c with fullFlag := true }
  | .begins number => begins c number
  | .tests number => tests c number
  | .iterates number frame compresses => iterates c number frame compresses

def Live (thread : LoopThread) : Prop := thread.place ≠ .ended

/-- There is one live loop at most, and a loop that was told to stop ends at its
next test. -/
def LoopsObey (c : Compressor) (event : CompressorEvent) : Prop :=
  (∀ following, step c event = some following → AtMostOne Live following.threads) ∧
    match event with
    | .tests number =>
        ∀ thread following, c.threads[number]? = some thread → thread.told = true →
          tests c number = some following →
          following.threads[number]? = some { thread with place := .ended }
    | .initializes _ _ => True
    | .stops => True
    | .sendsFull => True
    | .begins _ => True
    | .iterates _ _ _ => True

/-- An `initialize` comes when all loops have ended, and where a `stop` came
before the first statement of a thread, another one comes before its test. -/
def CallsSpaced (c : Compressor) : CompressorEvent → Prop
  | .initializes _ _ => ∀ thread ∈ c.threads, ¬Live thread
  | .tests number =>
      ∀ thread loop, c.threads[number]? = some thread → thread.place = .testing loop →
        thread.told = true → thread.heard = true
  | .stops => True
  | .sendsFull => True
  | .begins _ => True
  | .iterates _ _ _ => True

def Begun (thread : LoopThread) : Prop :=
  (∃ loop, thread.place = .testing loop) ∨ ∃ loop, thread.place = .iterating loop

structure OneLoop (c : Compressor) : Prop where
  one : AtMostOne Live c.threads
  flag : ∀ thread ∈ c.threads, Begun thread → c.stopped = thread.heard

theorem begun_live {thread : LoopThread} (begun : Begun thread) : Live thread := by
  intro ended
  rcases begun with ⟨loop, place⟩ | ⟨loop, place⟩
  · rw [place] at ended
    cases ended
  · rw [place] at ended
    cases ended

section Steps

variable {c following : Compressor} {number : Nat}

theorem begins_some (stepped : begins c number = some following) :
    ∃ width height told heard,
      c.threads[number]? = some { place := .created width height, told := told, heard := heard } ∧
        following.stopped = false ∧
        following.threads = c.threads.set number
          { place := .testing (compressJpegLoop width height c.fullFlag).1
            told := told
            heard := false } := by
  unfold begins at stepped
  split at stepped
  · next width height told heard found =>
      rw [← Option.some.inj stepped]
      exact ⟨width, height, told, heard, found, rfl, rfl⟩
  · cases stepped

theorem tests_some (stepped : tests c number = some following) :
    ∃ loop told heard,
      c.threads[number]? = some { place := .testing loop, told := told, heard := heard } ∧
        following.stopped = c.stopped ∧
        following.threads = c.threads.set number
          { place := if c.stopped then .ended else .iterating loop
            told := told
            heard := heard } := by
  unfold tests at stepped
  split at stepped
  · next loop told heard found =>
      rw [← Option.some.inj stepped]
      exact ⟨loop, told, heard, found, rfl, rfl⟩
  · cases stepped

theorem iterates_some {frame : Frame} {compresses : Bool}
    (stepped : iterates c number frame compresses = some following) :
    ∃ loop told heard next,
      c.threads[number]? = some { place := .iterating loop, told := told, heard := heard } ∧
        following.stopped = c.stopped ∧
        following.threads = c.threads.set number
          { place := .testing next, told := told, heard := heard } := by
  unfold iterates at stepped
  split at stepped
  · next loop told heard found =>
      rw [← Option.some.inj stepped]
      exact ⟨loop, told, heard, _, found, rfl, rfl⟩
  · cases stepped

theorem moved_one {thread next : LoopThread} (invariant : OneLoop c)
    (found : c.threads[number]? = some thread) (live : Live thread)
    (moved : following.threads = c.threads.set number next) : AtMostOne Live following.threads := by
  rw [moved]
  exact at_most_one_set invariant.one found (fun _ => live)

theorem moved_flag {thread next : LoopThread} (invariant : OneLoop c)
    (found : c.threads[number]? = some thread) (live : Live thread)
    (moved : following.threads = c.threads.set number next)
    (agrees : Begun next → following.stopped = next.heard) :
    ∀ entry ∈ following.threads, Begun entry → following.stopped = entry.heard := by
  intro entry member begun
  rw [moved] at member
  rcases other_of_at_most_one invariant.one found live member with rfl | notLive
  · exact agrees begun
  · exact absurd (begun_live begun) notLive

theorem begins_one_loop (invariant : OneLoop c) (stepped : begins c number = some following) :
    OneLoop following := by
  rcases begins_some stepped with ⟨width, height, told, heard, found, lowered, moved⟩
  have live : Live { place := .created width height, told := told, heard := heard } := nofun
  constructor
  · exact moved_one invariant found live moved
  · exact moved_flag invariant found live moved (fun _ => lowered)

theorem tests_one_loop (invariant : OneLoop c) (stepped : tests c number = some following) :
    OneLoop following := by
  rcases tests_some stepped with ⟨loop, told, heard, found, kept, moved⟩
  have begun : Begun { place := .testing loop, told := told, heard := heard } := .inl ⟨loop, rfl⟩
  have agrees := invariant.flag _ (List.mem_of_getElem? found) begun
  constructor
  · exact moved_one invariant found (begun_live begun) moved
  · exact moved_flag invariant found (begun_live begun) moved (fun _ => kept.trans agrees)

theorem iterates_one_loop {frame : Frame} {compresses : Bool} (invariant : OneLoop c)
    (stepped : iterates c number frame compresses = some following) : OneLoop following := by
  rcases iterates_some stepped with ⟨loop, told, heard, next, found, kept, moved⟩
  have begun : Begun { place := .iterating loop, told := told, heard := heard } := .inr ⟨loop, rfl⟩
  have agrees := invariant.flag _ (List.mem_of_getElem? found) begun
  constructor
  · exact moved_one invariant found (begun_live begun) moved
  · exact moved_flag invariant found (begun_live begun) moved (fun _ => kept.trans agrees)

theorem stops_one_loop (invariant : OneLoop c) : OneLoop (stops c) := by
  constructor
  · exact at_most_one_map invariant.one (fun _ live => live)
  · intro thread member _
    rcases List.mem_map.mp member with ⟨prior, _, rfl⟩
    rfl

theorem initializes_one_iff {width height : Nat} :
    AtMostOne Live (initializes c width height).threads ↔ ∀ thread ∈ c.threads, ¬Live thread :=
  at_most_one_append_iff nofun

theorem initializes_flag {width height : Nat} (invariant : OneLoop c) :
    ∀ thread ∈ (initializes c width height).threads, Begun thread →
      (initializes c width height).stopped = thread.heard := by
  intro thread member begun
  rcases List.mem_append.mp member with before | added
  · exact invariant.flag thread before begun
  · rw [List.mem_singleton.mp added] at begun
    rcases begun with ⟨loop, place⟩ | ⟨loop, place⟩
    · cases place
    · cases place

/-- Only an `initialize` can add a second live loop. -/
theorem step_one_loop {event : CompressorEvent} (invariant : OneLoop c)
    (one : AtMostOne Live following.threads) (stepped : step c event = some following) :
    OneLoop following := by
  cases event with
  | initializes width height =>
      cases Option.some.inj stepped
      exact ⟨one, initializes_flag invariant⟩
  | stops =>
      cases Option.some.inj stepped
      exact stops_one_loop invariant
  | sendsFull =>
      cases Option.some.inj stepped
      exact ⟨invariant.one, invariant.flag⟩
  | begins number => exact begins_one_loop invariant stepped
  | tests number => exact tests_one_loop invariant stepped
  | iterates number frame compresses => exact iterates_one_loop invariant stepped

/-- A thread that was told ends at its test just when it has heard of it too. -/
theorem tests_obey_iff (invariant : OneLoop c) :
    (∀ thread following, c.threads[number]? = some thread → thread.told = true →
        tests c number = some following →
        following.threads[number]? = some { thread with place := .ended }) ↔
      CallsSpaced c (.tests number) := by
  constructor
  · intro obeys thread loop found place told
    obtain ⟨_, told', heard⟩ := thread
    cases place
    have agrees := invariant.flag _ (List.mem_of_getElem? found) (.inl ⟨loop, rfl⟩)
    have ended := obeys _ _ found told (by simp only [tests, found]; rfl)
    rw [← agrees]
    cases raised : c.stopped with
    | true => rfl
    | false =>
        have inside := (List.getElem?_eq_some_iff.mp found).1
        simp [raised, inside] at ended
  · intro spaced thread following found told stepped
    rcases tests_some stepped with ⟨loop, told', heard, sameFound, _, moved⟩
    rw [found] at sameFound
    cases Option.some.inj sameFound
    have agrees := invariant.flag _ (List.mem_of_getElem? found) (.inl ⟨loop, rfl⟩)
    have raised : c.stopped = true := agrees.trans (spaced _ loop found rfl told)
    have inside := (List.getElem?_eq_some_iff.mp found).1
    rw [moved, List.getElem?_set_self inside, raised, if_pos rfl]

theorem loops_obey_iff (invariant : OneLoop c) (event : CompressorEvent) :
    LoopsObey c event ↔ CallsSpaced c event := by
  cases event with
  | initializes width height =>
      simp only [LoopsObey, CallsSpaced, step, Option.some.injEq, forall_eq', and_true]
      exact initializes_one_iff
  | tests number =>
      have one : ∀ following, step c (.tests number) = some following →
          AtMostOne Live following.threads :=
        fun following stepped => (tests_one_loop invariant stepped).one
      constructor
      · intro obeys
        exact (tests_obey_iff invariant).mp obeys.2
      · intro spaced
        exact ⟨one, (tests_obey_iff invariant).mpr spaced⟩
  | stops =>
      refine iff_of_true ⟨?_, trivial⟩ trivial
      intro following stepped
      cases Option.some.inj stepped
      exact (stops_one_loop invariant).one
  | sendsFull =>
      refine iff_of_true ⟨?_, trivial⟩ trivial
      intro following stepped
      cases Option.some.inj stepped
      exact invariant.one
  | begins number =>
      refine iff_of_true ⟨?_, trivial⟩ trivial
      exact fun following stepped => (begins_one_loop invariant stepped).one
  | iterates number frame compresses =>
      refine iff_of_true ⟨?_, trivial⟩ trivial
      exact fun following stepped => (iterates_one_loop invariant stepped).one

end Steps

/-- For every sequence of calls and every scheduling of the threads, there is one
live loop at most and each loop obeys its `stop` exactly when the calls are
spaced. -/
theorem loops_obey_along_iff (events : List CompressorEvent) :
    Along step LoopsObey built events ↔ Along step CallsSpaced built events := by
  apply along_iff_of_invariant (fun _ _ => True) OneLoop
  · intro c event invariant _
    exact loops_obey_iff invariant event
  · intro c event following invariant _ obeys stepped
    exact step_one_loop invariant (obeys.1 following stepped) stepped
  · exact ⟨at_most_one_nil, nofun⟩
  · exact along_of_forall (fun _ _ => trivial) events

def stoppedEarly : List CompressorEvent :=
  [.initializes 2 1, .stops, .begins 0, .tests 0]

def restartedAsleep : List CompressorEvent :=
  [.initializes 2 1, .begins 0, .tests 0, .iterates 0 (sampleFrame 1) true, .stops,
    .initializes 2 1, .begins 1, .tests 1, .tests 0]

/-- A stop before the first statement is lost, and after a restart within one
sleep the old loop goes on beside the new one: two senders that both start at
the sequence number zero. -/
theorem stop_lost_by_late_start :
    ¬Along step LoopsObey built stoppedEarly ∧ ¬Along step LoopsObey built restartedAsleep := by
  constructor
  · intro obeys
    have last := ((((obeys.2 _ rfl).2 _ rfl).2 _ rfl).1.2 _ _ rfl rfl rfl)
    cases last
  · intro obeys
    have last := ((((((((obeys.2 _ rfl).2 _ rfl).2 _ rfl).2 _ rfl).2 _ rfl).2 _ rfl).2 _ rfl).2 _
      rfl).1.2 _ _ rfl rfl rfl
    cases last

end Collabo.CompressThreads
