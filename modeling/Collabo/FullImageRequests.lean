import Collabo.JpegCompressor

/-!
# Requests for a full image

`sendFull` is called by the handler of a SETTING, on another thread than the loop, so
the flag may be raised between any two statements of an iteration. A client that asks
late has a canvas of its own; the frames captured after its request reach it up to
the last pixel, which the scan does not compare. No message tells it the size before
the size changes.
-/

namespace Collabo.FullImageRequests

open BoundingBox PartialRuns Collabo.CString Collabo.JpegScan Collabo.JpegCompressor

set_option autoImplicit false

/-- Where the loop stands in an iteration: before the capture, before the test of
`fullFlag`, before it is lowered, or before the comparison. -/
inductive Place where
  | captures
  | tests (frame : Frame)
  | clears (frame : Frame)
  | compares (frame : Frame)

/-- `captured` says that a frame was captured since the client asked, `behind` that a
compression failed and no whole frame has been sent since, and `sized` that the client
asked with a canvas of the size of the loop or was sent an INITIMAGE since. The source
has none of them. -/
structure Statements where
  loop : CompressLoop
  place : Place
  canvas : Canvas
  captured : Bool
  behind : Bool
  sized : Bool

/-- `asks` is a client that was not there before, `sendsFull` another one. -/
inductive StatementEvent where
  | asks (canvas : Canvas)
  | sendsFull
  | captures (frame : Frame)
  | tests
  | clears
  | compares (compresses : Bool)

def capture (s : Statements) (frame : Frame) : Statements :=
  let changed := resized s.loop frame
  { s with
    loop := { s.loop with
      width := frame.rawWidth
      height := frame.rawHeight
      prevBuf := if changed then none else s.loop.prevBuf }
    place := .tests frame
    canvas := if changed then receive s.canvas (.initImage frame.rawWidth frame.rawHeight)
      else s.canvas
    captured := true
    sized := changed || s.sized }

/-- `if(fullFlag)`, with the buffer that goes. -/
def test (s : Statements) (frame : Frame) : Statements :=
  if s.loop.fullFlag then
    { s with loop := { s.loop with prevBuf := none }, place := .clears frame }
  else { s with place := .compares frame }

def clear (s : Statements) (frame : Frame) : Statements :=
  { s with loop := { s.loop with fullFlag := false }, place := .compares frame }

def comparedBox (loop : CompressLoop) (frame : Frame) : Box :=
  match loop.prevBuf with
  | some prevBuf => scan prevBuf frame.data frame.rawWidth frame.rawHeight
  | none => whole frame.rawWidth frame.rawHeight

def compare (s : Statements) (frame : Frame) (compresses : Bool) : Statements :=
  let box := comparedBox s.loop frame
  let kept := { s with loop := { s.loop with prevBuf := some frame.data }, place := .captures }
  if box.touched then
    if compresses then
      { kept with
        loop := { kept.loop with seq := s.loop.seq + 1 }
        canvas := receive s.canvas (.decodeImage (compressed frame box s.loop.seq))
        behind := if s.loop.prevBuf = none then false else s.behind }
    else { kept with behind := true }
  else kept

def step (s : Statements) (event : StatementEvent) : Option Statements :=
  match event, s.place with
  | .asks canvas, _ =>
      some { s with
        loop := sendFull s.loop
        canvas := canvas
        captured := false
        behind := false
        sized := canvas.width = s.loop.width ∧ canvas.height = s.loop.height }
  | .sendsFull, _ => some { s with loop := sendFull s.loop }
  | .captures frame, .captures => some (capture s frame)
  | .tests, .tests frame => some (test s frame)
  | .clears, .clears frame => some (clear s frame)
  | .compares compresses, .compares frame => some (compare s frame compresses)
  | _, _ => none

def started (canvas : Canvas) (width height : Nat) (fullFlag : Bool) : Statements where
  loop := (compressJpegLoop width height fullFlag).1
  place := .captures
  canvas := (compressJpegLoop width height fullFlag).2.foldl receive canvas
  captured := false
  behind := false
  sized := true

/-- The statements of an iteration that no request falls between. -/
def uninterrupted (loop : CompressLoop) (frame : Frame) (compresses : Bool) :
    List StatementEvent :=
  if loop.fullFlag then [.captures frame, .tests, .clears, .compares compresses]
  else [.captures frame, .tests, .compares compresses]

theorem compare_iterates {s : Statements} {loop : CompressLoop} {frame : Frame}
    (width : s.loop.width = frame.rawWidth) (height : s.loop.height = frame.rawHeight)
    (prevBuf : s.loop.prevBuf = compared loop frame) (lowered : s.loop.fullFlag = false)
    (seq : s.loop.seq = loop.seq) (compresses : Bool) :
    (compare s frame compresses).place = .captures ∧
      (compare s frame compresses).loop = (iterate loop frame compresses).loop ∧
      (compare s frame compresses).canvas =
        if (rectangle loop frame).touched && compresses then
          receive s.canvas (.decodeImage (compressed frame (rectangle loop frame) loop.seq))
        else s.canvas := by
  have box : comparedBox s.loop frame = rectangle loop frame := by
    unfold comparedBox rectangle
    generalize s.loop.prevBuf = prior at prevBuf
    subst prevBuf
    cases compared loop frame with
    | none => rfl
    | some buffer => rfl
  unfold compare iterate
  dsimp only
  rw [box, width, height, lowered, seq]
  cases touched : (rectangle loop frame).touched <;> cases compresses <;> exact ⟨rfl, rfl, rfl⟩

/-- Such an iteration is one round of `iterate`. -/
theorem uninterrupted_iterates {s : Statements} (place : s.place = .captures) (frame : Frame)
    (compresses : Bool) :
    ∃ following, (uninterrupted s.loop frame compresses).foldlM step s = some following ∧
      following.place = .captures ∧
      following.loop = (iterate s.loop frame compresses).loop ∧
      following.canvas = (iterate s.loop frame compresses).sent.foldl receive s.canvas := by
  have canvas : (iterate s.loop frame compresses).sent.foldl receive s.canvas =
      if (rectangle s.loop frame).touched && compresses then
        receive (capture s frame).canvas
          (.decodeImage (compressed frame (rectangle s.loop frame) s.loop.seq))
      else (capture s frame).canvas := by
    unfold iterate capture
    dsimp only
    cases resized s.loop frame <;> cases (rectangle s.loop frame).touched <;>
      cases compresses <;> rfl
  have captured : step s (.captures frame) = some (capture s frame) := by
    simp only [step, place]
  rw [canvas]
  cases flag : s.loop.fullFlag with
  | true =>
      have run : (uninterrupted s.loop frame compresses).foldlM step s =
          some (compare (clear (test (capture s frame) frame) frame) frame compresses) := by
        simp only [uninterrupted, flag, if_true, List.foldlM_cons, captured]
        simp [step, test, capture, clear, flag]
      have nothing : compared s.loop frame = none := by
        unfold compared
        rw [flag, if_pos rfl, ite_self]
      have raised : (capture s frame).loop.fullFlag = true := flag
      refine ⟨_, run, ?_⟩
      unfold test
      rw [if_pos raised]
      apply compare_iterates
      · rfl
      · rfl
      · exact nothing.symm
      · rfl
      · rfl
  | false =>
      have run : (uninterrupted s.loop frame compresses).foldlM step s =
          some (compare (test (capture s frame) frame) frame compresses) := by
        simp only [uninterrupted, flag, Bool.false_eq_true, if_false, List.foldlM_cons, captured]
        simp [step, test, capture, flag]
      have kept : (capture s frame).loop.prevBuf = compared s.loop frame := by
        unfold compared
        rw [flag, if_neg Bool.false_ne_true]
        rfl
      have lowered : ¬(capture s frame).loop.fullFlag = true := by
        change ¬s.loop.fullFlag = true
        rw [flag]
        exact Bool.false_ne_true
      refine ⟨_, run, ?_⟩
      unfold test
      rw [if_neg lowered]
      apply compare_iterates
      · rfl
      · rfl
      · exact kept
      · exact flag
      · rfl

def PixelsButLast (canvas : Canvas) (width height : Nat) (data : ByteString) : Prop :=
  ∀ y, y < height → ∀ x, x < width → ¬(y + 1 = height ∧ x + 1 = width) →
    canvas.pixel x y = pixelAt data width x y

structure ShowsButLast (canvas : Canvas) (width height : Nat) (data : ByteString) : Prop where
  sameWidth : canvas.width = width
  sameHeight : canvas.height = height
  pixels : PixelsButLast canvas width height data

/-- Of a frame that was captured after the client asked, the iteration leaves it all
pixels but the last, unless a compression failed and no whole frame came since. The
canvas has the size of the frame where the client had it or was told. -/
def CatchesUp (s : Statements) (event : StatementEvent) : Prop :=
  ∀ frame compresses, s.place = .compares frame → event = .compares compresses →
    s.captured = true → (compare s frame compresses).behind = false →
      PixelsButLast (compare s frame compresses).canvas frame.rawWidth frame.rawHeight
          frame.data ∧
        (ShowsButLast (compare s frame compresses).canvas frame.rawWidth frame.rawHeight
            frame.data ↔ s.sized = true)

def frameOf : Place → Option Frame
  | .captures => none
  | .tests frame => some frame
  | .clears frame => some frame
  | .compares frame => some frame

def UpToDate (s : Statements) : Prop :=
  ∀ prevBuf, s.loop.prevBuf = some prevBuf →
    PixelsButLast s.canvas s.loop.width s.loop.height prevBuf

def Awaited (s : Statements) : Prop :=
  s.loop.fullFlag = true ∧ (s.captured = false ∨ ∃ frame, s.place = .tests frame)

structure Tracked (s : Statements) : Prop where
  sized : ∀ frame, frameOf s.place = some frame →
    frame.rawWidth = s.loop.width ∧ frame.rawHeight = s.loop.height
  cleared : ∀ frame, s.place = .clears frame → s.loop.prevBuf = none
  told : s.sized = true ↔ s.canvas.width = s.loop.width ∧ s.canvas.height = s.loop.height
  current : s.behind = false → UpToDate s ∨ Awaited s

section Comparing

variable {s : Statements} {frame : Frame}

theorem compared_box_covers {x y : Nat} {prevBuf : ByteString}
    (held : s.loop.prevBuf = some prevBuf) (inRow : x < frame.rawWidth)
    (inFrame : y < frame.rawHeight)
    (notLast : ¬(y + 1 = frame.rawHeight ∧ x + 1 = frame.rawWidth))
    (changed : pixelAt prevBuf frame.rawWidth x y ≠ pixelAt frame.data frame.rawWidth x y) :
    Inside (comparedBox s.loop frame) x y := by
  unfold comparedBox
  rw [held]
  exact scan_covers_but_last inRow inFrame notLast changed

theorem outside_shown (upToDate : UpToDate s) (width : frame.rawWidth = s.loop.width)
    (height : frame.rawHeight = s.loop.height) {x y : Nat} (inRow : x < frame.rawWidth)
    (inFrame : y < frame.rawHeight)
    (notLast : ¬(y + 1 = frame.rawHeight ∧ x + 1 = frame.rawWidth))
    (outside : ¬Inside (comparedBox s.loop frame) x y) :
    s.canvas.pixel x y = pixelAt frame.data frame.rawWidth x y := by
  cases held : s.loop.prevBuf with
  | none =>
      have inside : Inside (comparedBox s.loop frame) x y := by
        unfold comparedBox
        rw [held]
        exact ⟨rfl, Nat.zero_le x, inRow, Nat.zero_le y, inFrame⟩
      exact absurd inside outside
  | some prevBuf =>
      have shown := upToDate prevBuf held
      rw [← width, ← height] at shown
      rw [shown y inFrame x inRow notLast]
      by_contra changed
      exact outside (compared_box_covers held inRow inFrame notLast changed)

theorem paste_shows_but_last {canvas : Canvas} {box : Box} (seq : Nat)
    (outside : ∀ y, y < frame.rawHeight → ∀ x, x < frame.rawWidth →
      ¬(y + 1 = frame.rawHeight ∧ x + 1 = frame.rawWidth) → ¬Inside box x y →
        canvas.pixel x y = pixelAt frame.data frame.rawWidth x y) :
    PixelsButLast (receive canvas (.decodeImage (compressed frame box seq))) frame.rawWidth
      frame.rawHeight frame.data := by
  intro y inFrame x inRow notLast
  by_cases covered : pasted (compressed frame box seq) x y
  · simp only [receive, if_pos covered]
    obtain ⟨left, _, top, _⟩ := covered
    simp only [compressed] at left top ⊢
    rw [Nat.add_sub_cancel' left, Nat.add_sub_cancel' top]
  · simp only [receive, if_neg covered]
    apply outside y inFrame x inRow notLast
    intro inside
    obtain ⟨_, left, right, top, bottom⟩ := inside
    apply covered
    simp only [pasted, compressed]
    omega

/-- An iteration that does not fail brings an up-to-date client to its frame. -/
theorem compare_shows (upToDate : UpToDate s) (width : frame.rawWidth = s.loop.width)
    (height : frame.rawHeight = s.loop.height) {compresses : Bool}
    (followed : (compare s frame compresses).behind = false) :
    PixelsButLast (compare s frame compresses).canvas frame.rawWidth frame.rawHeight
      frame.data := by
  have outside : ∀ y, y < frame.rawHeight → ∀ x, x < frame.rawWidth →
      ¬(y + 1 = frame.rawHeight ∧ x + 1 = frame.rawWidth) →
        ¬Inside (comparedBox s.loop frame) x y →
          s.canvas.pixel x y = pixelAt frame.data frame.rawWidth x y :=
    fun y inFrame x inRow notLast => outside_shown upToDate width height inRow inFrame notLast
  unfold compare at followed ⊢
  dsimp only at followed ⊢
  cases touched : (comparedBox s.loop frame).touched with
  | false =>
      rw [if_neg Bool.false_ne_true]
      intro y inFrame x inRow notLast
      apply outside y inFrame x inRow notLast
      intro inside
      cases touched.symm.trans inside.1
  | true =>
      rw [if_pos rfl]
      cases compresses with
      | true => exact paste_shows_but_last s.loop.seq outside
      | false =>
          rw [touched] at followed
          cases followed

theorem whole_up_to_date (nothing : s.loop.prevBuf = none) : UpToDate s := by
  intro prevBuf held
  rw [nothing] at held
  cases held

/-- A client that was behind, and is no longer, has been sent a whole frame. -/
theorem compare_behind {compresses : Bool}
    (followed : (compare s frame compresses).behind = false) :
    s.behind = false ∨ s.loop.prevBuf = none := by
  unfold compare at followed
  dsimp only at followed
  split_ifs at followed with touched compressed empty
  · exact .inr empty
  · exact .inl followed
  · exact .inl followed

theorem compare_loop (compresses : Bool) :
    (compare s frame compresses).loop.width = s.loop.width ∧
      (compare s frame compresses).loop.height = s.loop.height ∧
      (compare s frame compresses).loop.prevBuf = some frame.data ∧
      (compare s frame compresses).loop.fullFlag = s.loop.fullFlag ∧
      (compare s frame compresses).place = .captures ∧
      (compare s frame compresses).captured = s.captured := by
  unfold compare
  dsimp only
  split_ifs <;> exact ⟨rfl, rfl, rfl, rfl, rfl, rfl⟩

theorem compare_size (compresses : Bool) :
    (compare s frame compresses).canvas.width = s.canvas.width ∧
      (compare s frame compresses).canvas.height = s.canvas.height ∧
      (compare s frame compresses).sized = s.sized := by
  unfold compare
  dsimp only
  split_ifs <;> exact ⟨rfl, rfl, rfl⟩

end Comparing

section Steps

variable {s following : Statements}

theorem compare_tracked {frame : Frame} (tracked : Tracked s)
    (place : s.place = .compares frame) (compresses : Bool) :
    Tracked (compare s frame compresses) := by
  obtain ⟨width, height⟩ := tracked.sized frame (by rw [place]; rfl)
  obtain ⟨keptWidth, keptHeight, prevBuf, fullFlag, next, captured⟩ :=
    @compare_loop s frame compresses
  constructor
  · intro other same
    rw [next] at same
    cases same
  · intro other same
    rw [next] at same
    cases same
  · obtain ⟨canvasWidth, canvasHeight, sized⟩ := @compare_size s frame compresses
    rw [sized, canvasWidth, canvasHeight, keptWidth, keptHeight]
    exact tracked.told
  · intro followed
    have shows : UpToDate s → UpToDate (compare s frame compresses) := by
      intro upToDate held same
      rw [prevBuf] at same
      rw [keptWidth, keptHeight, ← Option.some.inj same, ← width, ← height]
      exact compare_shows upToDate width height followed
    rcases compare_behind followed with delivered | nothing
    · rcases tracked.current delivered with upToDate | ⟨flag, waiting⟩
      · exact .inl (shows upToDate)
      · apply Or.inr
        refine ⟨fullFlag.trans flag, .inl ?_⟩
        rw [captured]
        rcases waiting with none | ⟨other, same⟩
        · exact none
        · rw [place] at same
          cases same
    · exact .inl (shows (whole_up_to_date nothing))

theorem capture_tracked (tracked : Tracked s) (frame : Frame) :
    Tracked (capture s frame) := by
  constructor
  · intro other same
    rw [← Option.some.inj same]
    exact ⟨rfl, rfl⟩
  · intro other same
    cases same
  · unfold capture
    dsimp only
    cases changed : resized s.loop frame with
    | true => exact iff_of_true rfl ⟨rfl, rfl⟩
    | false =>
        obtain ⟨width, height⟩ := resized_false changed
        rw [if_neg Bool.false_ne_true, width, height]
        exact tracked.told
  · intro delivered
    rcases tracked.current delivered with upToDate | ⟨flag, _⟩
    · apply Or.inl
      intro prevBuf held
      unfold capture at held ⊢
      dsimp only at held ⊢
      cases changed : resized s.loop frame with
      | true =>
          rw [changed] at held
          cases held
      | false =>
          rw [changed] at held
          obtain ⟨width, height⟩ := resized_false changed
          rw [if_neg Bool.false_ne_true, width, height]
          exact upToDate prevBuf held
    · exact .inr ⟨flag, .inr ⟨frame, rfl⟩⟩

theorem test_tracked {frame : Frame} (tracked : Tracked s) (place : s.place = .tests frame) :
    Tracked (test s frame) := by
  have sized := tracked.sized frame (by rw [place]; rfl)
  unfold test
  split_ifs with flag
  · constructor
    · intro other same
      rw [← Option.some.inj same]
      exact sized
    · intro other same
      rfl
    · exact tracked.told
    · intro _
      exact .inl (whole_up_to_date rfl)
  · constructor
    · intro other same
      rw [← Option.some.inj same]
      exact sized
    · intro other same
      cases same
    · exact tracked.told
    · intro delivered
      rcases tracked.current delivered with upToDate | ⟨raised, _⟩
      · exact .inl upToDate
      · exact absurd raised flag

theorem clear_tracked {frame : Frame} (tracked : Tracked s) (place : s.place = .clears frame) :
    Tracked (clear s frame) := by
  have sized := tracked.sized frame (by rw [place]; rfl)
  constructor
  · intro other same
    rw [← Option.some.inj same]
    exact sized
  · intro other same
    cases same
  · exact tracked.told
  · intro _
    have nothing : (clear s frame).loop.prevBuf = none := tracked.cleared frame place
    exact .inl (whole_up_to_date nothing)

theorem asks_tracked (tracked : Tracked s) (canvas : Canvas) :
    Tracked
      { s with
        loop := sendFull s.loop
        canvas := canvas
        captured := false
        behind := false
        sized := canvas.width = s.loop.width ∧ canvas.height = s.loop.height } where
  sized := tracked.sized
  cleared := tracked.cleared
  told := decide_eq_true_iff
  current _ := .inr ⟨rfl, .inl rfl⟩

theorem sends_full_tracked (tracked : Tracked s) : Tracked { s with loop := sendFull s.loop } where
  sized := tracked.sized
  cleared := tracked.cleared
  told := tracked.told
  current delivered := by
    rcases tracked.current delivered with upToDate | ⟨_, waiting⟩
    · exact .inl upToDate
    · exact .inr ⟨rfl, waiting⟩

theorem step_tracked {event : StatementEvent} (tracked : Tracked s)
    (stepped : step s event = some following) : Tracked following := by
  cases event with
  | asks canvas =>
      cases stepped
      exact asks_tracked tracked canvas
  | sendsFull =>
      cases stepped
      exact sends_full_tracked tracked
  | captures frame =>
      cases place : s.place <;> simp only [step, place] at stepped <;> cases stepped
      exact capture_tracked tracked frame
  | tests =>
      cases place : s.place <;> simp only [step, place] at stepped <;> cases stepped
      exact test_tracked tracked place
  | clears =>
      cases place : s.place <;> simp only [step, place] at stepped <;> cases stepped
      exact clear_tracked tracked place
  | compares compresses =>
      cases place : s.place <;> simp only [step, place] at stepped <;> cases stepped
      exact compare_tracked tracked place compresses

/-- When the comparison is reached, the flag has been tested since the capture. -/
theorem tracked_catches_up (tracked : Tracked s) (event : StatementEvent) :
    CatchesUp s event := by
  intro frame compresses place _ captured followed
  obtain ⟨width, height⟩ := tracked.sized frame (by rw [place]; rfl)
  have upToDate : UpToDate s := by
    rcases compare_behind followed with delivered | nothing
    · rcases tracked.current delivered with upToDate | ⟨_, none | ⟨other, same⟩⟩
      · exact upToDate
      · rw [captured] at none
        cases none
      · rw [place] at same
        cases same
    · exact whole_up_to_date nothing
  have pixels := compare_shows upToDate width height followed
  obtain ⟨canvasWidth, canvasHeight, -⟩ := @compare_size s frame compresses
  refine ⟨pixels, ?_⟩
  rw [tracked.told, ← width, ← height, ← canvasWidth, ← canvasHeight]
  exact ⟨fun shows => ⟨shows.sameWidth, shows.sameHeight⟩, fun size => ⟨size.1, size.2, pixels⟩⟩

theorem started_tracked (canvas : Canvas) (width height : Nat) (fullFlag : Bool) :
    Tracked (started canvas width height fullFlag) where
  sized _ same := by cases same
  cleared _ same := by cases same
  told := iff_of_true rfl ⟨rfl, rfl⟩
  current _ := .inl (whole_up_to_date rfl)

end Steps

/-- However the requests fall between the statements of the loop, a client that asks
for a full image, with whatever canvas, has after each iteration the pixels of the
frame that was captured since, all but the last, unless it is behind by a failed
compression. It has the size too if it came with it or the size has changed since. -/
theorem late_client_catches_up (canvas : Canvas) (width height : Nat) (fullFlag : Bool)
    (events : List StatementEvent) :
    Along step CatchesUp (started canvas width height fullFlag) events := by
  have permitted : Along step (fun _ _ => True) (started canvas width height fullFlag) events :=
    along_of_forall (fun _ _ => trivial) events
  apply along_of_invariant Tracked _ _ (started_tracked canvas width height fullFlag) permitted
  · intro s event tracked _
    exact tracked_catches_up tracked event
  · intro s event following tracked _ stepped
    exact step_tracked tracked stepped

end Collabo.FullImageRequests
