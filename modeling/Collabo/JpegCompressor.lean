import Collabo.JpegScan
import Collabo.Library.PartialRuns

/-!
# The image compressor and its clients

One `compressJpegLoop` with what a client makes of its messages. The codec is
lossless, so a compressed rectangle is given by the pixels it decodes to. A
frame replaces `prevBuf` whether or not its update was compressed, and so the
client can fall behind the buffer that the next scan compares with.
-/

namespace Collabo.JpegCompressor

open BoundingBox PartialRuns Collabo.CString Collabo.JpegScan

set_option autoImplicit false

/-- The fields behind the identifier of a DECODEIMAGE message. -/
structure DecodeImage where
  seq : Nat
  minX : Nat
  minY : Nat
  partialWidth : Nat
  partialHeight : Nat
  jpeg : Nat → Nat → ByteString

inductive ImageMsg where
  | initImage (width height : Nat)
  | decodeImage (image : DecodeImage)

/-- The locals of `compressJpegLoop` and the flag that `sendFull` sets. -/
structure CompressLoop where
  width : Nat
  height : Nat
  prevBuf : Option ByteString
  fullFlag : Bool
  seq : Nat

/-- `failed` says that `tjCompress2` was called and failed. -/
structure Iterated where
  loop : CompressLoop
  sent : List ImageMsg
  failed : Bool

def compressJpegLoop (width height : Nat) (fullFlag : Bool) : CompressLoop × List ImageMsg :=
  ({ width := width, height := height, prevBuf := none, fullFlag := fullFlag, seq := 0 },
    [.initImage width height])

def resized (loop : CompressLoop) (frame : Frame) : Bool :=
  frame.rawWidth ≠ loop.width || frame.rawHeight ≠ loop.height

/-- The buffer left to compare with: none after a change of size or `sendFull`. -/
def compared (loop : CompressLoop) (frame : Frame) : Option ByteString :=
  if resized loop frame then none else if loop.fullFlag then none else loop.prevBuf

def rectangle (loop : CompressLoop) (frame : Frame) : Box :=
  match compared loop frame with
  | some prevBuf => scan prevBuf frame.data frame.rawWidth frame.rawHeight
  | none => whole frame.rawWidth frame.rawHeight

def compressed (frame : Frame) (box : Box) (seq : Nat) : DecodeImage where
  seq := seq
  minX := box.minX
  minY := box.minY
  partialWidth := box.maxX - box.minX
  partialHeight := box.maxY - box.minY
  jpeg x y := pixelAt frame.data frame.rawWidth (box.minX + x) (box.minY + y)

/-- One round of the `while` with the frame captured and the outcome of
`tjCompress2`, should it be called. -/
def iterate (loop : CompressLoop) (frame : Frame) (compresses : Bool) : Iterated :=
  let init := if resized loop frame then [ImageMsg.initImage frame.rawWidth frame.rawHeight] else []
  let box := rectangle loop frame
  let next := { loop with
    width := frame.rawWidth
    height := frame.rawHeight
    prevBuf := some frame.data
    fullFlag := false }
  if box.touched then
    if compresses then
      { loop := { next with seq := loop.seq + 1 }
        sent := init ++ [.decodeImage (compressed frame box loop.seq)]
        failed := false }
    else { loop := next, sent := init, failed := true }
  else { loop := next, sent := init, failed := false }

def sendFull (loop : CompressLoop) : CompressLoop := { loop with fullFlag := true }

structure Canvas where
  width : Nat
  height : Nat
  pixel : Nat → Nat → ByteString

def blank (width height : Nat) : Canvas where
  width := width
  height := height
  pixel _ _ := [0, 0, 0]

def pasted (image : DecodeImage) (x y : Nat) : Prop :=
  image.minX ≤ x ∧ x < image.minX + image.partialWidth ∧
    image.minY ≤ y ∧ y < image.minY + image.partialHeight

instance (image : DecodeImage) (x y : Nat) : Decidable (pasted image x y) :=
  inferInstanceAs (Decidable (_ ∧ _))

def receive (canvas : Canvas) : ImageMsg → Canvas
  | .initImage width height => blank width height
  | .decodeImage image =>
      { canvas with
        pixel := fun x y =>
          if pasted image x y then image.jpeg (x - image.minX) (y - image.minY)
          else canvas.pixel x y }

/-- The canvas has the size of the buffer and all its pixels. -/
structure Shows (canvas : Canvas) (width height : Nat) (data : ByteString) : Prop where
  sameWidth : canvas.width = width
  sameHeight : canvas.height = height
  pixels : ∀ y, y < height → ∀ x, x < width → canvas.pixel x y = pixelAt data width x y

/-- The loop with a client that has been there from its start. `unsent` says
that the last compression failed; the source does not keep that. -/
structure Feed where
  loop : CompressLoop
  canvas : Canvas
  unsent : Bool

def startFeed (canvas : Canvas) (width height : Nat) (fullFlag : Bool) : Feed where
  loop := (compressJpegLoop width height fullFlag).1
  canvas := (compressJpegLoop width height fullFlag).2.foldl receive canvas
  unsent := false

inductive FeedEvent where
  | iterates (frame : Frame) (compresses : Bool)
  | sendsFull

def feed (state : Feed) : FeedEvent → Feed
  | .iterates frame compresses =>
      let iterated := iterate state.loop frame compresses
      { loop := iterated.loop
        canvas := iterated.sent.foldl receive state.canvas
        unsent := iterated.failed }
  | .sendsFull => { state with loop := sendFull state.loop }

def step (state : Feed) (event : FeedEvent) : Option Feed := some (feed state event)

/-- The rectangle covers every changed pixel, if the frame is compared at all. -/
def Covering (state : Feed) : FeedEvent → Prop
  | .iterates frame _ =>
      ∀ prevBuf, compared state.loop frame = some prevBuf →
        ∀ y, y < frame.rawHeight → ∀ x, x < frame.rawWidth →
          pixelAt prevBuf frame.rawWidth x y ≠ pixelAt frame.data frame.rawWidth x y →
            Inside (scan prevBuf frame.data frame.rawWidth frame.rawHeight) x y
  | .sendsFull => True

/-- A failed compression is followed by one that fails too or by a whole frame. -/
def FullAfterFailure (state : Feed) : FeedEvent → Prop
  | .iterates frame compresses =>
      state.unsent = true →
        compared state.loop frame = none ∨ (iterate state.loop frame compresses).failed = true
  | .sendsFull => True

/-- Unless its compression fails, an iteration leaves the client with its frame. -/
def ClientHolds (state : Feed) : FeedEvent → Prop
  | .iterates frame compresses =>
      (iterate state.loop frame compresses).failed = false →
        Shows (feed state (.iterates frame compresses)).canvas frame.rawWidth frame.rawHeight
          frame.data
  | .sendsFull => True

/-- The client has the size of the loop and, unless the last compression failed,
the buffer that the next scan compares with. -/
structure Follows (state : Feed) : Prop where
  sameWidth : state.canvas.width = state.loop.width
  sameHeight : state.canvas.height = state.loop.height
  shown : ∀ prevBuf, state.loop.prevBuf = some prevBuf → state.unsent = false →
    Shows state.canvas state.loop.width state.loop.height prevBuf

section Iteration

/-- A pasted rectangle completes a canvas that had all pixels outside it. -/
theorem paste_shows {canvas : Canvas} {frame : Frame} {box : Box} (seq : Nat)
    (width : canvas.width = frame.rawWidth) (height : canvas.height = frame.rawHeight)
    (outside : ∀ y, y < frame.rawHeight → ∀ x, x < frame.rawWidth → ¬Inside box x y →
      canvas.pixel x y = pixelAt frame.data frame.rawWidth x y) :
    Shows (receive canvas (.decodeImage (compressed frame box seq))) frame.rawWidth
      frame.rawHeight frame.data := by
  constructor
  · exact width
  · exact height
  · intro y inFrame x inRow
    simp only [receive]
    by_cases covered : pasted (compressed frame box seq) x y
    · rw [if_pos covered]
      rcases covered with ⟨left, -, top, -⟩
      simp only [compressed] at left top ⊢
      rw [Nat.add_sub_cancel' left, Nat.add_sub_cancel' top]
    · rw [if_neg covered]
      apply outside y inFrame x inRow
      rintro ⟨-, left, right, top, bottom⟩
      apply covered
      simp only [pasted, compressed]
      omega

def initialized (state : Feed) (frame : Frame) : Canvas :=
  (if resized state.loop frame then [ImageMsg.initImage frame.rawWidth frame.rawHeight]
    else []).foldl receive state.canvas

variable {state : Feed} {frame : Frame}

theorem resized_false {loop : CompressLoop} (same : resized loop frame = false) :
    frame.rawWidth = loop.width ∧ frame.rawHeight = loop.height := by
  simpa [resized] using same

theorem initialized_size (follows : Follows state) (frame : Frame) :
    (initialized state frame).width = frame.rawWidth ∧
      (initialized state frame).height = frame.rawHeight := by
  unfold initialized
  cases changed : resized state.loop frame with
  | true => exact ⟨rfl, rfl⟩
  | false =>
      rcases resized_false changed with ⟨width, height⟩
      exact ⟨follows.sameWidth.trans width.symm, follows.sameHeight.trans height.symm⟩

theorem compared_some {prevBuf : ByteString} (kept : compared state.loop frame = some prevBuf) :
    resized state.loop frame = false ∧ state.loop.prevBuf = some prevBuf := by
  unfold compared at kept
  cases changed : resized state.loop frame with
  | true =>
      rw [changed, if_pos rfl] at kept
      cases kept
  | false =>
      rw [changed] at kept
      cases full : state.loop.fullFlag with
      | true => simp [full] at kept
      | false => exact ⟨rfl, by simpa [full] using kept⟩

theorem iterates_canvas (state : Feed) (frame : Frame) (compresses : Bool) :
    (feed state (.iterates frame compresses)).canvas =
      if (rectangle state.loop frame).touched && compresses then
        receive (initialized state frame)
          (.decodeImage (compressed frame (rectangle state.loop frame) state.loop.seq))
      else initialized state frame := by
  cases touched : (rectangle state.loop frame).touched with
  | false => simp [feed, iterate, touched, initialized]
  | true =>
      cases compresses with
      | false => simp [feed, iterate, touched, initialized]
      | true => simp [feed, iterate, touched, initialized, List.foldl_append]

theorem iterates_failed (state : Feed) (frame : Frame) (compresses : Bool) :
    (iterate state.loop frame compresses).failed =
      ((rectangle state.loop frame).touched && !compresses) := by
  cases touched : (rectangle state.loop frame).touched with
  | false => simp [iterate, touched]
  | true =>
      cases compresses with
      | false => simp [iterate, touched]
      | true => simp [iterate, touched]

theorem iterates_loop (loop : CompressLoop) (frame : Frame) (compresses : Bool) :
    (iterate loop frame compresses).loop.width = frame.rawWidth ∧
      (iterate loop frame compresses).loop.height = frame.rawHeight ∧
      (iterate loop frame compresses).loop.prevBuf = some frame.data := by
  cases touched : (rectangle loop frame).touched with
  | false => simp [iterate, touched]
  | true =>
      cases compresses with
      | false => simp [iterate, touched]
      | true => simp [iterate, touched]

theorem whole_shows (follows : Follows state) (unmatched : compared state.loop frame = none)
    {compresses : Bool} (sent : (iterate state.loop frame compresses).failed = false) :
    Shows (feed state (.iterates frame compresses)).canvas frame.rawWidth frame.rawHeight
      frame.data := by
  rcases initialized_size follows frame with ⟨width, height⟩
  have box : rectangle state.loop frame = whole frame.rawWidth frame.rawHeight := by
    rw [rectangle, unmatched]
  rw [iterates_failed, box] at sent
  have compressed : compresses = true := by simpa [whole] using sent
  rw [iterates_canvas, box, compressed, if_pos (by rfl)]
  apply paste_shows _ width height
  intro y inFrame x inRow outside
  exact absurd ⟨rfl, Nat.zero_le x, inRow, Nat.zero_le y, inFrame⟩ outside

/-- A frame that is compared with what the client has is completed by the
rectangle of the scan. -/
theorem compared_shows {prevBuf : ByteString} (follows : Follows state)
    (kept : compared state.loop frame = some prevBuf) (delivered : state.unsent = false)
    {compresses : Bool} (covering : Covering state (.iterates frame compresses))
    (sent : (iterate state.loop frame compresses).failed = false) :
    Shows (feed state (.iterates frame compresses)).canvas frame.rawWidth frame.rawHeight
      frame.data := by
  rcases initialized_size follows frame with ⟨width, height⟩
  rcases compared_some kept with ⟨same, held⟩
  rcases resized_false same with ⟨loopWidth, loopHeight⟩
  have shown := follows.shown prevBuf held delivered
  have box : rectangle state.loop frame =
      scan prevBuf frame.data frame.rawWidth frame.rawHeight := by
    rw [rectangle, kept]
  have canvas : initialized state frame = state.canvas := by
    rw [initialized, same]
    rfl
  have outside : ∀ y, y < frame.rawHeight → ∀ x, x < frame.rawWidth →
      ¬Inside (scan prevBuf frame.data frame.rawWidth frame.rawHeight) x y →
        (initialized state frame).pixel x y = pixelAt frame.data frame.rawWidth x y := by
    intro y inFrame x inRow notInside
    have unchanged : pixelAt prevBuf frame.rawWidth x y =
        pixelAt frame.data frame.rawWidth x y := by
      by_contra changed
      exact notInside (covering prevBuf kept y inFrame x inRow changed)
    rw [canvas, shown.pixels y (loopHeight ▸ inFrame) x (loopWidth ▸ inRow), ← loopWidth]
    exact unchanged
  rw [iterates_failed, box] at sent
  rw [iterates_canvas, box]
  cases touched : (scan prevBuf frame.data frame.rawWidth frame.rawHeight).touched with
  | false =>
      refine ⟨width, height, ?_⟩
      intro y inFrame x inRow
      apply outside y inFrame x inRow
      rintro ⟨wasTouched, -⟩
      rw [touched] at wasTouched
      cases wasTouched
  | true =>
      rw [touched] at sent
      have compressed : compresses = true := by simpa using sent
      rw [compressed, if_pos (by rfl)]
      exact paste_shows _ width height outside

end Iteration

theorem iterates_holds {state : Feed} {event : FeedEvent} (follows : Follows state)
    (covering : Covering state event) (meets : FullAfterFailure state event) :
    ClientHolds state event := by
  cases event with
  | sendsFull => trivial
  | iterates frame compresses =>
      intro sent
      cases kept : compared state.loop frame with
      | none => exact whole_shows follows kept sent
      | some prevBuf =>
          cases behind : state.unsent with
          | false => exact compared_shows follows kept behind covering sent
          | true =>
              rcases meets behind with unmatched | failed
              · rw [kept] at unmatched
                cases unmatched
              · rw [sent] at failed
                cases failed

theorem feed_follows {state : Feed} {event : FeedEvent} (follows : Follows state)
    (holds : ClientHolds state event) : Follows (feed state event) := by
  cases event with
  | sendsFull => exact ⟨follows.sameWidth, follows.sameHeight, follows.shown⟩
  | iterates frame compresses =>
      rcases initialized_size follows frame with ⟨width, height⟩
      rcases iterates_loop state.loop frame compresses with ⟨loopWidth, loopHeight, prevBufEq⟩
      have canvas := iterates_canvas state frame compresses
      constructor
      · rw [canvas]
        simp only [feed, loopWidth]
        split_ifs <;> exact width
      · rw [canvas]
        simp only [feed, loopHeight]
        split_ifs <;> exact height
      · intro prevBuf same delivered
        simp only [feed, prevBufEq, Option.some.injEq] at same
        simp only [feed] at delivered
        have shown := holds delivered
        simp only [feed, loopWidth, loopHeight] at shown ⊢
        rw [← same]
        exact shown

theorem start_follows (canvas : Canvas) (width height : Nat) (fullFlag : Bool) :
    Follows (startFeed canvas width height fullFlag) := by
  constructor
  · rfl
  · rfl
  · intro prevBuf same
    cases same

/-- In every run whose scans cover what changed and in which each failed
compression is made up for by a whole frame, the client holds the captured frame
after each iteration whose compression did not fail. -/
theorem client_holds_captured_frame (canvas : Canvas) (width height : Nat) (fullFlag : Bool)
    (events : List FeedEvent)
    (covering : Along step Covering (startFeed canvas width height fullFlag) events)
    (meets : Along step FullAfterFailure (startFeed canvas width height fullFlag) events) :
    Along step ClientHolds (startFeed canvas width height fullFlag) events := by
  apply along_of_invariant Follows _ _ (start_follows canvas width height fullFlag)
    (along_and covering meets)
  · intro state event follows allowed
    exact iterates_holds follows allowed.1 allowed.2
  · intro state event following follows allowed stepped
    rw [← Option.some.inj stepped]
    exact feed_follows follows (iterates_holds follows allowed.1 allowed.2)

def sampleFrame (red : UInt8) : Frame where
  rawWidth := 2
  rawHeight := 1
  data := [red, 0, 0, 0, 0, 0]
  sized := rfl

def sampleFeed : Feed := startFeed (blank 0 0) 2 1 false

theorem sample_scan_covers {feed : Feed} {red : UInt8} {changed : UInt8} {compresses : Bool}
    (kept : compared feed.loop (sampleFrame changed) = some (sampleFrame red).data)
    (covers : ∀ y, y < 1 → ∀ x, x < 2 →
      pixelAt (sampleFrame red).data 2 x y ≠ pixelAt (sampleFrame changed).data 2 x y →
        Inside (scan (sampleFrame red).data (sampleFrame changed).data 2 1) x y) :
    Covering feed (.iterates (sampleFrame changed) compresses) := by
  intro prevBuf same
  rw [kept] at same
  rw [← Option.some.inj same]
  exact covers

theorem sample_sent_whole {feed : Feed} {red : UInt8} {compresses : Bool}
    (unmatched : compared feed.loop (sampleFrame red) = none) :
    Covering feed (.iterates (sampleFrame red) compresses) := by
  intro prevBuf same
  rw [unmatched] at same
  cases same

theorem client_holds_captured_frame_sample :
    Along step ClientHolds sampleFeed
      [.iterates (sampleFrame 1) true, .iterates (sampleFrame 2) false, .sendsFull,
        .iterates (sampleFrame 3) true] := by
  apply client_holds_captured_frame (blank 0 0) 2 1 false
  · apply along_cons rfl (sample_sent_whole rfl)
    apply along_cons rfl (sample_scan_covers rfl (by decide))
    apply along_cons rfl trivial
    exact along_cons rfl (sample_sent_whole rfl) trivial
  · apply along_cons rfl (fun behind => absurd behind (by decide))
    apply along_cons rfl (fun behind => absurd behind (by decide))
    apply along_cons rfl trivial
    exact along_cons rfl (fun _ => .inl rfl) trivial

def lostUpdate : List FeedEvent :=
  [.iterates (sampleFrame 1) true, .iterates (sampleFrame 2) false,
    .iterates (sampleFrame 2) true]

/-- The update to the second frame fails, and when the same frame is captured
again there is nothing to send, so the client still has the first one. -/
theorem lost_update_never_sent :
    Along step Covering sampleFeed lostUpdate ∧
      (lostUpdate.foldl feed sampleFeed).canvas.pixel 0 0 = [1, 0, 0] ∧
      (lostUpdate.foldl feed sampleFeed).unsent = false ∧
      ¬Along step ClientHolds sampleFeed lostUpdate := by
  refine ⟨?_, rfl, rfl, ?_⟩
  · apply along_cons rfl (sample_sent_whole rfl)
    apply along_cons rfl (sample_scan_covers rfl (by decide))
    exact along_cons rfl (sample_scan_covers rfl (by decide)) trivial
  · intro holds
    have last := ((holds.2 _ rfl).2 _ rfl).1 rfl
    have pixel := last.pixels 0 (by decide) 0 (by decide)
    exact absurd pixel (by decide)

end Collabo.JpegCompressor
