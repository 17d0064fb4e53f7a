import Collabo.JpegScan
import Collabo.Library.Blocks
import Collabo.Library.PartialRuns
import Collabo.MediaStream
import Mathlib.Data.List.DropRight
import Mathlib.Data.List.Infix

/-!
# The frames that the host captures

The host keeps one line of pixels, `linebuf`, into which each row of the screen is
drawn and from which it is copied into the frame. A request makes a new line when
the screen has another size than at the request before. The start of streaming
makes one for the width that the screen has then, and leaves that size as it is:
its own `width` and `height` hide the globals. The images are those of pixman.
-/

namespace Collabo.HostCapture

open Blocks PartialRuns Collabo.CString Collabo.JpegScan Collabo.MediaStream

set_option autoImplicit false

structure DisplaySurface where
  width : Nat
  height : Nat
  pixel : Nat → Nat → ByteString
  three : ∀ x y, (pixel x y).length = 3

/-- The functions of QEMU and pixman on an image of one row. `linebufFill` draws a row
of the screen, of the width and the `y` that it is given. -/
structure Pixman (Image : Type) where
  linebufCreate : Nat → Image
  linebufFill : Image → DisplaySurface → Nat → Nat → Image
  getWidth : Image → Nat
  getData : Image → ByteString

/-- The bytes of a row of 24-bit pixels, which ends at a multiple of 32 bits. -/
def rowBytes (width : Nat) : Nat := 4 * ((3 * width + 3) / 4)

/-- What the host relies on: an image keeps the width that it is made with, has a row of
that width, and what is drawn is cut at it. -/
structure Pixman.Documented {Image : Type} (pixman : Pixman Image) : Prop where
  createdWidth : ∀ width, pixman.getWidth (pixman.linebufCreate width) = width
  filledWidth : ∀ image surface width y,
    pixman.getWidth (pixman.linebufFill image surface width y) = pixman.getWidth image
  padded : ∀ image, (pixman.getData image).length = rowBytes (pixman.getWidth image)
  drawn : ∀ image (surface : DisplaySurface) width x y, x < width → x < surface.width →
    y < surface.height → x < pixman.getWidth image →
    ((pixman.getData (pixman.linebufFill image surface width y)).drop (x * 3)).take 3 =
      surface.pixel x y

structure Host (Image : Type) where
  surface : DisplaySurface
  width : Nat
  height : Nat
  linebuf : Option Image
  clbCtx : ClbContext

def collaboThreadFunc {Image : Type} (surface : DisplaySurface) : Host Image where
  surface := surface
  width := surface.width
  height := surface.height
  linebuf := none
  clbCtx :=
    { isVideoEnabled := false
      isAudioEnabled := true
      width := 0
      height := 0
      samplerate := 48000
      channels := 1
      isSilent := true }

section Host

variable {Image : Type} (pixman : Pixman Image)

def qemuVideoInit (host : Host Image) : Host Image :=
  { host with
    linebuf := some (pixman.linebufCreate host.surface.width)
    clbCtx := { host.clbCtx with
      isVideoEnabled := true, width := host.surface.width, height := host.surface.height } }

/-- `memcpy` of three bytes for each pixel, or `none` where it reads behind the row. -/
def copyLine (linebuf : Image) (width : Nat) : Option ByteString :=
  if width * 3 ≤ (pixman.getData linebuf).length then
    some ((pixman.getData linebuf).take (width * 3))
  else none

def copyRows (surface : DisplaySurface) (width : Nat) :
    List Nat → Image → ByteString → Option (Image × ByteString)
  | [], linebuf, curFrame => some (linebuf, curFrame)
  | y :: rest, linebuf, curFrame =>
      let filled := pixman.linebufFill linebuf surface width y
      match copyLine pixman filled width with
      | none => none
      | some line => copyRows surface width rest filled (curFrame ++ line)

def requestVideoCallback (host : Host Image) :
    Option ((Nat × Nat × ByteString) × Host Image) :=
  let fitted :=
    if host.surface.width ≠ host.width ∨ host.surface.height ≠ host.height then
      { host with
        width := host.surface.width
        height := host.surface.height
        linebuf := some (pixman.linebufCreate host.surface.width) }
    else host
  match fitted.linebuf with
  | none => none
  | some linebuf =>
      match copyRows pixman fitted.surface fitted.width (List.range fitted.height) linebuf [] with
      | none => none
      | some (drawn, curFrame) =>
          some ((fitted.width, fitted.height, curFrame), { fitted with linebuf := some drawn })

end Host

inductive HostEvent where
  | shows (surface : DisplaySurface)
  | starts
  | requests

def step {Image : Type} (pixman : Pixman Image) (host : Host Image) :
    HostEvent → Option (Host Image)
  | .shows surface => some { host with surface := surface }
  | .starts => some (qemuVideoInit pixman host)
  | .requests => (requestVideoCallback pixman host).map Prod.snd

def HostEvent.isRequest : HostEvent → Bool
  | .shows _ => false
  | .starts => false
  | .requests => true

def screen (first : DisplaySurface) (events : List HostEvent) : DisplaySurface :=
  events.foldl
    (fun surface event =>
      match event with
      | .shows shown => shown
      | .starts => surface
      | .requests => surface)
    first

/-- The screen at the last request, or at the beginning. -/
def requestedScreen (first : DisplaySurface) (events : List HostEvent) : DisplaySurface :=
  screen first (events.rdropWhile fun event => !event.isRequest)

def SameSize (left right : DisplaySurface) : Prop :=
  left.width = right.width ∧ left.height = right.height

instance (left right : DisplaySurface) : Decidable (SameSize left right) :=
  inferInstanceAs (Decidable (_ ∧ _))

/-- The last of the events is a start, or a request that finds another size than the one
before. -/
def makesLine (first : DisplaySurface) (events : List HostEvent) : Bool :=
  match events.getLast? with
  | none => false
  | some (.shows _) => false
  | some .starts => true
  | some .requests => ¬SameSize (screen first events) (requestedScreen first events.dropLast)

def lineScreen (first : DisplaySurface) (events : List HostEvent) : Option DisplaySurface :=
  (events.inits.filter (makesLine first)).getLast?.map (screen first)

/-- The frame has the size of the screen, and its pixels as far as the line is wide. -/
structure Captures (surface : DisplaySurface) (lineWidth : Nat) (frame : Frame) : Prop where
  width : frame.rawWidth = surface.width
  height : frame.rawHeight = surface.height
  pixels : ∀ x y, x < surface.width → x < lineWidth → y < surface.height →
    pixelAt frame.data surface.width x y = surface.pixel x y

section Copying

variable {Image : Type} {pixman : Pixman Image} {surface : DisplaySurface} {width : Nat}

def drawnRows (pixman : Pixman Image) (surface : DisplaySurface) (width : Nat) (linebuf : Image) :
    Nat → Image
  | 0 => linebuf
  | count + 1 =>
      pixman.linebufFill (drawnRows pixman surface width linebuf count) surface width count

theorem drawn_rows_width (documented : pixman.Documented) (linebuf : Image) (count : Nat) :
    pixman.getWidth (drawnRows pixman surface width linebuf count) = pixman.getWidth linebuf := by
  induction count with
  | zero => rfl
  | succ count induction => rw [drawnRows, documented.filledWidth, induction]

def copiedRow (pixman : Pixman Image) (surface : DisplaySurface) (width : Nat) (linebuf : Image)
    (y : Nat) : ByteString :=
  (pixman.getData (drawnRows pixman surface width linebuf (y + 1))).take (width * 3)

theorem copied_row_length (documented : pixman.Documented) {linebuf : Image}
    (fits : width * 3 ≤ rowBytes (pixman.getWidth linebuf)) (y : Nat) :
    (copiedRow pixman surface width linebuf y).length = width * 3 := by
  unfold copiedRow
  rw [List.length_take, documented.padded, drawn_rows_width documented]
  omega

theorem copy_rows_append (rows more : List Nat) (linebuf : Image) (curFrame : ByteString) :
    copyRows pixman surface width (rows ++ more) linebuf curFrame =
      (copyRows pixman surface width rows linebuf curFrame).bind fun copied =>
        copyRows pixman surface width more copied.1 copied.2 := by
  induction rows generalizing linebuf curFrame with
  | nil => rfl
  | cons y rest induction =>
      simp only [List.cons_append, copyRows]
      cases copyLine pixman (pixman.linebufFill linebuf surface width y) width with
      | none => rfl
      | some line => exact induction _ _

theorem copy_rows_fits (documented : pixman.Documented) {linebuf : Image}
    (fits : width * 3 ≤ rowBytes (pixman.getWidth linebuf)) (count : Nat) :
    copyRows pixman surface width (List.range count) linebuf [] =
      some (drawnRows pixman surface width linebuf count,
        (List.range count).flatMap (copiedRow pixman surface width linebuf)) := by
  induction count with
  | zero => rfl
  | succ count induction =>
      have within : width * 3 ≤
          (pixman.getData (drawnRows pixman surface width linebuf (count + 1))).length := by
        rw [documented.padded, drawn_rows_width documented]
        exact fits
      have line : copyLine pixman (drawnRows pixman surface width linebuf (count + 1)) width =
          some (copiedRow pixman surface width linebuf count) := if_pos within
      rw [List.range_succ, copy_rows_append, induction, Option.bind_some, copyRows]
      change (match copyLine pixman (drawnRows pixman surface width linebuf (count + 1)) width with
        | none => none
        | some line => _) = _
      rw [line, List.flatMap_append, List.flatMap_singleton]
      rfl

theorem copy_rows_overreads (documented : pixman.Documented) {linebuf : Image}
    (narrow : rowBytes (pixman.getWidth linebuf) < width * 3) {count : Nat} (rows : 0 < count) :
    copyRows pixman surface width (List.range count) linebuf [] = none := by
  obtain ⟨later, rfl⟩ := Nat.exists_eq_add_of_lt rows
  have behind : copyLine pixman (pixman.linebufFill linebuf surface width 0) width = none := by
    unfold copyLine
    rw [documented.padded, documented.filledWidth, if_neg (Nat.not_le_of_lt narrow)]
  rw [Nat.zero_add, List.range_succ_eq_map, copyRows]
  simp only [behind]

theorem copied_row_pixel (documented : pixman.Documented) {linebuf : Image} {x y : Nat}
    (inRow : x < width) (inScreen : x < surface.width) (inColumn : y < surface.height)
    (inLine : x < pixman.getWidth linebuf) :
    ((copiedRow pixman surface width linebuf y).drop (x * 3)).take 3 = surface.pixel x y := by
  have here : x < pixman.getWidth (drawnRows pixman surface width linebuf y) := by
    rw [drawn_rows_width documented]
    exact inLine
  unfold copiedRow
  rw [List.drop_take, List.take_take, Nat.min_eq_left (by omega)]
  exact documented.drawn _ surface width x y inRow inScreen inColumn here

def capturedFrame (documented : pixman.Documented) (surface : DisplaySurface) (linebuf : Image)
    (fits : surface.width * 3 ≤ rowBytes (pixman.getWidth linebuf)) : Frame where
  rawWidth := surface.width
  rawHeight := surface.height
  data :=
    (List.range surface.height).flatMap (copiedRow pixman surface surface.width linebuf)
  sized := by
    rw [blocks_length (copied_row_length documented fits), Nat.mul_comm,
      Nat.mul_comm surface.width 3]

theorem captured_frame_captures (documented : pixman.Documented) {linebuf : Image}
    (fits : surface.width * 3 ≤ rowBytes (pixman.getWidth linebuf)) :
    Captures surface (pixman.getWidth linebuf)
      (capturedFrame documented surface linebuf fits) := by
  refine ⟨rfl, rfl, ?_⟩
  intro x y inRow inLine inColumn
  have line : (((capturedFrame documented surface linebuf fits).data.drop
      (y * (surface.width * 3))).take (surface.width * 3)) =
        copiedRow pixman surface surface.width linebuf y :=
    block_at (copied_row_length documented fits) inColumn
  have within : x * 3 + 3 ≤ surface.width * 3 := by omega
  unfold pixelAt offset
  rw [Nat.mul_assoc, take_drop_within within, line]
  exact copied_row_pixel documented inRow inRow inColumn inLine

end Copying

section Requests

variable {Image : Type} {pixman : Pixman Image} {host following : Host Image} {line : Image}

def Resized (host : Host Image) : Prop :=
  host.surface.width ≠ host.width ∨ host.surface.height ≠ host.height

instance (host : Host Image) : Decidable (Resized host) := inferInstanceAs (Decidable (_ ∨ _))

theorem unresized_size (same : ¬Resized host) :
    host.surface.width = host.width ∧ host.surface.height = host.height := by
  obtain ⟨width, height⟩ := not_or.mp same
  exact ⟨not_not.mp width, not_not.mp height⟩

def lineFor (pixman : Pixman Image) (host : Host Image) : Option Image :=
  if Resized host then some (pixman.linebufCreate host.surface.width) else host.linebuf

def asked (host : Host Image) (drawn : Image) : Host Image :=
  { host with
    width := host.surface.width
    height := host.surface.height
    linebuf := some drawn }

theorem request_eq (drawsOn : lineFor pixman host = some line) :
    requestVideoCallback pixman host =
      (copyRows pixman host.surface host.surface.width (List.range host.surface.height) line
        []).map fun copied => ((host.surface.width, host.surface.height, copied.2),
          asked host copied.1) := by
  unfold lineFor at drawsOn
  unfold requestVideoCallback
  by_cases resized : Resized host
  · rw [if_pos resized] at drawsOn
    cases drawsOn
    simp only [if_pos (show _ ∨ _ from resized)]
    cases copyRows pixman host.surface host.surface.width (List.range host.surface.height)
      (pixman.linebufCreate host.surface.width) [] with
    | none => rfl
    | some copied => rfl
  · rw [if_neg resized] at drawsOn
    obtain ⟨width, height⟩ := unresized_size resized
    simp only [if_neg (show ¬(_ ∨ _) from resized)]
    simp only [drawsOn, asked, width, height]
    cases copyRows pixman host.surface host.width (List.range host.height) line [] with
    | none => rfl
    | some copied => rfl

theorem request_none (drawsOn : lineFor pixman host = none) :
    requestVideoCallback pixman host = none := by
  unfold lineFor at drawsOn
  unfold requestVideoCallback
  by_cases resized : Resized host
  · rw [if_pos resized] at drawsOn
    cases drawsOn
  · rw [if_neg resized] at drawsOn
    simp only [if_neg (show ¬(_ ∨ _) from resized), drawsOn]

/-- Nothing behind the row is read, as it is long enough or no row is drawn. -/
def RowFits (surface : DisplaySurface) (lineWidth : Nat) : Prop :=
  surface.width * 3 ≤ rowBytes lineWidth ∨ surface.height = 0

theorem request_fits (documented : pixman.Documented) (drawsOn : lineFor pixman host = some line)
    (fits : RowFits host.surface (pixman.getWidth line)) :
    ∃ frame drawn, pixman.getWidth drawn = pixman.getWidth line ∧
      Captures host.surface (pixman.getWidth line) frame ∧
      requestVideoCallback pixman host =
        some ((frame.rawWidth, frame.rawHeight, frame.data), asked host drawn) := by
  rw [request_eq drawsOn]
  rcases fits with wide | none
  · refine ⟨capturedFrame documented host.surface line wide,
      drawnRows pixman host.surface host.surface.width line host.surface.height,
      drawn_rows_width documented line _, captured_frame_captures documented wide, ?_⟩
    rw [copy_rows_fits documented wide]
    rfl
  · refine ⟨⟨host.surface.width, host.surface.height, [], by simp [none]⟩, line, rfl,
      ⟨rfl, rfl, ?_⟩, ?_⟩
    · intro x y _ _ inColumn
      rw [none] at inColumn
      exact absurd inColumn (Nat.not_lt_zero y)
    · have copied : copyRows pixman host.surface host.surface.width
          (List.range host.surface.height) line [] = some (line, []) := by
        rw [none]
        rfl
      rw [copied]
      rfl

theorem request_overreads (documented : pixman.Documented)
    (drawsOn : lineFor pixman host = some line)
    (overreads : ¬RowFits host.surface (pixman.getWidth line)) :
    requestVideoCallback pixman host = none := by
  obtain ⟨narrow, rows⟩ := not_or.mp overreads
  rw [request_eq drawsOn,
    copy_rows_overreads documented (Nat.lt_of_not_le narrow) (Nat.pos_of_ne_zero rows)]
  rfl

theorem request_returned (documented : pixman.Documented) {reported : Nat × Nat × ByteString}
    (answer : requestVideoCallback pixman host = some (reported, following)) :
    ∃ line drawn frame, lineFor pixman host = some line ∧
      pixman.getWidth drawn = pixman.getWidth line ∧
      Captures host.surface (pixman.getWidth line) frame ∧
      reported = (frame.rawWidth, frame.rawHeight, frame.data) ∧ following = asked host drawn := by
  cases drawsOn : lineFor pixman host with
  | none =>
      rw [request_none drawsOn] at answer
      cases answer
  | some line =>
      by_cases fits : RowFits host.surface (pixman.getWidth line)
      · obtain ⟨frame, drawn, width, captures, returned⟩ := request_fits documented drawsOn fits
        rw [returned] at answer
        cases answer
        exact ⟨line, drawn, frame, rfl, width, captures, rfl, rfl⟩
      · rw [request_overreads documented drawsOn fits] at answer
        cases answer

end Requests

section Runs

variable {Image : Type} {pixman : Pixman Image} {first made : DisplaySurface}
  {events : List HostEvent} {host following : Host Image} {event : HostEvent}

theorem line_screen_append (first : DisplaySurface) (events : List HostEvent)
    (event : HostEvent) :
    lineScreen first (events ++ [event]) =
      if makesLine first (events ++ [event]) then some (screen first (events ++ [event]))
      else lineScreen first events := by
  unfold lineScreen
  rw [List.inits_append, List.filter_append]
  by_cases makes : makesLine first (events ++ [event]) = true
  · simp [makes]
  · simp [makes]

theorem requested_same (other : event.isRequest = false) :
    requestedScreen first (events ++ [event]) = requestedScreen first events := by
  unfold requestedScreen
  rw [List.rdropWhile_concat_pos _ _ _ (by simp [other])]

theorem requested_now (isRequest : event.isRequest = true) :
    requestedScreen first (events ++ [event]) = screen first (events ++ [event]) := by
  unfold requestedScreen
  rw [List.rdropWhile_concat_neg _ _ _ (by simp [isRequest])]

structure Recorded (pixman : Pixman Image) (first : DisplaySurface) (events : List HostEvent)
    (host : Host Image) : Prop where
  surface : host.surface = screen first events
  width : host.width = (requestedScreen first events).width
  height : host.height = (requestedScreen first events).height
  line : ∀ made, lineScreen first events = some made →
    ∃ line, host.linebuf = some line ∧ pixman.getWidth line = made.width

theorem line_for_made (documented : pixman.Documented)
    (recorded : Recorded pixman first events host)
    (line : lineScreen first (events ++ [.requests]) = some made) :
    ∃ image, lineFor pixman host = some image ∧ pixman.getWidth image = made.width := by
  have same : screen first (events ++ [.requests]) = screen first events := by simp [screen]
  have makes : makesLine first (events ++ [.requests]) = true ↔ Resized host := by
    unfold Resized
    simp only [makesLine, List.getLast?_concat, List.dropLast_concat, decide_eq_true_eq, SameSize,
      same, recorded.surface, recorded.width, recorded.height]
    exact Classical.not_and_iff_not_or_not
  rw [line_screen_append] at line
  unfold lineFor
  by_cases resized : Resized host
  · rw [if_pos (makes.mpr resized)] at line
    rw [if_pos resized, ← Option.some.inj line, same, recorded.surface]
    exact ⟨_, rfl, documented.createdWidth _⟩
  · rw [if_neg (mt makes.mp resized)] at line
    rw [if_neg resized]
    exact recorded.line made line

theorem step_recorded (documented : pixman.Documented)
    (recorded : Recorded pixman first events host)
    (stepped : step pixman host event = some following) :
    Recorded pixman first (events ++ [event]) following := by
  cases event with
  | shows surface =>
      cases stepped
      have makes : makesLine first (events ++ [.shows surface]) = false := by simp [makesLine]
      constructor
      · simp [screen]
      · rw [requested_same rfl]
        exact recorded.width
      · rw [requested_same rfl]
        exact recorded.height
      · intro made line
        rw [line_screen_append, makes] at line
        exact recorded.line made line
  | starts =>
      cases stepped
      have makes : makesLine first (events ++ [.starts]) = true := by simp [makesLine]
      have same : screen first (events ++ [.starts]) = screen first events := by simp [screen]
      constructor
      · rw [same]
        exact recorded.surface
      · rw [requested_same rfl]
        exact recorded.width
      · rw [requested_same rfl]
        exact recorded.height
      · intro made line
        rw [line_screen_append, if_pos makes, same] at line
        refine ⟨_, rfl, ?_⟩
        rw [documented.createdWidth, ← Option.some.inj line, recorded.surface]
  | requests =>
      obtain ⟨⟨reported, left⟩, answer, rest⟩ := Option.map_eq_some_iff.mp stepped
      cases rest
      obtain ⟨image, drawn, _, drawsOn, width, _, _, after⟩ := request_returned documented answer
      have same : screen first (events ++ [.requests]) = screen first events := by simp [screen]
      rw [after]
      constructor
      · rw [same]
        exact recorded.surface
      · rw [requested_now rfl, same, ← recorded.surface]
        rfl
      · rw [requested_now rfl, same, ← recorded.surface]
        rfl
      · intro made line
        obtain ⟨other, sameLine, madeWidth⟩ := line_for_made documented recorded line
        rw [Option.some.inj (drawsOn.symm.trans sameLine)] at width
        exact ⟨drawn, rfl, width.trans madeWidth⟩

theorem run_recorded (documented : pixman.Documented)
    (ran : events.foldlM (step pixman) (collaboThreadFunc first) = some host) :
    Recorded pixman first events host := by
  induction events using List.reverseRecOn generalizing host with
  | nil =>
      cases ran
      exact ⟨rfl, rfl, rfl, nofun⟩
  | append_singleton earlier event induction =>
      rw [List.foldlM_append] at ran
      obtain ⟨before, reached, stepped⟩ := Option.bind_eq_some_iff.mp ran
      rw [List.foldlM_cons] at stepped
      obtain ⟨after, last, same⟩ := Option.bind_eq_some_iff.mp stepped
      cases same
      exact step_recorded documented (induction reached) last

end Runs

/-- In every run, a request reads behind the line just when the row of the line, which was
made at the last start or the last change of size that a request found, is shorter than
the copy. Every other request returns the screen as far as the line is wide. -/
theorem captured_iff {Image : Type} {pixman : Pixman Image} (documented : pixman.Documented)
    {first made : DisplaySurface} {events : List HostEvent} {host : Host Image}
    (ran : events.foldlM (step pixman) (collaboThreadFunc first) = some host)
    (line : lineScreen first (events ++ [.requests]) = some made) :
    (requestVideoCallback pixman host = none ↔
        rowBytes made.width < (screen first events).width * 3 ∧
          0 < (screen first events).height) ∧
      ∀ reported following, requestVideoCallback pixman host = some (reported, following) →
        ∃ frame, Captures (screen first events) made.width frame ∧
          reported = (frame.rawWidth, frame.rawHeight, frame.data) := by
  have recorded := run_recorded documented ran
  obtain ⟨image, drawsOn, width⟩ := line_for_made documented recorded line
  have fits_iff : RowFits host.surface (pixman.getWidth image) ↔
      ¬(rowBytes made.width < (screen first events).width * 3 ∧
        0 < (screen first events).height) := by
    unfold RowFits
    rw [width, recorded.surface]
    omega
  constructor
  · by_cases fits : RowFits host.surface (pixman.getWidth image)
    · obtain ⟨_, _, _, _, answer⟩ := request_fits documented drawsOn fits
      rw [answer]
      exact iff_of_false nofun (fits_iff.mp fits)
    · refine iff_of_true (request_overreads documented drawsOn fits) ?_
      by_contra wide
      exact fits (fits_iff.mpr wide)
  · intro reported following returned
    obtain ⟨other, _, frame, sameLine, _, captures, isReported, _⟩ :=
      request_returned documented returned
    rw [← Option.some.inj (drawsOn.symm.trans sameLine), width, recorded.surface] at captures
    exact ⟨frame, captures, isReported⟩

/-- An image of one row, with what fills it up. -/
structure PaddedRow where
  width : Nat
  data : ByteString
  padded : data.length = rowBytes width

def paddedRows : Pixman PaddedRow where
  linebufCreate width := ⟨width, List.replicate (rowBytes width) 0, List.length_replicate⟩
  linebufFill row surface width y :=
    { width := row.width
      data := ((List.range (min width row.width)).flatMap fun x => surface.pixel x y) ++
        row.data.drop (min width row.width * 3)
      padded := by
        rw [List.length_append, blocks_length fun x => surface.three x y, List.length_drop,
          row.padded]
        unfold rowBytes
        omega }
  getWidth := PaddedRow.width
  getData := PaddedRow.data

theorem padded_rows_documented : paddedRows.Documented where
  createdWidth _ := rfl
  filledWidth _ _ _ _ := rfl
  padded := PaddedRow.padded
  drawn row surface width x y inRow _ _ inLine := by
    have within : x < min width row.width := Nat.lt_min.mpr ⟨inRow, inLine⟩
    have length : ((List.range (min width row.width)).flatMap fun column =>
        surface.pixel column y).length = min width row.width * 3 :=
      blocks_length (fun column => surface.three column y) _
    change List.take 3 (List.drop (x * 3) (_ ++ _)) = _
    rw [List.drop_append_of_le_length (by omega), List.take_append_of_le_length (by
      rw [List.length_drop]
      omega)]
    exact block_at (fun column => surface.three column y) within

def greyScreen (width : Nat) : DisplaySurface where
  width := width
  height := 1
  pixel _ _ := [128, 128, 128]
  three _ _ := rfl

def narrowedMoment : List HostEvent :=
  [.shows (greyScreen 1), .starts, .shows (greyScreen 2)]

theorem narrowed_moment_overreads :
    (requestVideoCallback paddedRows
        (after (step paddedRows) (collaboThreadFunc (greyScreen 2)) narrowedMoment) = none ↔
      rowBytes (greyScreen 1).width < (screen (greyScreen 2) narrowedMoment).width * 3 ∧
        0 < (screen (greyScreen 2) narrowedMoment).height) ∧
      ∀ reported following,
        requestVideoCallback paddedRows
            (after (step paddedRows) (collaboThreadFunc (greyScreen 2)) narrowedMoment) =
          some (reported, following) →
        ∃ frame, Captures (screen (greyScreen 2) narrowedMoment) (greyScreen 1).width frame ∧
          reported = (frame.rawWidth, frame.rawHeight, frame.data) := by
  have ran : narrowedMoment.foldlM (step paddedRows) (collaboThreadFunc (greyScreen 2)) =
      some (after (step paddedRows) (collaboThreadFunc (greyScreen 2)) narrowedMoment) := rfl
  exact captured_iff padded_rows_documented ran rfl

example : requestVideoCallback paddedRows
    (after (step paddedRows) (collaboThreadFunc (greyScreen 2)) narrowedMoment) = none := rfl

end Collabo.HostCapture
