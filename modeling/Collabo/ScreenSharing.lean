import Collabo.FullImageRequests
import Collabo.HostCapture

/-!
# From the screen to a client

The host captures its screen for the loop of the image compressor, whose messages a
client draws. The screen may change between any two statements of the loop. A capture
that reads behind the line of the host is not defined, and the run ends there.
-/

namespace Collabo.ScreenSharing

open PartialRuns Collabo.CString Collabo.JpegScan Collabo.JpegCompressor
  Collabo.FullImageRequests Collabo.HostCapture

set_option autoImplicit false

/-- `shown` is the screen of the last capture and `lineWidth` the width of the line that it
was copied from. The source keeps neither. -/
structure Sharing (Image : Type) where
  host : Host Image
  statements : Statements
  shown : DisplaySurface
  lineWidth : Nat

inductive SharingEvent where
  | shows (surface : DisplaySurface)
  | asks (canvas : Canvas)
  | sendsFull
  | captures
  | tests
  | clears
  | compares (compresses : Bool)

def bufferFrame (reported : Nat × Nat × ByteString) : Option Frame :=
  if sized : reported.2.2.length = 3 * reported.1 * reported.2.1 then
    some
      { rawWidth := reported.1, rawHeight := reported.2.1, data := reported.2.2, sized := sized }
  else none

section Sharing

variable {Image : Type} (pixman : Pixman Image)

def loops (sharing : Sharing Image) (event : StatementEvent) : Option (Sharing Image) :=
  (FullImageRequests.step sharing.statements event).map fun following =>
    { sharing with statements := following }

def capturing (sharing : Sharing Image) (host : Host Image) : Sharing Image :=
  { sharing with
    host := host
    shown := sharing.host.surface
    lineWidth := (host.linebuf.map pixman.getWidth).getD 0 }

def step (sharing : Sharing Image) : SharingEvent → Option (Sharing Image)
  | .shows surface => some { sharing with host := { sharing.host with surface := surface } }
  | .asks canvas => loops sharing (.asks canvas)
  | .sendsFull => loops sharing .sendsFull
  | .captures =>
      (requestVideoCallback pixman sharing.host).bind fun answer =>
        (bufferFrame answer.1).bind fun frame =>
          loops (capturing pixman sharing answer.2) (.captures frame)
  | .tests => loops sharing .tests
  | .clears => loops sharing .clears
  | .compares compresses => loops sharing (.compares compresses)

/-- `qemu_video_init` has started the streams in image mode. -/
def startSharing (host : Host Image) (canvas : Canvas) (fullFlag : Bool) : Sharing Image where
  host := qemuVideoInit pixman host
  statements := started canvas host.surface.width host.surface.height fullFlag
  shown := host.surface
  lineWidth := host.surface.width

/-- Of the screen that was captured after the client asked, the iteration leaves it the
pixels as far as the line is wide, all but the last, unless a compression failed and no
whole frame came since. The canvas has its size where the client had it or was told. -/
def ShowsScreen (sharing : Sharing Image) (event : SharingEvent) : Prop :=
  ∀ compresses following, event = .compares compresses →
    step pixman sharing event = some following →
    following.statements.captured = true → following.statements.behind = false →
      (∀ x y, x < sharing.shown.width → x < sharing.lineWidth → y < sharing.shown.height →
        ¬(y + 1 = sharing.shown.height ∧ x + 1 = sharing.shown.width) →
          following.statements.canvas.pixel x y = sharing.shown.pixel x y) ∧
      (following.statements.canvas.width = sharing.shown.width ∧
          following.statements.canvas.height = sharing.shown.height ↔
        following.statements.sized = true)

end Sharing

section Steps

variable {Image : Type} {pixman : Pixman Image} {sharing following : Sharing Image}

structure Shared (sharing : Sharing Image) : Prop where
  tracked : Tracked sharing.statements
  captures : ∀ frame, frameOf sharing.statements.place = some frame →
    Captures sharing.shown sharing.lineWidth frame

theorem captures_frame {s after : Statements} {frame : Frame}
    (stepped : FullImageRequests.step s (.captures frame) = some after) :
    frameOf after.place = some frame := by
  cases place : s.place <;> simp only [FullImageRequests.step, place] at stepped <;> cases stepped
  rfl

theorem place_frame {s after : Statements} {event : StatementEvent} {frame : Frame}
    (stepped : FullImageRequests.step s event = some after)
    (others : ∀ other, event ≠ .captures other) (held : frameOf after.place = some frame) :
    frameOf s.place = some frame := by
  cases event with
  | asks canvas =>
      cases stepped
      exact held
  | sendsFull =>
      cases stepped
      exact held
  | captures other => exact absurd rfl (others other)
  | tests =>
      cases place : s.place <;> simp only [FullImageRequests.step, place] at stepped <;>
        cases stepped
      unfold test at held
      split_ifs at held
      · exact held
      · exact held
  | clears =>
      cases place : s.place <;> simp only [FullImageRequests.step, place] at stepped <;>
        cases stepped
      exact held
  | compares compresses =>
      cases place : s.place <;> simp only [FullImageRequests.step, place] at stepped <;>
        cases stepped
      obtain ⟨_, _, _, _, sleeps, _⟩ := compare_loop compresses
      rw [sleeps] at held
      cases held

theorem loops_shared {event : StatementEvent} (shared : Shared sharing)
    (stepped : loops sharing event = some following)
    (others : ∀ frame, event ≠ .captures frame) : Shared following := by
  obtain ⟨after, ran, same⟩ := Option.map_eq_some_iff.mp stepped
  rw [← same]
  refine ⟨step_tracked shared.tracked ran, ?_⟩
  intro frame held
  exact shared.captures frame (place_frame ran others held)

theorem buffer_frame_captures (documented : pixman.Documented) {host after : Host Image}
    {reported : Nat × Nat × ByteString} {frame : Frame}
    (answer : requestVideoCallback pixman host = some (reported, after))
    (buffer : bufferFrame reported = some frame) :
    Captures host.surface ((after.linebuf.map pixman.getWidth).getD 0) frame := by
  obtain ⟨line, drawn, copied, _, width, captures, isReported, left⟩ :=
    request_returned documented answer
  have whole : bufferFrame reported = some copied := by
    rw [isReported]
    exact dif_pos copied.sized
  cases whole.symm.trans buffer
  have lineWidth : (after.linebuf.map pixman.getWidth).getD 0 = pixman.getWidth line := by
    rw [left, ← width]
    rfl
  rw [lineWidth]
  exact captures

theorem step_shared (documented : pixman.Documented) {event : SharingEvent}
    (shared : Shared sharing) (stepped : step pixman sharing event = some following) :
    Shared following := by
  cases event with
  | shows surface =>
      cases stepped
      exact ⟨shared.tracked, shared.captures⟩
  | asks canvas => exact loops_shared shared stepped nofun
  | sendsFull => exact loops_shared shared stepped nofun
  | captures =>
      obtain ⟨⟨reported, host⟩, answer, rest⟩ := Option.bind_eq_some_iff.mp stepped
      obtain ⟨frame, buffer, looped⟩ := Option.bind_eq_some_iff.mp rest
      obtain ⟨after, ran, same⟩ := Option.map_eq_some_iff.mp looped
      rw [← same]
      refine ⟨step_tracked shared.tracked ran, ?_⟩
      intro other held
      cases (captures_frame ran).symm.trans held
      exact buffer_frame_captures documented answer buffer
  | tests => exact loops_shared shared stepped nofun
  | clears => exact loops_shared shared stepped nofun
  | compares compresses => exact loops_shared shared stepped nofun

theorem shared_shows (shared : Shared sharing) (event : SharingEvent) :
    ShowsScreen pixman sharing event := by
  intro compresses following compared stepped captured followed
  rw [compared] at stepped
  obtain ⟨after, ran, same⟩ := Option.map_eq_some_iff.mp stepped
  have tracked := step_tracked shared.tracked ran
  cases place : sharing.statements.place <;>
    simp only [FullImageRequests.step, place] at ran <;> cases ran
  rename_i frame
  rw [← same] at captured followed ⊢
  have screen := shared.captures frame (by rw [place]; rfl)
  obtain ⟨width, height⟩ := shared.tracked.sized frame (by rw [place]; rfl)
  obtain ⟨keptWidth, keptHeight, _, _, _, sameCaptured⟩ :=
    @compare_loop sharing.statements frame compresses
  have asked : sharing.statements.captured = true := sameCaptured.symm.trans captured
  have shown := (tracked_catches_up shared.tracked (.compares compresses) frame compresses place
    rfl asked followed).1
  rw [screen.width, screen.height] at shown
  constructor
  · intro x y inRow inLine inFrame notLast
    rw [← screen.pixels x y inRow inLine inFrame]
    exact shown y inFrame x inRow notLast
  · rw [← screen.width, ← screen.height, width, height, ← keptWidth, ← keptHeight]
    exact tracked.told.symm

theorem start_shared (host : Host Image) (canvas : Canvas) (fullFlag : Bool) :
    Shared (startSharing pixman host canvas fullFlag) where
  tracked := started_tracked canvas host.surface.width host.surface.height fullFlag
  captures _ held := by cases held

end Steps

/-- However the screen changes between the statements of the loop, and whenever a client
asks for a full image, it has after each iteration the pixels of the screen that was
captured since, as far as the line of the host is wide and but for the last, unless it is
behind by a failed compression. -/
theorem client_shows_screen {Image : Type} {pixman : Pixman Image}
    (documented : pixman.Documented) (host : Host Image) (canvas : Canvas) (fullFlag : Bool)
    (events : List SharingEvent) :
    Along (step pixman) (ShowsScreen pixman) (startSharing pixman host canvas fullFlag)
      events := by
  have permitted : Along (step pixman) (fun _ _ => True)
      (startSharing pixman host canvas fullFlag) events :=
    along_of_forall (fun _ _ => trivial) events
  apply along_of_invariant Shared _ _ (start_shared host canvas fullFlag) permitted
  · intro sharing event shared _
    exact shared_shows shared event
  · intro sharing event following shared _ stepped
    exact step_shared documented shared stepped

def clientAsks : List SharingEvent :=
  [.captures, .asks (blank 2 1), .captures, .tests, .compares true, .captures, .tests, .clears,
    .compares true]

theorem asking_client_shows_screen :
    Along (step paddedRows) (ShowsScreen paddedRows)
      (startSharing paddedRows (collaboThreadFunc (greyScreen 2)) (blank 2 1) false)
      clientAsks :=
  client_shows_screen padded_rows_documented _ _ _ _

end Collabo.ScreenSharing
