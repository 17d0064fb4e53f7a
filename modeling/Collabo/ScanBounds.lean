import Collabo.Library.PartialRuns
import Collabo.ScanCompleteness

/-!
# The reads of the change scan and the rectangle it finds

A window is four bytes wide where a pixel has three. It reaches into the next
pixel and wraps at the end of a row, and only that of the last pixel would leave
the buffer. The rectangle starts out crossed and gets each of its four sides from
a pixel whose window differs.
-/

namespace Collabo.ScanBounds

open BoundingBox PartialRuns Collabo.CString Collabo.JpegScan Collabo.ScanCompleteness

set_option autoImplicit false

/-- The read of an `int`. Nothing stands for a read that leaves the buffer. -/
def readInt (buf : ByteString) (start : Nat) : Option ByteString :=
  if start + 4 ≤ buf.length then some (window buf start) else none

def readPixel (prevBuf data : ByteString) (rawWidth y : Nat) (box : Box) (x : Nat) :
    Option Box := do
  let before ← readInt prevBuf (offset rawWidth x y)
  let now ← readInt data (offset rawWidth x y)
  some (if before ≠ now then box.touch x y else box)

def readRow (prevBuf data : ByteString) (rawWidth rawHeight : Nat) (box : Box) (y : Nat) :
    Option Box :=
  (columns rawWidth rawHeight y).foldlM (readPixel prevBuf data rawWidth y) box

def readScan (prevBuf data : ByteString) (rawWidth rawHeight : Nat) : Option Box := do
  let box ← (List.range rawHeight).foldlM (readRow prevBuf data rawWidth rawHeight)
    (Box.untouched rawWidth rawHeight)
  some { box with maxX := box.maxX + 1, maxY := box.maxY + 1 }

/-- The pixel is one that the scan compares, and its windows differ. -/
def Changed (prevBuf data : ByteString) (rawWidth rawHeight x y : Nat) : Prop :=
  (x, y) ∈ changedPoints prevBuf data rawWidth rawHeight

/-- Each side of the rectangle has a changed pixel on it. -/
structure Tight (prevBuf data : ByteString) (rawWidth rawHeight : Nat) (box : Box) : Prop where
  firstColumn : ∃ y, Inside box box.minX y ∧ Changed prevBuf data rawWidth rawHeight box.minX y
  lastColumn : ∃ y, Inside box (box.maxX - 1) y ∧
    Changed prevBuf data rawWidth rawHeight (box.maxX - 1) y
  firstRow : ∃ x, Inside box x box.minY ∧ Changed prevBuf data rawWidth rawHeight x box.minY
  lastRow : ∃ x, Inside box x (box.maxY - 1) ∧
    Changed prevBuf data rawWidth rawHeight x (box.maxY - 1)

def Covers (prevBuf data : ByteString) (rawWidth rawHeight : Nat) (box : Box) : Prop :=
  ∀ x y, Changed prevBuf data rawWidth rawHeight x y → Inside box x y

/-- What the scan's rectangle is when it has noticed a change. -/
structure Bounded (prevBuf data : ByteString) (rawWidth rawHeight : Nat) (box : Box) : Prop where
  columns : box.minX < box.maxX ∧ box.maxX ≤ rawWidth
  rows : box.minY < box.maxY ∧ box.maxY ≤ rawHeight
  partialSize : 0 < box.maxX - box.minX ∧ 0 < box.maxY - box.minY
  tight : Tight prevBuf data rawWidth rawHeight box
  covers : Covers prevBuf data rawWidth rawHeight box
  least : ∀ other, Covers prevBuf data rawWidth rawHeight other →
    other.minX ≤ box.minX ∧ box.maxX ≤ other.maxX ∧
      other.minY ≤ box.minY ∧ box.maxY ≤ other.maxY

section Reads

variable {prevBuf data : ByteString} {rawWidth rawHeight : Nat}

theorem window_inside {x y : Nat} (inFrame : y < rawHeight)
    (reached : x ∈ columns rawWidth rawHeight y) :
    offset rawWidth x y + 4 ≤ 3 * rawWidth * rawHeight := by
  rcases mem_columns_iff.mp reached with ⟨inRow, notLast⟩
  by_cases lastColumn : x + 1 = rawWidth
  · -- the first pixel of the next row stands behind it
    have next : y + 1 < rawHeight := by omega
    have behind := @offset_lt rawWidth rawHeight 0 (y + 1) (by omega) next
    have row : offset rawWidth 0 (y + 1) = offset rawWidth x y + 3 := by
      unfold offset
      rw [Nat.succ_mul, ← lastColumn]
      omega
    omega
  · have behind := @offset_lt rawWidth rawHeight (x + 1) y (by omega) inFrame
    have neighbour : offset rawWidth (x + 1) y = offset rawWidth x y + 3 := by
      unfold offset
      omega
    omega

theorem read_int_inside {buf : ByteString} {start : Nat} (inside : start + 4 ≤ buf.length) :
    readInt buf start = some (window buf start) := if_pos inside

variable (prevSized : prevBuf.length = 3 * rawWidth * rawHeight)
  (sized : data.length = 3 * rawWidth * rawHeight)

include prevSized sized

theorem read_pixel_eq {x y : Nat} (inFrame : y < rawHeight)
    (reached : x ∈ columns rawWidth rawHeight y) (box : Box) :
    readPixel prevBuf data rawWidth y box x = some (scanPixel prevBuf data rawWidth y box x) := by
  have inside := window_inside inFrame reached
  unfold readPixel
  rw [read_int_inside (by omega), read_int_inside (by omega)]
  simp only [Option.bind_eq_bind, Option.bind_some, scanPixel, differs, decide_eq_true_eq]

theorem read_row_eq {y : Nat} (inFrame : y < rawHeight) (box : Box) :
    readRow prevBuf data rawWidth rawHeight box y =
      some (scanRow prevBuf data rawWidth rawHeight box y) :=
  foldlM_of_steps (fun _ reached box => read_pixel_eq prevSized sized inFrame reached box) box

/-- No read of the scan leaves the buffers. -/
theorem read_scan_eq :
    readScan prevBuf data rawWidth rawHeight = some (scan prevBuf data rawWidth rawHeight) := by
  have rows := foldlM_of_steps
    (fun y member box => read_row_eq prevSized sized (List.mem_range.mp member) box)
    (Box.untouched rawWidth rawHeight)
  unfold readScan
  rw [rows]
  rfl

end Reads

section Rectangle

variable {prevBuf data : ByteString} {rawWidth rawHeight : Nat}

theorem changed_points_within {point : Nat × Nat}
    (member : point ∈ changedPoints prevBuf data rawWidth rawHeight) :
    point.1 < rawWidth ∧ point.2 < rawHeight := by
  rcases mem_changed_points.mp member with ⟨inFrame, inRow, _, _⟩
  exact ⟨inRow, inFrame⟩

theorem scan_left (touched : (scan prevBuf data rawWidth rawHeight).touched = true) :
    ∃ y, (((scan prevBuf data rawWidth rawHeight).minX, y) ∈
      changedPoints prevBuf data rawWidth rawHeight) := by
  rw [scan_touched] at touched
  rcases untouched_left (untouched_nonempty touched)
    (fun _ member => (changed_points_within member).1) with ⟨⟨x, y⟩, member, same⟩
  refine ⟨y, ?_⟩
  rw [scan_eq]
  exact same ▸ member

theorem scan_top (touched : (scan prevBuf data rawWidth rawHeight).touched = true) :
    ∃ x, ((x, (scan prevBuf data rawWidth rawHeight).minY) ∈
      changedPoints prevBuf data rawWidth rawHeight) := by
  rw [scan_touched] at touched
  rcases untouched_top (untouched_nonempty touched)
    (fun _ member => (changed_points_within member).2) with ⟨⟨x, y⟩, member, same⟩
  refine ⟨x, ?_⟩
  rw [scan_eq]
  exact same ▸ member

theorem scan_covers :
    Covers prevBuf data rawWidth rawHeight (scan prevBuf data rawWidth rawHeight) := by
  intro x y changed
  rcases mem_changed_points.mp changed with ⟨inFrame, inRow, notLast, different⟩
  exact scan_covers_window inRow inFrame notLast different

theorem scan_tight (touched : (scan prevBuf data rawWidth rawHeight).touched = true) :
    Tight prevBuf data rawWidth rawHeight (scan prevBuf data rawWidth rawHeight) := by
  constructor
  · rcases scan_left touched with ⟨y, member⟩
    exact ⟨y, scan_covers _ _ member, member⟩
  · rcases scan_right touched with ⟨x, y, member, same⟩
    rw [same, Nat.add_sub_cancel]
    exact ⟨y, scan_covers _ _ member, member⟩
  · rcases scan_top touched with ⟨x, member⟩
    exact ⟨x, scan_covers _ _ member, member⟩
  · rcases scan_bottom touched with ⟨x, y, member, same⟩
    rw [same, Nat.add_sub_cancel]
    exact ⟨x, scan_covers _ _ member, member⟩

/-- A box with a changed pixel on each of its sides lies in each one that covers them. -/
theorem Tight.least {box other : Box} (tight : Tight prevBuf data rawWidth rawHeight box)
    (covers : Covers prevBuf data rawWidth rawHeight other) :
    other.minX ≤ box.minX ∧ box.maxX ≤ other.maxX ∧
      other.minY ≤ box.minY ∧ box.maxY ≤ other.maxY := by
  rcases tight.firstColumn with ⟨_, _, firstColumn⟩
  rcases tight.lastColumn with ⟨_, _, lastColumn⟩
  rcases tight.firstRow with ⟨_, _, firstRow⟩
  rcases tight.lastRow with ⟨_, _, lastRow⟩
  rcases covers _ _ firstColumn with ⟨_, left, _⟩
  rcases covers _ _ lastColumn with ⟨_, _, right, _⟩
  rcases covers _ _ firstRow with ⟨_, _, _, top, _⟩
  rcases covers _ _ lastRow with ⟨_, _, _, _, bottom⟩
  exact ⟨left, by omega, top, by omega⟩

theorem scan_bounded (touched : (scan prevBuf data rawWidth rawHeight).touched = true) :
    Bounded prevBuf data rawWidth rawHeight (scan prevBuf data rawWidth rawHeight) := by
  have tight := scan_tight touched
  rcases tight.firstColumn with ⟨_, ⟨_, _, uncrossedX, _⟩, _⟩
  rcases tight.firstRow with ⟨_, ⟨_, _, _, _, uncrossedY⟩, _⟩
  constructor
  · rcases scan_right touched with ⟨_, _, member, same⟩
    exact ⟨uncrossedX, same.trans_le (changed_points_within member).1⟩
  · rcases scan_bottom touched with ⟨_, _, member, same⟩
    exact ⟨uncrossedY, same.trans_le (changed_points_within member).2⟩
  · exact ⟨Nat.sub_pos_of_lt uncrossedX, Nat.sub_pos_of_lt uncrossedY⟩
  · exact tight
  · exact scan_covers
  · intro other covers
    exact tight.least covers

/-- Frames whose size an `int` holds are read within their bounds, and the
rectangle of a change found in them is nonempty, within the frame and the least
one around the pixels whose windows differ. -/
theorem scan_reads_and_bounds (prevBuf data : ByteString) (rawWidth rawHeight : Nat)
    (small : 3 * rawWidth * rawHeight < 2 ^ 31)
    (prevSized : prevBuf.length = 3 * rawWidth * rawHeight)
    (sized : data.length = 3 * rawWidth * rawHeight) :
    OffsetsFit rawWidth rawHeight ∧
      readScan prevBuf data rawWidth rawHeight = some (scan prevBuf data rawWidth rawHeight) ∧
      ((scan prevBuf data rawWidth rawHeight).touched = true →
        Bounded prevBuf data rawWidth rawHeight (scan prevBuf data rawWidth rawHeight)) :=
  ⟨offsets_fit_of_size (Nat.le_of_lt small), read_scan_eq prevSized sized, scan_bounded⟩

theorem scan_reads_and_bounds_left_pixel :
    OffsetsFit 2 1 ∧
      readScan [1, 2, 3, 4, 5, 6] [9, 2, 3, 4, 5, 6] 2 1 =
        some (scan [1, 2, 3, 4, 5, 6] [9, 2, 3, 4, 5, 6] 2 1) ∧
      ((scan [1, 2, 3, 4, 5, 6] [9, 2, 3, 4, 5, 6] 2 1).touched = true →
        Bounded [1, 2, 3, 4, 5, 6] [9, 2, 3, 4, 5, 6] 2 1
          (scan [1, 2, 3, 4, 5, 6] [9, 2, 3, 4, 5, 6] 2 1)) :=
  scan_reads_and_bounds [1, 2, 3, 4, 5, 6] [9, 2, 3, 4, 5, 6] 2 1 (by decide) rfl rfl

end Rectangle

end Collabo.ScanBounds
