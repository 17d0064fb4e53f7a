import Collabo.CString
import Collabo.Library.BoundingBox

/-!
# The change scan of the image compressor

The nested loops of `compressJpegLoop` that compare a frame with the one before
it. The comparison of a pixel reads four bytes, one more than the pixel has, and
the last pixel is left out, as its fourth byte would lie behind the buffer.
-/

namespace Collabo.JpegScan

open BoundingBox Collabo.CString

set_option autoImplicit false

structure Frame where
  rawWidth : Nat
  rawHeight : Nat
  data : ByteString
  sized : data.length = 3 * rawWidth * rawHeight

def offset (rawWidth x y : Nat) : Nat := y * rawWidth * 3 + x * 3

def window (buf : ByteString) (start : Nat) : ByteString := (buf.drop start).take 4

def pixelAt (buf : ByteString) (rawWidth x y : Nat) : ByteString :=
  (buf.drop (offset rawWidth x y)).take 3

def differs (prevBuf data : ByteString) (rawWidth x y : Nat) : Bool :=
  window prevBuf (offset rawWidth x y) ≠ window data (offset rawWidth x y)

def scanPixel (prevBuf data : ByteString) (rawWidth y : Nat) (box : Box) (x : Nat) : Box :=
  if differs prevBuf data rawWidth x y then box.touch x y else box

/-- The columns of a row that the inner loop reaches: it breaks at the last pixel. -/
def columns (rawWidth rawHeight y : Nat) : List Nat :=
  (List.range rawWidth).takeWhile fun x => ¬(y + 1 = rawHeight ∧ x + 1 = rawWidth)

def scanRow (prevBuf data : ByteString) (rawWidth rawHeight : Nat) (box : Box) (y : Nat) : Box :=
  (columns rawWidth rawHeight y).foldl (scanPixel prevBuf data rawWidth y) box

/-- The rectangle found, with its right and lower bounds outside it. -/
def scan (prevBuf data : ByteString) (rawWidth rawHeight : Nat) : Box :=
  let box := (List.range rawHeight).foldl (scanRow prevBuf data rawWidth rawHeight)
    (Box.untouched rawWidth rawHeight)
  { box with maxX := box.maxX + 1, maxY := box.maxY + 1 }

/-- The rectangle of a frame that is sent whole. -/
def whole (rawWidth rawHeight : Nat) : Box where
  touched := true
  minX := 0
  minY := 0
  maxX := rawWidth
  maxY := rawHeight

def Inside (box : Box) (x y : Nat) : Prop :=
  box.touched = true ∧ box.minX ≤ x ∧ x < box.maxX ∧ box.minY ≤ y ∧ y < box.maxY

instance (box : Box) (x y : Nat) : Decidable (Inside box x y) :=
  inferInstanceAs (Decidable (_ ∧ _))

def changedPoints (prevBuf data : ByteString) (rawWidth rawHeight : Nat) : List (Nat × Nat) :=
  (List.range rawHeight).flatMap fun y =>
    ((columns rawWidth rawHeight y).filter fun x => differs prevBuf data rawWidth x y).map
      fun x => (x, y)

section Covering

variable {prevBuf data : ByteString} {rawWidth rawHeight : Nat}

theorem scan_row_eq (box : Box) (y : Nat) :
    scanRow prevBuf data rawWidth rawHeight box y =
      box.touchAll (((columns rawWidth rawHeight y).filter
        fun x => differs prevBuf data rawWidth x y).map fun x => (x, y)) := by
  unfold scanRow Box.touchAll
  induction columns rawWidth rawHeight y generalizing box with
  | nil => rfl
  | cons x rest induction =>
      rw [List.foldl_cons, induction]
      by_cases different : differs prevBuf data rawWidth x y = true
      · simp only [List.filter_cons, scanPixel, if_pos different, List.map_cons, List.foldl_cons]
      · simp only [List.filter_cons, scanPixel, if_neg different]

theorem rows_eq (box : Box) (rows : List Nat) :
    rows.foldl (scanRow prevBuf data rawWidth rawHeight) box =
      box.touchAll (rows.flatMap fun y =>
        ((columns rawWidth rawHeight y).filter fun x => differs prevBuf data rawWidth x y).map
          fun x => (x, y)) := by
  induction rows generalizing box with
  | nil => rfl
  | cons y rest induction =>
      rw [List.foldl_cons, induction, scan_row_eq, List.flatMap_cons]
      simp only [Box.touchAll, List.foldl_append]

theorem scan_eq (prevBuf data : ByteString) (rawWidth rawHeight : Nat) :
    scan prevBuf data rawWidth rawHeight =
      { (Box.untouched rawWidth rawHeight).touchAll
          (changedPoints prevBuf data rawWidth rawHeight) with
        maxX := ((Box.untouched rawWidth rawHeight).touchAll
          (changedPoints prevBuf data rawWidth rawHeight)).maxX + 1
        maxY := ((Box.untouched rawWidth rawHeight).touchAll
          (changedPoints prevBuf data rawWidth rawHeight)).maxY + 1 } := by
  unfold scan changedPoints
  rw [rows_eq]

theorem mem_columns {x y : Nat} (inRow : x < rawWidth)
    (notLast : ¬(y + 1 = rawHeight ∧ x + 1 = rawWidth)) : x ∈ columns rawWidth rawHeight y := by
  have reached : ∀ count, x < count → count ≤ rawWidth →
      x ∈ (List.range count).takeWhile
        fun x => ¬(y + 1 = rawHeight ∧ x + 1 = rawWidth) := by
    intro count
    induction count with
    | zero => intro below; cases below
    | succ count induction =>
        intro below bounded
        have earlier : ∀ other ∈ List.range count,
            decide (¬(y + 1 = rawHeight ∧ other + 1 = rawWidth)) = true := by
          intro other member
          have small := List.mem_range.mp member
          apply decide_eq_true
          omega
        rw [List.range_succ, List.takeWhile_append_of_pos earlier]
        by_cases same : x = count
        · apply List.mem_append_right
          rw [same] at notLast
          simp only [List.takeWhile_cons, decide_eq_true notLast, if_true, same]
          exact List.mem_cons_self
        · apply List.mem_append_left
          exact List.mem_range.mpr (by omega)
  exact reached rawWidth inRow (Nat.le_refl _)

/-- The rectangle covers each pixel but the last whose window differs. -/
theorem scan_covers_window {x y : Nat} (inRow : x < rawWidth) (inFrame : y < rawHeight)
    (notLast : ¬(y + 1 = rawHeight ∧ x + 1 = rawWidth))
    (different : differs prevBuf data rawWidth x y = true) :
    Inside (scan prevBuf data rawWidth rawHeight) x y := by
  have member : (x, y) ∈ changedPoints prevBuf data rawWidth rawHeight := by
    apply List.mem_flatMap.mpr
    refine ⟨y, List.mem_range.mpr inFrame, ?_⟩
    apply List.mem_map_of_mem
    exact List.mem_filter.mpr ⟨mem_columns inRow notLast, different⟩
  have holds := touch_all_holds (Box.untouched rawWidth rawHeight) member
  rw [scan_eq]
  exact ⟨holds.touched, holds.left, Nat.lt_succ_of_le holds.right, holds.top,
    Nat.lt_succ_of_le holds.bottom⟩

theorem differs_of_pixel {x y : Nat}
    (changed : pixelAt prevBuf rawWidth x y ≠ pixelAt data rawWidth x y) :
    differs prevBuf data rawWidth x y = true := by
  apply decide_eq_true
  intro same
  apply changed
  have shorter := congrArg (List.take 3) same
  unfold window at shorter
  rw [List.take_take, List.take_take] at shorter
  exact shorter

/-- What the rectangle covers in any case: every changed pixel but the last. -/
theorem scan_covers_but_last {x y : Nat} (inRow : x < rawWidth) (inFrame : y < rawHeight)
    (notLast : ¬(y + 1 = rawHeight ∧ x + 1 = rawWidth))
    (changed : pixelAt prevBuf rawWidth x y ≠ pixelAt data rawWidth x y) :
    Inside (scan prevBuf data rawWidth rawHeight) x y :=
  scan_covers_window inRow inFrame notLast (differs_of_pixel changed)

end Covering

end Collabo.JpegScan
