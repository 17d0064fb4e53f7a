import Collabo.JpegScan
import Mathlib.Algebra.Group.Nat.Defs
import Mathlib.Data.List.TakeWhile

/-!
# What the change scan misses

The scan looks at the last pixel only through the windows of the pixels before
it, of which the one beside it reads its first byte. A frame in which the last
pixel has changed is scanned completely just when the last column and the last
row both show a change elsewhere.
-/

namespace Collabo.ScanCompleteness

open BoundingBox Collabo.CString Collabo.JpegScan

set_option autoImplicit false

/-- The offsets of the pixels that the scan compares are computed in `int`s, which
hold them. -/
def OffsetsFit (rawWidth rawHeight : Nat) : Prop :=
  ∀ y, y < rawHeight → ∀ x ∈ columns rawWidth rawHeight y,
    y * rawWidth * 3 < 2 ^ 31 ∧ x * 3 < 2 ^ 31

instance (rawWidth rawHeight : Nat) : Decidable (OffsetsFit rawWidth rawHeight) :=
  inferInstanceAs (Decidable (∀ y, y < rawHeight → ∀ x ∈ columns rawWidth rawHeight y, _ ∧ _))

/-- A change of any byte is noticed, and the rectangle covers each changed pixel. -/
structure Complete (prevBuf data : ByteString) (rawWidth rawHeight : Nat) : Prop where
  defined : OffsetsFit rawWidth rawHeight
  changed : prevBuf ≠ data → (scan prevBuf data rawWidth rawHeight).touched = true
  covered : ∀ y, y < rawHeight → ∀ x, x < rawWidth →
    pixelAt prevBuf rawWidth x y ≠ pixelAt data rawWidth x y →
      let box := scan prevBuf data rawWidth rawHeight
      box.minX ≤ x ∧ x < box.maxX ∧ box.minY ≤ y ∧ y < box.maxY

def LastKept (prevBuf data : ByteString) (rawWidth rawHeight : Nat) : Prop :=
  pixelAt prevBuf rawWidth (rawWidth - 1) (rawHeight - 1) =
    pixelAt data rawWidth (rawWidth - 1) (rawHeight - 1)

/-- The window of a pixel of the last column above the last row differs. -/
def LastColumnDiffers (prevBuf data : ByteString) (rawWidth rawHeight : Nat) : Prop :=
  ∃ y, y + 1 < rawHeight ∧ differs prevBuf data rawWidth (rawWidth - 1) y = true

/-- The window of a pixel of the last row before the last pixel differs. -/
def LastRowDiffers (prevBuf data : ByteString) (rawWidth rawHeight : Nat) : Prop :=
  ∃ x, x + 1 < rawWidth ∧ differs prevBuf data rawWidth x (rawHeight - 1) = true

section Points

variable {prevBuf data : ByteString} {rawWidth rawHeight : Nat}

theorem mem_columns_iff {x y : Nat} :
    x ∈ columns rawWidth rawHeight y ↔
      x < rawWidth ∧ ¬(y + 1 = rawHeight ∧ x + 1 = rawWidth) := by
  constructor
  · intro member
    unfold columns at member
    refine ⟨List.mem_range.mp ((List.takeWhile_sublist _).subset member), ?_⟩
    have reached := List.mem_takeWhile_imp member
    exact of_decide_eq_true reached
  · rintro ⟨inRow, notLast⟩
    exact mem_columns inRow notLast

theorem mem_changed_points {x y : Nat} :
    (x, y) ∈ changedPoints prevBuf data rawWidth rawHeight ↔
      y < rawHeight ∧ x < rawWidth ∧ ¬(y + 1 = rawHeight ∧ x + 1 = rawWidth) ∧
        differs prevBuf data rawWidth x y = true := by
  unfold changedPoints
  constructor
  · intro member
    rcases List.mem_flatMap.mp member with ⟨row, rowMember, inRow⟩
    rcases List.mem_map.mp inRow with ⟨column, columnMember, same⟩
    cases same
    rcases List.mem_filter.mp columnMember with ⟨reached, different⟩
    rcases mem_columns_iff.mp reached with ⟨bounded, notLast⟩
    exact ⟨List.mem_range.mp rowMember, bounded, notLast, different⟩
  · rintro ⟨inFrame, inRow, notLast, different⟩
    apply List.mem_flatMap.mpr
    refine ⟨y, List.mem_range.mpr inFrame, ?_⟩
    apply List.mem_map_of_mem
    exact List.mem_filter.mpr ⟨mem_columns_iff.mpr ⟨inRow, notLast⟩, different⟩

theorem scan_touched :
    (scan prevBuf data rawWidth rawHeight).touched =
      ((Box.untouched rawWidth rawHeight).touchAll
        (changedPoints prevBuf data rawWidth rawHeight)).touched := by
  rw [scan_eq]

/-- The right bound of a scan that has noticed a change comes from a point. -/
theorem scan_right (touched : (scan prevBuf data rawWidth rawHeight).touched = true) :
    ∃ x y, (x, y) ∈ changedPoints prevBuf data rawWidth rawHeight ∧
      (scan prevBuf data rawWidth rawHeight).maxX = x + 1 := by
  rw [scan_touched] at touched
  rcases untouched_right (untouched_nonempty touched) with ⟨⟨x, y⟩, member, same⟩
  refine ⟨x, y, member, ?_⟩
  rw [scan_eq]
  exact congrArg (· + 1) same.symm

theorem scan_bottom (touched : (scan prevBuf data rawWidth rawHeight).touched = true) :
    ∃ x y, (x, y) ∈ changedPoints prevBuf data rawWidth rawHeight ∧
      (scan prevBuf data rawWidth rawHeight).maxY = y + 1 := by
  rw [scan_touched] at touched
  rcases untouched_bottom (untouched_nonempty touched) with ⟨⟨x, y⟩, member, same⟩
  refine ⟨x, y, member, ?_⟩
  rw [scan_eq]
  exact congrArg (· + 1) same.symm

theorem offset_lt {x y : Nat} (inRow : x < rawWidth) (inFrame : y < rawHeight) :
    offset rawWidth x y + 3 ≤ 3 * rawWidth * rawHeight := by
  unfold offset
  have rows : (y + 1) * rawWidth ≤ rawHeight * rawWidth := Nat.mul_le_mul_right _ inFrame
  calc y * rawWidth * 3 + x * 3 + 3 ≤ ((y + 1) * rawWidth) * 3 := by
        rw [Nat.succ_mul]
        omega
    _ ≤ rawHeight * rawWidth * 3 := Nat.mul_le_mul_right 3 rows
    _ = 3 * rawWidth * rawHeight := by
        rw [Nat.mul_comm, Nat.mul_comm rawHeight, Nat.mul_assoc]

theorem offsets_fit_of_size (small : 3 * rawWidth * rawHeight ≤ 2 ^ 31) :
    OffsetsFit rawWidth rawHeight := by
  intro y inFrame x reached
  have inRow := (mem_columns_iff.mp reached).1
  have bound := offset_lt inRow inFrame
  unfold offset at bound
  omega

theorem eq_of_pixels (prevSized : prevBuf.length = 3 * rawWidth * rawHeight)
    (sized : data.length = 3 * rawWidth * rawHeight)
    (pixels : ∀ y, y < rawHeight → ∀ x, x < rawWidth →
      pixelAt prevBuf rawWidth x y = pixelAt data rawWidth x y) : prevBuf = data := by
  apply List.ext_getElem?
  intro index
  by_cases inside : index < 3 * rawWidth * rawHeight
  · -- the byte `index % 3` of the pixel at `index / 3 % rawWidth` of row `index / 3 / rawWidth`
    have third : index / 3 < rawWidth * rawHeight := by
      rw [Nat.mul_assoc] at inside
      exact Nat.div_lt_of_lt_mul inside
    have nonempty : 0 < rawWidth := by
      rcases Nat.eq_zero_or_pos rawWidth with zero | positive
      · rw [zero, Nat.zero_mul] at third
        exact absurd third (Nat.not_lt_zero _)
      · exact positive
    have inFrame : index / 3 / rawWidth < rawHeight := Nat.div_lt_of_lt_mul third
    have inRow : index / 3 % rawWidth < rawWidth := Nat.mod_lt _ nonempty
    have place : offset rawWidth (index / 3 % rawWidth) (index / 3 / rawWidth) + index % 3 =
        index := by
      unfold offset
      have row := Nat.div_add_mod (index / 3) rawWidth
      rw [Nat.mul_comm] at row
      omega
    have same := congrArg (fun pixel : ByteString => pixel[index % 3]?)
      (pixels _ inFrame _ inRow)
    simp only [pixelAt] at same
    rw [List.getElem?_take_of_lt (Nat.mod_lt _ (by decide)), List.getElem?_drop,
      List.getElem?_take_of_lt (Nat.mod_lt _ (by decide)), List.getElem?_drop, place] at same
    exact same
  · rw [List.getElem?_eq_none (by omega), List.getElem?_eq_none (by omega)]

end Points

section Coverage

variable {prevBuf data : ByteString} {rawWidth rawHeight : Nat}

/-- A last pixel that has changed is covered through the column and the row it
lies in, as no window shows both its coordinates. -/
theorem last_covered_iff (nonempty : 1 ≤ rawWidth ∧ 1 ≤ rawHeight) :
    Inside (scan prevBuf data rawWidth rawHeight) (rawWidth - 1) (rawHeight - 1) ↔
      LastColumnDiffers prevBuf data rawWidth rawHeight ∧
        LastRowDiffers prevBuf data rawWidth rawHeight := by
  constructor
  · rintro ⟨touched, _, right, _, bottom⟩
    constructor
    · rcases scan_right touched with ⟨x, y, member, same⟩
      rcases mem_changed_points.mp member with ⟨inFrame, inRow, notLast, different⟩
      have column : x = rawWidth - 1 := by omega
      rw [column] at different notLast
      exact ⟨y, by omega, different⟩
    · rcases scan_bottom touched with ⟨x, y, member, same⟩
      rcases mem_changed_points.mp member with ⟨inFrame, inRow, notLast, different⟩
      have row : y = rawHeight - 1 := by omega
      rw [row] at different notLast
      exact ⟨x, by omega, different⟩
  · rintro ⟨⟨y, above, columnDiffers⟩, ⟨x, before, rowDiffers⟩⟩
    have column : Inside (scan prevBuf data rawWidth rawHeight) (rawWidth - 1) y :=
      scan_covers_window (by omega) (by omega) (by omega) columnDiffers
    have row : Inside (scan prevBuf data rawWidth rawHeight) x (rawHeight - 1) :=
      scan_covers_window (by omega) (by omega) (by omega) rowDiffers
    rcases column with ⟨touched, left, right, top, _⟩
    rcases row with ⟨_, rowLeft, _, _, bottom⟩
    exact ⟨touched, left, right, by omega, bottom⟩

/-- The scan finds and covers every change of a frame that is not too large just
when the last pixel is unchanged or both its column and its row show a change
elsewhere. -/
theorem scan_complete_iff (prevBuf data : ByteString) (rawWidth rawHeight : Nat)
    (someColumn : 1 ≤ rawWidth) (someRow : 1 ≤ rawHeight)
    (prevSized : prevBuf.length = 3 * rawWidth * rawHeight)
    (sized : data.length = 3 * rawWidth * rawHeight) :
    Complete prevBuf data rawWidth rawHeight ↔
      OffsetsFit rawWidth rawHeight ∧
        (LastKept prevBuf data rawWidth rawHeight ∨
          LastColumnDiffers prevBuf data rawWidth rawHeight ∧
            LastRowDiffers prevBuf data rawWidth rawHeight) := by
  have lastCovered := @last_covered_iff prevBuf data rawWidth rawHeight ⟨someColumn, someRow⟩
  constructor
  · intro complete
    refine ⟨complete.defined, ?_⟩
    by_cases kept : LastKept prevBuf data rawWidth rawHeight
    · exact .inl kept
    · apply Or.inr
      apply lastCovered.mp
      have touched := complete.changed fun same => kept (by rw [same]; rfl)
      exact ⟨touched,
        complete.covered (rawHeight - 1) (by omega) (rawWidth - 1) (by omega) kept⟩
  · rintro ⟨defined, covers⟩
    have inside : ∀ y, y < rawHeight → ∀ x, x < rawWidth →
        pixelAt prevBuf rawWidth x y ≠ pixelAt data rawWidth x y →
          Inside (scan prevBuf data rawWidth rawHeight) x y := by
      intro y inFrame x inRow changed
      by_cases last : y + 1 = rawHeight ∧ x + 1 = rawWidth
      · have column : x = rawWidth - 1 := by omega
        have row : y = rawHeight - 1 := by omega
        rw [column, row] at changed ⊢
        rcases covers with kept | elsewhere
        · exact absurd kept changed
        · exact lastCovered.mpr elsewhere
      · exact scan_covers_but_last inRow inFrame last changed
    constructor
    · exact defined
    · intro changed
      by_contra unnoticed
      apply changed
      apply eq_of_pixels prevSized sized
      intro y inFrame x inRow
      by_contra different
      exact unnoticed (inside y inFrame x inRow different).1
    · intro y inFrame x inRow changed
      exact (inside y inFrame x inRow changed).2

theorem scan_complete_iff_left_pixel : Complete [1, 2, 3, 4, 5, 6] [9, 2, 3, 4, 5, 6] 2 1 :=
  (scan_complete_iff [1, 2, 3, 4, 5, 6] [9, 2, 3, 4, 5, 6] 2 1 (by decide) (by decide) rfl
    rfl).mpr ⟨offsets_fit_of_size (by decide), .inl rfl⟩

/-- A change of the last byte of a frame goes unnoticed. -/
theorem last_byte_unnoticed : ¬Complete [1, 2, 3, 4, 5, 6] [1, 2, 3, 4, 5, 9] 2 1 := by
  intro complete
  have noticed := complete.changed (by decide)
  exact absurd noticed (by decide)

end Coverage

end Collabo.ScanCompleteness
