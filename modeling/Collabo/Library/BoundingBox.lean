import Mathlib.Data.List.Basic
import Mathlib.Tactic.Common

/-!
# Bounding boxes collected point by point

A box keeps the least and the greatest coordinates of the points it has been
shown. It starts out with bounds that no point needs to respect, so that it
says something only once a point has been shown.
-/

namespace BoundingBox

set_option autoImplicit false

structure Box where
  touched : Bool
  minX : Nat
  minY : Nat
  maxX : Nat
  maxY : Nat
  deriving DecidableEq, Repr

/-- A box that has been shown no point of a `width` by `height` area. -/
def Box.untouched (width height : Nat) : Box where
  touched := false
  minX := width
  minY := height
  maxX := 0
  maxY := 0

def Box.touch (box : Box) (x y : Nat) : Box where
  touched := true
  minX := if x < box.minX then x else box.minX
  minY := if y < box.minY then y else box.minY
  maxX := if x > box.maxX then x else box.maxX
  maxY := if y > box.maxY then y else box.maxY

def Box.touchAll (box : Box) (points : List (Nat × Nat)) : Box :=
  points.foldl (fun box point => box.touch point.1 point.2) box

/-- The point lies within the bounds of a box that has been shown some point. -/
structure Holds (box : Box) (x y : Nat) : Prop where
  touched : box.touched = true
  left : box.minX ≤ x
  top : box.minY ≤ y
  right : x ≤ box.maxX
  bottom : y ≤ box.maxY

theorem touch_holds (box : Box) (x y : Nat) : Holds (box.touch x y) x y := by
  unfold Box.touch
  constructor
  · rfl
  all_goals
    dsimp only
    split_ifs <;> omega

theorem Holds.touch {box : Box} {x y : Nat} (holds : Holds box x y) (otherX otherY : Nat) :
    Holds (box.touch otherX otherY) x y := by
  have left := holds.left
  have top := holds.top
  have right := holds.right
  have bottom := holds.bottom
  unfold Box.touch
  constructor
  · rfl
  all_goals
    dsimp only
    split_ifs <;> omega

theorem Holds.touch_all {box : Box} {x y : Nat} (holds : Holds box x y)
    (points : List (Nat × Nat)) : Holds (box.touchAll points) x y := by
  induction points generalizing box with
  | nil => exact holds
  | cons point rest induction => exact induction (holds.touch point.1 point.2)

theorem touch_all_holds (box : Box) {points : List (Nat × Nat)} {x y : Nat}
    (member : (x, y) ∈ points) : Holds (box.touchAll points) x y := by
  induction points generalizing box with
  | nil => cases member
  | cons point rest induction =>
      rcases List.mem_cons.mp member with first | later
      · rw [← first]
        exact (touch_holds box x y).touch_all rest
      · exact induction (box.touch point.1 point.2) later

/-- Each bound of a box is the one it started with or that of a point it was shown. -/
structure Tight (start : Box) (points : List (Nat × Nat)) (box : Box) : Prop where
  touched : box.touched = true → start.touched = true ∨ points ≠ []
  left : box.minX = start.minX ∨ ∃ point ∈ points, point.1 = box.minX
  top : box.minY = start.minY ∨ ∃ point ∈ points, point.2 = box.minY
  right : box.maxX = start.maxX ∨ ∃ point ∈ points, point.1 = box.maxX
  bottom : box.maxY = start.maxY ∨ ∃ point ∈ points, point.2 = box.maxY

/-- A bound that the box took over from the step that showed it `point`. -/
private theorem bound_before {bound start coordinate : Nat} {point : Nat × Nat}
    {rest : List (Nat × Nat)} {side : Nat × Nat → Nat}
    (shown : coordinate = side point ∨ coordinate = start)
    (tight : bound = coordinate ∨ ∃ later ∈ rest, side later = bound) :
    bound = start ∨ ∃ other ∈ point :: rest, side other = bound := by
  rcases tight with kept | ⟨later, member, same⟩
  · rcases shown with own | before
    · exact .inr ⟨point, List.mem_cons_self, (kept.trans own).symm⟩
    · exact .inl (kept.trans before)
  · exact .inr ⟨later, List.mem_cons_of_mem point member, same⟩

theorem touch_all_tight (start : Box) (points : List (Nat × Nat)) :
    Tight start points (start.touchAll points) := by
  induction points generalizing start with
  | nil => exact ⟨.inl, .inl rfl, .inl rfl, .inl rfl, .inl rfl⟩
  | cons point rest induction =>
      have later := induction (start.touch point.1 point.2)
      constructor
      · exact fun _ => .inr (List.cons_ne_nil point rest)
      · exact bound_before (ite_eq_or_eq _ _ _) later.left
      · exact bound_before (ite_eq_or_eq _ _ _) later.top
      · exact bound_before (ite_eq_or_eq _ _ _) later.right
      · exact bound_before (ite_eq_or_eq _ _ _) later.bottom

section Untouched

variable {width height : Nat} {points : List (Nat × Nat)}

theorem untouched_nonempty
    (touched : ((Box.untouched width height).touchAll points).touched = true) : points ≠ [] := by
  have tight := touch_all_tight (Box.untouched width height) points
  rcases tight.touched touched with before | nonempty
  · cases before
  · exact nonempty

/-- A box that started untouched has its right bound from a point. -/
theorem untouched_right (nonempty : points ≠ []) :
    ∃ point ∈ points, point.1 = ((Box.untouched width height).touchAll points).maxX := by
  rcases (touch_all_tight (Box.untouched width height) points).right with zero | attained
  · rcases List.exists_mem_of_ne_nil points nonempty with ⟨point, member⟩
    have holds := touch_all_holds (Box.untouched width height) (y := point.2) member
    have bounded := holds.right
    rw [zero] at bounded ⊢
    exact ⟨point, member, Nat.le_zero.mp bounded⟩
  · exact attained

theorem untouched_bottom (nonempty : points ≠ []) :
    ∃ point ∈ points, point.2 = ((Box.untouched width height).touchAll points).maxY := by
  rcases (touch_all_tight (Box.untouched width height) points).bottom with zero | attained
  · rcases List.exists_mem_of_ne_nil points nonempty with ⟨point, member⟩
    have holds := touch_all_holds (Box.untouched width height) (x := point.1) member
    have bounded := holds.bottom
    rw [zero] at bounded ⊢
    exact ⟨point, member, Nat.le_zero.mp bounded⟩
  · exact attained

/-- Points within the area also give an untouched box its left bound. -/
theorem untouched_left (nonempty : points ≠ []) (within : ∀ point ∈ points, point.1 < width) :
    ∃ point ∈ points, point.1 = ((Box.untouched width height).touchAll points).minX := by
  rcases (touch_all_tight (Box.untouched width height) points).left with start | attained
  · rcases List.exists_mem_of_ne_nil points nonempty with ⟨point, member⟩
    have holds := touch_all_holds (Box.untouched width height) (y := point.2) member
    have left := holds.left
    have bounded : width ≤ point.1 := by rwa [start] at left
    exact absurd (within point member) (Nat.not_lt_of_le bounded)
  · exact attained

theorem untouched_top (nonempty : points ≠ []) (within : ∀ point ∈ points, point.2 < height) :
    ∃ point ∈ points, point.2 = ((Box.untouched width height).touchAll points).minY := by
  rcases (touch_all_tight (Box.untouched width height) points).top with start | attained
  · rcases List.exists_mem_of_ne_nil points nonempty with ⟨point, member⟩
    have holds := touch_all_holds (Box.untouched width height) (x := point.1) member
    have top := holds.top
    have bounded : height ≤ point.2 := by rwa [start] at top
    exact absurd (within point member) (Nat.not_lt_of_le bounded)
  · exact attained

end Untouched

end BoundingBox
