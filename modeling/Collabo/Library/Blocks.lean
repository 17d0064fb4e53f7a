import Mathlib.Data.List.Basic
import Mathlib.Tactic.Common

/-!
# Cutting a stream into blocks

A stream is cut into blocks of one size and a rest that is too short for another
block. There is one way to do so, and it can be done piece by piece: what is
left of one piece goes before the next one.
-/

namespace Blocks

set_option autoImplicit false

variable {Item : Type*} {size : Nat}

structure Cut (size : Nat) (input : List Item) (blocks : List (List Item)) (rest : List Item) :
    Prop where
  sized : ∀ block ∈ blocks, block.length = size
  short : rest.length < size
  same : blocks.flatten ++ rest = input

theorem cut_short {input : List Item} (short : input.length < size) : Cut size input [] input where
  sized := nofun
  short := short
  same := rfl

theorem Cut.cons {input block rest : List Item} {blocks : List (List Item)}
    (cut : Cut size input blocks rest) (sized : block.length = size) :
    Cut size (block ++ input) (block :: blocks) rest where
  sized := by
    intro other member
    rcases List.mem_cons.mp member with first | later
    · rw [first]
      exact sized
    · exact cut.sized other later
  short := cut.short
  same := by rw [List.flatten_cons, List.append_assoc, cut.same]

/-- What is left of a piece is cut with the next one. -/
theorem Cut.append {input more rest laterRest : List Item} {blocks later : List (List Item)}
    (first : Cut size input blocks rest) (second : Cut size (rest ++ more) later laterRest) :
    Cut size (input ++ more) (blocks ++ later) laterRest where
  sized := by
    intro block member
    rcases List.mem_append.mp member with early | late
    · exact first.sized block early
    · exact second.sized block late
  short := second.short
  same := by
    rw [List.flatten_append, List.append_assoc, second.same, ← List.append_assoc, first.same]

theorem cut_unique {input rest otherRest : List Item} {blocks others : List (List Item)}
    (cut : Cut size input blocks rest) (other : Cut size input others otherRest) :
    blocks = others ∧ rest = otherRest := by
  induction blocks generalizing input others with
  | nil =>
      cases others with
      | nil => exact ⟨rfl, cut.same.trans other.same.symm⟩
      | cons block later =>
          have long := congrArg List.length (cut.same.trans other.same.symm)
          have sized := other.sized block List.mem_cons_self
          have short := cut.short
          simp only [List.flatten_nil, List.nil_append, List.flatten_cons, List.length_append]
            at long
          omega
  | cons block later induction =>
      have sized := cut.sized block List.mem_cons_self
      cases others with
      | nil =>
          have long := congrArg List.length (cut.same.trans other.same.symm)
          have short := other.short
          simp only [List.flatten_nil, List.nil_append, List.flatten_cons, List.length_append]
            at long
          omega
      | cons otherBlock otherLater =>
          have otherSized := other.sized otherBlock List.mem_cons_self
          have both := cut.same.trans other.same.symm
          rw [List.flatten_cons, List.flatten_cons, List.append_assoc, List.append_assoc] at both
          rcases List.append_inj both (sized.trans otherSized.symm) with ⟨first, tails⟩
          have tail : Cut size (later.flatten ++ rest) later rest :=
            ⟨fun held member => cut.sized held (List.mem_cons_of_mem block member), cut.short, rfl⟩
          have otherTail : Cut size (later.flatten ++ rest) otherLater otherRest :=
            ⟨fun held member => other.sized held (List.mem_cons_of_mem otherBlock member),
              other.short, tails.symm⟩
          rcases induction tail otherTail with ⟨sameLater, sameRest⟩
          exact ⟨by rw [first, sameLater], sameRest⟩

/-- The blocks that a function gives lie one after another. -/
theorem block_at {block : Nat → List Item} (sized : ∀ index, (block index).length = size)
    {count index : Nat} (inside : index < count) :
    (((List.range count).flatMap block).drop (index * size)).take size = block index := by
  obtain ⟨later, rfl⟩ := Nat.exists_eq_add_of_lt inside
  have before : ((List.range index).flatMap block).length = index * size := by
    simp [List.length_flatMap, sized]
  rw [Nat.add_assoc, List.range_add, List.flatMap_append, ← before, List.drop_left,
    List.range_succ_eq_map, List.map_cons, List.flatMap_cons, Nat.add_zero,
    ← sized index, List.take_left]

theorem blocks_length {block : Nat → List Item} (sized : ∀ index, (block index).length = size)
    (count : Nat) : ((List.range count).flatMap block).length = count * size := by
  simp [List.length_flatMap, sized]

theorem take_drop_within {items : List Item} {start length place count : Nat}
    (within : place + count ≤ length) :
    (items.drop (start + place)).take count =
      (((items.drop start).take length).drop place).take count := by
  rw [List.drop_take, List.take_take, List.drop_drop, Nat.min_eq_left (by omega)]

end Blocks
