import Mathlib.Data.List.Basic
import Mathlib.Tactic.Common

/-!
# Buffers that are written in pieces

A buffer has what was in its memory before, until something is written there.
Pieces that are laid out one behind the other fill a buffer of their size: each
place is written once, and what is read is the pieces.
-/

namespace ByteBuffer

set_option autoImplicit false

variable {Item : Type*}

structure Write (Item : Type*) where
  place : Nat
  items : List Item
  deriving DecidableEq, Repr

/-- What the write puts at a place, if it covers it. -/
def Write.puts (write : Write Item) (place : Nat) : Option Item :=
  if write.place ≤ place then write.items[place - write.place]? else none

def contents : (Nat → Item) → List (Write Item) → Nat → Item
  | before, [] => before
  | before, write :: later =>
      contents (fun place => (write.puts place).getD (before place)) later

def timesWritten (writes : List (Write Item)) (place : Nat) : Nat :=
  writes.countP fun write => (write.puts place).isSome

/-- No write leaves a buffer of this size. -/
def Inside (size : Nat) (writes : List (Write Item)) : Prop :=
  ∀ write ∈ writes, write.place + write.items.length ≤ size

instance (size : Nat) (writes : List (Write Item)) : Decidable (Inside size writes) :=
  inferInstanceAs (Decidable (∀ _ ∈ writes, _))

def readOut (memory : Nat → Item) (size : Nat) : List Item := (List.range size).map memory

def laidOut : Nat → List (List Item) → List (Write Item)
  | _, [] => []
  | place, piece :: rest =>
      { place := place, items := piece } :: laidOut (place + piece.length) rest

section Puts

variable {write : Write Item} {place : Nat}

theorem puts_inside (lower : write.place ≤ place) :
    write.puts place = write.items[place - write.place]? := if_pos lower

theorem puts_before (lower : place < write.place) : write.puts place = none :=
  if_neg (Nat.not_le.mpr lower)

theorem puts_behind (upper : write.place + write.items.length ≤ place) :
    write.puts place = none := by
  rw [puts_inside (by omega)]
  exact List.getElem?_eq_none (by omega)

theorem puts_some (lower : write.place ≤ place)
    (upper : place < write.place + write.items.length) : (write.puts place).isSome = true := by
  rw [puts_inside lower, List.getElem?_eq_getElem (by omega)]
  rfl

end Puts

section LaidOut

variable {place : Nat}

theorem laid_out_append (first second : List (List Item)) :
    laidOut place (first ++ second) =
      laidOut place first ++ laidOut (place + first.flatten.length) second := by
  induction first generalizing place with
  | nil => rfl
  | cons piece rest induction =>
      rw [List.cons_append, laidOut, laidOut, induction, List.cons_append, List.flatten_cons,
        List.length_append, Nat.add_assoc]

theorem laid_out_inside (pieces : List (List Item)) :
    Inside (place + pieces.flatten.length) (laidOut place pieces) := by
  induction pieces generalizing place with
  | nil => nofun
  | cons piece rest induction =>
      intro write member
      rw [List.flatten_cons, List.length_append]
      rcases List.mem_cons.mp member with first | later
      · rw [first]
        dsimp only
        omega
      · have inside := induction write later
        omega

theorem laid_out_unwritten {other : Nat} (pieces : List (List Item))
    (outside : other < place ∨ place + pieces.flatten.length ≤ other) :
    timesWritten (laidOut place pieces) other = 0 := by
  induction pieces generalizing place with
  | nil => rfl
  | cons piece rest induction =>
      rw [List.flatten_cons, List.length_append] at outside
      have head : (Write.mk place piece).puts other = none := by
        rcases outside with lower | upper
        · exact puts_before lower
        · exact puts_behind (by dsimp only; omega)
      have tail : timesWritten (laidOut (place + piece.length) rest) other = 0 :=
        induction (by omega)
      unfold timesWritten at tail ⊢
      rw [laidOut, List.countP_cons, tail, head]
      rfl

theorem laid_out_written_once {other : Nat} (pieces : List (List Item)) (lower : place ≤ other)
    (upper : other < place + pieces.flatten.length) :
    timesWritten (laidOut place pieces) other = 1 := by
  induction pieces generalizing place with
  | nil =>
      rw [List.flatten_nil, List.length_nil] at upper
      omega
  | cons piece rest induction =>
      rw [List.flatten_cons, List.length_append] at upper
      by_cases first : other < place + piece.length
      · have head : ((Write.mk place piece).puts other).isSome = true := puts_some lower first
        have tail := @laid_out_unwritten Item (place + piece.length) other rest (.inl first)
        unfold timesWritten at tail ⊢
        rw [laidOut, List.countP_cons, tail, head]
        rfl
      · have head : (Write.mk place piece).puts other = none := puts_behind (by dsimp only; omega)
        have tail := @induction (place + piece.length) (by omega) (by omega)
        unfold timesWritten at tail ⊢
        rw [laidOut, List.countP_cons, tail, head]
        rfl

/-- The pieces stand where they were laid out, and nothing else has changed. -/
theorem laid_out_contents (before : Nat → Item) (pieces : List (List Item)) (other : Nat) :
    contents before (laidOut place pieces) other =
      ((Write.mk place pieces.flatten).puts other).getD (before other) := by
  induction pieces generalizing place before with
  | nil =>
      have nothing : (Write.mk place ([] : List (List Item)).flatten).puts other = none := by
        by_cases lower : place ≤ other
        · exact puts_behind lower
        · exact puts_before (Nat.not_le.mp lower)
      rw [nothing]
      rfl
  | cons piece rest induction =>
      rw [laidOut, contents, induction]
      by_cases lower : place ≤ other
      · have all : (Write.mk place (piece :: rest).flatten).puts other =
            (piece ++ rest.flatten)[other - place]? := puts_inside lower
        have head : (Write.mk place piece).puts other = piece[other - place]? := puts_inside lower
        rw [all, head]
        by_cases first : other < place + piece.length
        · rw [puts_before first, List.getElem?_append_left (by omega)]
          rfl
        · have tail : (Write.mk (place + piece.length) rest.flatten).puts other =
              rest.flatten[other - (place + piece.length)]? := puts_inside (Nat.not_lt.mp first)
          have nothing : piece[other - place]? = none := List.getElem?_eq_none (by omega)
          rw [tail, List.getElem?_append_right (by omega), nothing, Nat.sub_sub]
          rfl
      · have earlier := Nat.not_le.mp lower
        rw [puts_before (by dsimp only; omega), puts_before earlier, puts_before earlier]
        rfl

/-- What is read behind the pieces is what was there before. -/
theorem read_out_laid_out (before : Nat → Item) (pieces : List (List Item)) (extra : Nat) :
    readOut (contents before (laidOut 0 pieces)) (pieces.flatten.length + extra) =
      pieces.flatten ++ readOut (fun place => before (pieces.flatten.length + place)) extra := by
  unfold readOut
  rw [List.range_add, List.map_append, List.map_map]
  congr 1
  · apply List.ext_getElem
    · rw [List.length_map, List.length_range]
    · intro place _ inside
      rw [List.getElem_map, List.getElem_range, laid_out_contents, puts_inside (Nat.zero_le place)]
      dsimp only
      rw [Nat.sub_zero, List.getElem?_eq_getElem inside]
      rfl
  · apply List.map_congr_left
    intro place _
    dsimp only [Function.comp]
    rw [laid_out_contents, puts_behind (by dsimp only; omega)]
    rfl

theorem contents_append (before : Nat → Item) (first second : List (Write Item)) :
    contents before (first ++ second) = contents (contents before first) second := by
  induction first generalizing before with
  | nil => rfl
  | cons write rest induction => exact induction _

/-- A head that is written last stands before the pieces behind it. -/
theorem read_out_head_last (before : Nat → Item) (head : List Item) (pieces : List (List Item)) :
    readOut (contents before (laidOut head.length pieces ++ [{ place := 0, items := head }]))
        (head.length + pieces.flatten.length) =
      head ++ pieces.flatten := by
  unfold readOut
  rw [contents_append]
  apply List.ext_getElem
  · rw [List.length_map, List.length_range, List.length_append]
  · intro place _ inside
    rw [List.getElem_map, List.getElem_range, contents, contents, laid_out_contents,
      puts_inside (Nat.zero_le place)]
    dsimp only
    rw [Nat.sub_zero]
    by_cases first : place < head.length
    · rw [List.getElem_append_left first, List.getElem?_eq_getElem first]
      rfl
    · rw [List.length_append] at inside
      have nothing : head[place]? = none := List.getElem?_eq_none (by omega)
      rw [nothing, puts_inside (by dsimp only; omega), List.getElem_append_right (by omega)]
      dsimp only
      rw [List.getElem?_eq_getElem (by omega)]
      rfl

end LaidOut

/-- A write behind what has been read so far adds to it. -/
theorem read_out_behind (before : Nat → Item) (size : Nat) (items : List Item) :
    readOut (contents before [{ place := size, items := items }]) (size + items.length) =
      readOut before size ++ items := by
  unfold readOut
  rw [List.range_add, List.map_append, List.map_map]
  congr 1
  · apply List.map_congr_left
    intro place inside
    rw [contents, contents, puts_before (List.mem_range.mp inside)]
    rfl
  · apply List.ext_getElem
    · rw [List.length_map, List.length_range]
    · intro place _ inside
      rw [List.getElem_map, List.getElem_range]
      dsimp only [Function.comp]
      rw [contents, contents, puts_inside (Nat.le_add_right size place)]
      dsimp only
      rw [Nat.add_sub_cancel_left, List.getElem?_eq_getElem inside]
      rfl

end ByteBuffer
