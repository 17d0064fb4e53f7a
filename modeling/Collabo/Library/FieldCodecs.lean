import Mathlib.Data.List.Basic
import Mathlib.Tactic.Common

/-!
# Codecs of fields

A codec writes a value and reads it back from the front of an input, whatever
stands behind it. Codecs are put one behind the other, where the second may
depend on what the first has read, and records are read until the input ends.
-/

namespace FieldCodecs

set_option autoImplicit false

variable {Item Value First Second : Type*}

structure Codec (Item Value : Type*) where
  encode : Value → List Item
  read : List Item → Option (Value × List Item)
  valid : Value → Prop
  read_encode : ∀ value, valid value → ∀ rest, read (encode value ++ rest) = some (value, rest)

def Codec.whole (codec : Codec Item Value) (input : List Item) : Option Value :=
  match codec.read input with
  | some (value, []) => some value
  | some (_, _ :: _) => none
  | none => none

/-- At most `fuel` values, until the input ends. -/
def Codec.records (codec : Codec Item Value) : Nat → List Item → Option (List Value)
  | _, [] => some []
  | 0, _ :: _ => none
  | fuel + 1, item :: rest =>
      match codec.read (item :: rest) with
      | some (value, later) => (codec.records fuel later).map fun values => value :: values
      | none => none

/-- Each value takes at least one item. -/
def Codec.all (codec : Codec Item Value) (input : List Item) : Option (List Value) :=
  codec.records input.length input

def items (count : Nat) : Codec Item (List Item) where
  encode value := value
  read input :=
    if count ≤ input.length then some (input.take count, input.drop count) else none
  valid value := value.length = count
  read_encode := by
    intro value valid rest
    rw [if_pos (by rw [List.length_append]; omega), ← valid, List.take_left, List.drop_left]

def constant [DecidableEq Item] (expected : Item) : Codec Item Unit where
  encode _ := [expected]
  read
    | [] => none
    | item :: rest => if item = expected then some ((), rest) else none
  valid _ := True
  read_encode := by
    intro _ _ rest
    exact if_pos rfl

def Codec.andThen (first : Codec Item First) (second : First → Codec Item Second) :
    Codec Item (First × Second) where
  encode value := first.encode value.1 ++ (second value.1).encode value.2
  read input :=
    match first.read input with
    | some (head, later) => ((second head).read later).map fun tail => ((head, tail.1), tail.2)
    | none => none
  valid value := first.valid value.1 ∧ (second value.1).valid value.2
  read_encode := by
    intro value valid rest
    rw [List.append_assoc, first.read_encode value.1 valid.1]
    dsimp only
    rw [(second value.1).read_encode value.2 valid.2]
    rfl

def Codec.pair (first : Codec Item First) (second : Codec Item Second) :
    Codec Item (First × Second) := first.andThen fun _ => second

/-- A value that is written as its fields. It is valid where they give it back. -/
def Codec.built (codec : Codec Item First) (fields : Value → First) (build : First → Value) :
    Codec Item Value where
  encode value := codec.encode (fields value)
  read input := (codec.read input).map fun parsed => (build parsed.1, parsed.2)
  valid value := codec.valid (fields value) ∧ build (fields value) = value
  read_encode := by
    intro value valid rest
    rw [codec.read_encode (fields value) valid.1, Option.map_some, valid.2]

section Encodes

variable {codec : Codec Item First}

@[simp]
theorem items_encode (count : Nat) (value : List Item) : (items count).encode value = value := rfl

@[simp]
theorem constant_encode [DecidableEq Item] (expected : Item) :
    (constant expected).encode () = [expected] := rfl

@[simp]
theorem and_then_encode (second : First → Codec Item Second) (value : First × Second) :
    (codec.andThen second).encode value =
      codec.encode value.1 ++ (second value.1).encode value.2 := rfl

@[simp]
theorem pair_encode (second : Codec Item Second) (value : First × Second) :
    (codec.pair second).encode value = codec.encode value.1 ++ second.encode value.2 := rfl

@[simp]
theorem built_encode (fields : Value → First) (build : First → Value) (value : Value) :
    (codec.built fields build).encode value = codec.encode (fields value) := rfl

end Encodes

section Reads

variable {codec : Codec Item Value}

theorem whole_encode {value : Value} (valid : codec.valid value) :
    codec.whole (codec.encode value) = some value := by
  have read := codec.read_encode value valid []
  rw [List.append_nil] at read
  unfold Codec.whole
  rw [read]

theorem records_encode {values : List Value} (valid : ∀ value ∈ values, codec.valid value)
    (nonempty : ∀ value ∈ values, codec.encode value ≠ []) {fuel : Nat}
    (enough : (values.map codec.encode).flatten.length ≤ fuel) :
    codec.records fuel (values.map codec.encode).flatten = some values := by
  induction values generalizing fuel with
  | nil => rw [List.map_nil, List.flatten_nil, Codec.records]
  | cons value values induction =>
      rw [List.map_cons, List.flatten_cons] at enough ⊢
      have read := codec.read_encode value (valid value List.mem_cons_self)
        (values.map codec.encode).flatten
      cases written : codec.encode value with
      | nil => exact absurd written (nonempty value List.mem_cons_self)
      | cons item rest =>
          rw [written, List.cons_append] at enough read
          rw [List.cons_append]
          cases fuel with
          | zero =>
              rw [List.length_cons] at enough
              omega
          | succ fuel =>
              rw [Codec.records, read]
              dsimp only
              rw [induction (fun other member => valid other (List.mem_cons_of_mem _ member))
                (fun other member => nonempty other (List.mem_cons_of_mem _ member))]
              · rfl
              · rw [List.length_cons, List.length_append] at enough
                omega

theorem all_encode {values : List Value} (valid : ∀ value ∈ values, codec.valid value)
    (nonempty : ∀ value ∈ values, codec.encode value ≠ []) :
    codec.all (values.map codec.encode).flatten = some values :=
  records_encode valid nonempty (Nat.le_refl _)

end Reads

end FieldCodecs
