import Mathlib.Algebra.Order.BigOperators.Group.List
import Mathlib.Algebra.Order.Ring.Int
import Mathlib.Tactic.Common

/-!
# C integers

An `int` has 32 bits and a `size_t` 64. A conversion keeps the low bits. A sum
or a product of `int`s that does not fit one is undefined.
-/

namespace Collabo.CInt

set_option autoImplicit false

/-- An `int` that a sum was stored in. -/
def wrapInt (value : Int) : Int := Int.bmod value (2 ^ 32)

def FitsInt (value : Int) : Prop := -2 ^ 31 ≤ value ∧ value < 2 ^ 31

instance (value : Int) : Decidable (FitsInt value) := inferInstanceAs (Decidable (_ ∧ _))

/-- A length that is passed as a `size_t`. -/
def sizeT (value : Int) : Nat := (value % 2 ^ 64).toNat

/-- The four bytes of an `int` in memory, the lowest first. -/
def intBytes (value : Int) : List UInt8 :=
  [0, 1, 2, 3].map fun index => UInt8.ofNat (value / 256 ^ index % 256).toNat

def longBytes (value : Int) : List UInt8 :=
  [0, 1, 2, 3, 4, 5, 6, 7].map fun index => UInt8.ofNat (value / 256 ^ index % 256).toNat

def intOf (bytes : List UInt8) : Int :=
  wrapInt (bytes.foldr (fun byte higher => (byte.toNat : Int) + 256 * higher) 0)

def intSum : Int → List Int → Option Int
  | sum, [] => some sum
  | sum, next :: rest => if FitsInt (sum + next) then intSum (sum + next) rest else none

theorem wrap_int_fits {value : Int} (lower : -2 ^ 31 ≤ value) (upper : value < 2 ^ 31) :
    wrapInt value = value := Int.bmod_eq_of_le (by omega) (by omega)

theorem wrap_int_add (value added : Int) :
    wrapInt (wrapInt value + added) = wrapInt (value + added) := Int.bmod_add_bmod

theorem wrap_int_wrap (value : Int) : wrapInt (wrapInt value) = wrapInt value := by
  have again := wrap_int_add value 0
  rw [Int.add_zero, Int.add_zero] at again
  exact again

theorem wrap_int_lt (value : Int) : wrapInt value < 2 ^ 31 :=
  Int.bmod_lt (by decide)

theorem int_bytes_length (value : Int) : (intBytes value).length = 4 := rfl

theorem byte_of_residue {residue : Int} (lower : 0 ≤ residue) (upper : residue < 256) :
    ((UInt8.ofNat residue.toNat).toNat : Int) = residue := by
  rw [UInt8.toNat_ofNat']
  omega

theorem int_of_int_bytes {value : Int} (fits : FitsInt value) : intOf (intBytes value) = value := by
  rcases fits with ⟨lower, upper⟩
  have digit : ∀ index : Nat,
      ((UInt8.ofNat (value / 256 ^ index % 256).toNat).toNat : Int) = value / 256 ^ index % 256 :=
    fun index => byte_of_residue (Int.emod_nonneg _ (by decide)) (Int.emod_lt_of_pos _ (by decide))
  have unsigned : (intBytes value).foldr (fun byte higher => (byte.toNat : Int) + 256 * higher) 0 =
      value % 2 ^ 32 := by
    simp only [intBytes, List.map_cons, List.map_nil, List.foldr_cons, List.foldr_nil, digit]
    omega
  unfold intOf
  rw [unsigned]
  exact (Int.emod_bmod value (2 ^ 32)).trans (wrap_int_fits lower upper)

theorem int_sum_eq {sum total : Int} {added : List Int} (summed : intSum sum added = some total) :
    total = sum + added.sum := by
  induction added generalizing sum with
  | nil =>
      rw [List.sum_nil, Int.add_zero]
      exact (Option.some.inj summed).symm
  | cons next rest induction =>
      rw [intSum] at summed
      split_ifs at summed
      rw [induction summed, List.sum_cons, Int.add_assoc]

theorem int_sum_fits {sum total : Int} {added : List Int} (fits : FitsInt sum)
    (summed : intSum sum added = some total) : FitsInt total := by
  induction added generalizing sum with
  | nil =>
      rw [← Option.some.inj summed]
      exact fits
  | cons next rest induction =>
      rw [intSum] at summed
      split_ifs at summed with sumFits
      exact induction sumFits summed

theorem int_sum_some {sum : Int} {added : List Int} (start : 0 ≤ sum)
    (nonnegative : ∀ next ∈ added, 0 ≤ next) (small : sum + added.sum < 2 ^ 31) :
    intSum sum added = some (sum + added.sum) := by
  induction added generalizing sum with
  | nil => rw [intSum, List.sum_nil, Int.add_zero]
  | cons next rest induction =>
      have head := nonnegative next List.mem_cons_self
      have tail := fun other member => nonnegative other (List.mem_cons_of_mem next member)
      have rest_sum : 0 ≤ rest.sum := List.sum_nonneg tail
      rw [List.sum_cons] at small ⊢
      rw [intSum, if_pos ⟨by omega, by omega⟩, induction (by omega) tail (by omega),
        Int.add_assoc]

end Collabo.CInt
