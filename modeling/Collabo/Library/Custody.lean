import Mathlib.Data.List.Perm.Basic
import Mathlib.Tactic.Common

/-!
# Items in custody

A keeper takes items in and parts with each of them in one of two ways. Its book
is balanced by what it still holds when the items it parted with and those make up
the items it took in, each as many times as it came.
-/

namespace Custody

set_option autoImplicit false

variable {Item : Type*}

structure Book (Item : Type*) where
  accepted : List Item
  delivered : List Item
  released : List Item
  deriving DecidableEq, Repr

def Book.blank : Book Item where
  accepted := []
  delivered := []
  released := []

def Book.accept (book : Book Item) (item : Item) : Book Item :=
  { book with accepted := book.accepted ++ [item] }

def Book.deliver (book : Book Item) (item : Item) : Book Item :=
  { book with delivered := book.delivered ++ [item] }

def Book.release (book : Book Item) (items : List Item) : Book Item :=
  { book with released := book.released ++ items }

/-- How many items the book says are held; items that were never accepted count
against it. -/
def Book.outstanding (book : Book Item) : Int :=
  (book.accepted.length : Int) - book.delivered.length - book.released.length

def Balanced (book : Book Item) (held : List Item) : Prop :=
  (book.delivered ++ book.released ++ held).Perm book.accepted

variable {book : Book Item} {held rest : List Item} {item : Item}

@[simp] theorem accept_outstanding : (book.accept item).outstanding = book.outstanding + 1 := by
  simp only [Book.outstanding, Book.accept, List.length_append, List.length_singleton]
  omega

@[simp] theorem deliver_outstanding : (book.deliver item).outstanding = book.outstanding - 1 := by
  simp only [Book.outstanding, Book.deliver, List.length_append, List.length_singleton]
  omega

theorem blank_balanced : Balanced (Book.blank : Book Item) [] := List.Perm.refl []

theorem accept_balanced (balanced : Balanced book held) :
    Balanced (book.accept item) (held ++ [item]) := by
  unfold Balanced Book.accept
  rw [← List.append_assoc]
  exact balanced.append_right [item]

theorem deliver_balanced (balanced : Balanced book (item :: rest)) :
    Balanced (book.deliver item) rest := by
  have moved : (book.delivered ++ item :: (book.released ++ rest)).Perm
      (book.delivered ++ (book.released ++ item :: rest)) :=
    List.perm_middle.symm.append_left book.delivered
  unfold Balanced at balanced ⊢
  rw [List.append_assoc] at balanced
  simp only [Book.deliver, List.append_assoc, List.singleton_append]
  exact moved.trans balanced

theorem release_balanced (balanced : Balanced book held) : Balanced (book.release held) [] := by
  unfold Balanced Book.release
  rw [List.append_nil, ← List.append_assoc]
  exact balanced

theorem balanced_outstanding (balanced : Balanced book held) :
    book.outstanding = held.length := by
  have counted := balanced.length_eq
  rw [List.length_append, List.length_append] at counted
  unfold Book.outstanding
  omega

end Custody
