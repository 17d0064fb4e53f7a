import Mathlib.Data.List.Basic
import Mathlib.Tactic.Common

/-!
# Tables of threads

The threads that a program started and detached, each under the number of its
start. A step of a thread replaces its entry, and a new thread goes to the end.
-/

namespace ThreadTable

set_option autoImplicit false

variable {Thread : Type*}

/-- At most one entry is of the kind. -/
def AtMostOne (kind : Thread → Prop) (threads : List Thread) : Prop :=
  ∀ (left right : Nat) leftThread rightThread, threads[left]? = some leftThread →
    threads[right]? = some rightThread → kind leftThread → kind rightThread → left = right

section Rules

variable {kind : Thread → Prop} {threads : List Thread} {number : Nat} {thread next : Thread}

theorem at_most_one_nil : AtMostOne kind ([] : List Thread) := by
  intro left right leftThread rightThread found
  simp at found

theorem at_most_one_of_none (none : ∀ entry ∈ threads, ¬kind entry) : AtMostOne kind threads := by
  intro left right leftThread rightThread found _ isKind
  exact absurd isKind (none leftThread (List.mem_of_getElem? found))

theorem at_most_one_set (one : AtMostOne kind threads) (found : threads[number]? = some thread)
    (kept : kind next → kind thread) : AtMostOne kind (threads.set number next) := by
  have before : ∀ (index : Nat) entry, (threads.set number next)[index]? = some entry → kind entry →
      ∃ prior, threads[index]? = some prior ∧ kind prior := by
    intro index entry entryFound isKind
    rw [List.getElem?_set] at entryFound
    split_ifs at entryFound with same inside
    · rw [← Option.some.inj entryFound] at isKind
      exact ⟨thread, same ▸ found, kept isKind⟩
    · exact ⟨entry, entryFound, isKind⟩
  intro left right leftThread rightThread leftFound rightFound leftKind rightKind
  rcases before left leftThread leftFound leftKind with ⟨leftPrior, leftBefore, leftWas⟩
  rcases before right rightThread rightFound rightKind with ⟨rightPrior, rightBefore, rightWas⟩
  exact one left right leftPrior rightPrior leftBefore rightBefore leftWas rightWas

theorem at_most_one_map {change : Thread → Thread} (one : AtMostOne kind threads)
    (kept : ∀ entry, kind (change entry) → kind entry) : AtMostOne kind (threads.map change) := by
  intro left right leftThread rightThread leftFound rightFound leftKind rightKind
  rw [List.getElem?_map, Option.map_eq_some_iff] at leftFound rightFound
  rcases leftFound with ⟨leftPrior, leftBefore, rfl⟩
  rcases rightFound with ⟨rightPrior, rightBefore, rfl⟩
  exact one left right leftPrior rightPrior leftBefore rightBefore (kept _ leftKind)
    (kept _ rightKind)

/-- A new thread of the kind keeps the bound just when there was none before it. -/
theorem at_most_one_append_iff (isKind : kind next) :
    AtMostOne kind (threads ++ [next]) ↔ ∀ entry ∈ threads, ¬kind entry := by
  have last : (threads ++ [next])[threads.length]? = some next := by simp
  constructor
  · intro appended entry member entryKind
    rcases List.mem_iff_getElem?.mp member with ⟨index, found⟩
    have inside : index < threads.length := (List.getElem?_eq_some_iff.mp found).1
    have sameEntry : (threads ++ [next])[index]? = some entry := by
      rw [List.getElem?_append_left inside]
      exact found
    have same := appended index threads.length entry next sameEntry last entryKind isKind
    omega
  · intro none
    have atEnd : ∀ (index : Nat) entry, (threads ++ [next])[index]? = some entry → kind entry →
        index = threads.length := by
      intro index entry found entryKind
      by_cases inside : index < threads.length
      · rw [List.getElem?_append_left inside] at found
        exact absurd entryKind (none entry (List.mem_of_getElem? found))
      · have bound := (List.getElem?_eq_some_iff.mp found).1
        simp only [List.length_append, List.length_singleton] at bound
        omega
    intro left right leftThread rightThread leftFound rightFound leftKind rightKind
    rw [atEnd left leftThread leftFound leftKind, atEnd right rightThread rightFound rightKind]

theorem at_most_one_append_other (one : AtMostOne kind threads) (other : ¬kind next) :
    AtMostOne kind (threads ++ [next]) := by
  have before : ∀ (index : Nat) entry, (threads ++ [next])[index]? = some entry → kind entry →
      threads[index]? = some entry := by
    intro index entry found isKind
    by_cases inside : index < threads.length
    · rw [List.getElem?_append_left inside] at found
      exact found
    · rw [List.getElem?_append_right (by omega)] at found
      have member := List.mem_of_getElem? found
      rw [List.mem_singleton.mp member] at isKind
      exact absurd isKind other
  intro left right leftThread rightThread leftFound rightFound leftKind rightKind
  exact one left right leftThread rightThread (before left leftThread leftFound leftKind)
    (before right rightThread rightFound rightKind) leftKind rightKind

/-- While one thread of the kind takes a step, no other entry is of the kind. -/
theorem other_of_at_most_one (one : AtMostOne kind threads)
    (found : threads[number]? = some thread) (isKind : kind thread) {entry : Thread}
    (member : entry ∈ threads.set number next) : entry = next ∨ ¬kind entry := by
  rcases List.mem_iff_getElem?.mp member with ⟨index, entryFound⟩
  rw [List.getElem?_set] at entryFound
  split_ifs at entryFound with same inside
  · exact .inl (Option.some.inj entryFound).symm
  · refine .inr fun entryKind => same ?_
    exact one number index thread entry found entryFound isKind entryKind

end Rules

end ThreadTable
