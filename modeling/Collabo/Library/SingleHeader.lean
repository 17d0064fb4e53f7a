import Mathlib.Data.List.Basic
import Mathlib.Tactic.Common

/-!
# Logs with one header

A log is opened by its header: nothing before it is a header or carries data,
and nothing after it is a header.
-/

namespace SingleHeader

set_option autoImplicit false

variable {Msg Header Data : Type*} (headerOf : Msg → Option Header) (dataOf : Msg → Option Data)

/-- The log has neither a header nor data. -/
def Quiet (log : List Msg) : Prop := ∀ msg ∈ log, headerOf msg = none ∧ dataOf msg = none

def Opened (log : List Msg) : Prop :=
  ∃ earlier msg later, log = earlier ++ msg :: later ∧ Quiet headerOf dataOf earlier ∧
    headerOf msg ≠ none ∧ ∀ other ∈ later, headerOf other = none

/-- A log with data has exactly one header, before the first datum. -/
def HeaderFirst (log : List Msg) : Prop :=
  (∃ msg ∈ log, dataOf msg ≠ none) → Opened headerOf dataOf log

section Rules

variable {headerOf : Msg → Option Header} {dataOf : Msg → Option Data} {log more : List Msg}
  {msg : Msg}

theorem quiet_nil : Quiet headerOf dataOf [] := by
  intro msg member
  cases member

theorem quiet_append (quiet : Quiet headerOf dataOf log) (added : Quiet headerOf dataOf more) :
    Quiet headerOf dataOf (log ++ more) := by
  intro msg member
  exact (List.mem_append.mp member).elim (quiet msg) (added msg)

theorem quiet_replicate (copies : Nat) (noHeader : headerOf msg = none)
    (noData : dataOf msg = none) : Quiet headerOf dataOf (List.replicate copies msg) := by
  intro other member
  rw [List.eq_of_mem_replicate member]
  exact ⟨noHeader, noData⟩

/-- What follows an opened log may carry data. -/
theorem opened_append (opened : Opened headerOf dataOf log)
    (noHeader : ∀ msg ∈ more, headerOf msg = none) : Opened headerOf dataOf (log ++ more) := by
  rcases opened with ⟨earlier, header, later, rfl, quiet, isHeader, after⟩
  refine ⟨earlier, header, later ++ more, by simp, quiet, isHeader, ?_⟩
  intro msg member
  exact (List.mem_append.mp member).elim (after msg) (noHeader msg)

theorem opened_of_quiet (quiet : Quiet headerOf dataOf log) (isHeader : headerOf msg ≠ none) :
    Opened headerOf dataOf (log ++ [msg]) := by
  refine ⟨log, msg, [], rfl, quiet, isHeader, ?_⟩
  intro other member
  cases member

theorem opened_single (opened : Opened headerOf dataOf log) :
    (log.filterMap headerOf).length = 1 := by
  rcases opened with ⟨earlier, msg, later, rfl, quiet, isHeader, after⟩
  have before : earlier.filterMap headerOf = [] :=
    List.filterMap_eq_nil_iff.mpr (fun other member => (quiet other member).1)
  have behind : later.filterMap headerOf = [] := List.filterMap_eq_nil_iff.mpr after
  rcases Option.ne_none_iff_exists'.mp isHeader with ⟨header, carried⟩
  rw [List.filterMap_append, before, List.nil_append, List.filterMap_cons_some carried, behind]
  rfl

theorem header_first_of_quiet (quiet : Quiet headerOf dataOf log) :
    HeaderFirst headerOf dataOf log := by
  rintro ⟨msg, member, carried⟩
  exact absurd (quiet msg member).2 carried

theorem header_first_append (first : HeaderFirst headerOf dataOf log)
    (added : Quiet headerOf dataOf more) : HeaderFirst headerOf dataOf (log ++ more) := by
  rintro ⟨msg, member, carried⟩
  rcases List.mem_append.mp member with before | isNew
  · have opened := first ⟨msg, before, carried⟩
    exact opened_append opened fun other isAdded => (added other isAdded).1
  · exact absurd (added msg isNew).2 carried

theorem header_first_of_opened (opened : Opened headerOf dataOf log) :
    HeaderFirst headerOf dataOf log :=
  fun _ => opened

end Rules

end SingleHeader
