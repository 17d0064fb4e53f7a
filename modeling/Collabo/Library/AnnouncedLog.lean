import Mathlib.Tactic.TypeStar

/-!
# Logs whose data are announced

Some messages of a log are headers and some carry data. A datum is announced
when the last header before it announces it. What follows the log may repeat a
message, as a broadcast to a list of receivers does.
-/

namespace AnnouncedLog

set_option autoImplicit false

variable {Msg Header Data : Type*} (headerOf : Msg → Option Header) (dataOf : Msg → Option Data)
  (announces : Header → Data → Prop)

def lastHeader (log : List Msg) : Option Header := (log.filterMap headerOf).getLast?

/-- Every datum of the log is announced by the last header before it. -/
def Announced (log : List Msg) : Prop :=
  ∀ earlier msg later data, log = earlier ++ msg :: later → dataOf msg = some data →
    ∃ header, lastHeader headerOf earlier = some header ∧ announces header data

section Rules

variable {headerOf : Msg → Option Header} {dataOf : Msg → Option Data}
  {announces : Header → Data → Prop} {log more : List Msg} {msg : Msg}

theorem last_header_append (log more : List Msg) :
    lastHeader headerOf (log ++ more) =
      (lastHeader headerOf more).or (lastHeader headerOf log) := by
  unfold lastHeader
  rw [List.filterMap_append, List.getLast?_append]

theorem last_header_unchanged (log : List Msg) (silent : ∀ msg ∈ more, headerOf msg = none) :
    lastHeader headerOf (log ++ more) = lastHeader headerOf log := by
  have none : more.filterMap headerOf = [] := List.filterMap_eq_nil_iff.mpr silent
  rw [last_header_append, lastHeader, none]
  rfl

theorem last_header_repeated (log : List Msg) {header : Header} (shown : headerOf msg = some header)
    {copies : Nat} (sent : copies ≠ 0) :
    lastHeader headerOf (log ++ List.replicate copies msg) = some header := by
  rcases Nat.exists_eq_succ_of_ne_zero sent with ⟨fewer, rfl⟩
  have last : lastHeader headerOf (List.replicate fewer.succ msg) = some header := by
    unfold lastHeader
    rw [List.replicate_succ', List.filterMap_append, List.getLast?_append]
    simp [shown]
  rw [last_header_append, last]
  rfl

theorem announced_nil : Announced headerOf dataOf announces [] := by
  intro earlier msg later data same
  exact absurd same (by simp)

theorem announced_append (announced : Announced headerOf dataOf announces log)
    (tail : ∀ earlier msg later data, more = earlier ++ msg :: later → dataOf msg = some data →
      ∃ header, lastHeader headerOf (log ++ earlier) = some header ∧ announces header data) :
    Announced headerOf dataOf announces (log ++ more) := by
  intro earlier msg later data same carried
  rcases List.append_eq_append_iff.mp same with ⟨front, rfl, rest⟩ | ⟨back, split, rest⟩
  · exact tail front msg later data rest carried
  · cases back with
    | nil =>
        rw [List.append_nil] at split
        rw [← split]
        have alone := tail [] msg later data rest.symm carried
        rwa [List.append_nil] at alone
    | cons head back =>
        rcases List.cons.inj rest with ⟨rfl, -⟩
        exact announced earlier msg back data split carried

/-- Messages without data need no announcement. -/
theorem announced_append_dataless (announced : Announced headerOf dataOf announces log)
    (dataless : ∀ msg ∈ more, dataOf msg = none) :
    Announced headerOf dataOf announces (log ++ more) := by
  apply announced_append announced
  intro earlier msg later data same carried
  have missing := dataless msg (by rw [same]; exact List.mem_append_right _ List.mem_cons_self)
  rw [missing] at carried
  cases carried

/-- Data that the last header announces may follow, as often as it likes. -/
theorem announced_append_data (announced : Announced headerOf dataOf announces log)
    {header : Header} (last : lastHeader headerOf log = some header)
    (silent : ∀ msg ∈ more, headerOf msg = none)
    (covered : ∀ msg ∈ more, ∀ data, dataOf msg = some data → announces header data) :
    Announced headerOf dataOf announces (log ++ more) := by
  apply announced_append announced
  intro earlier msg later data same carried
  refine ⟨header, ?_, ?_⟩
  · rw [last_header_unchanged, last]
    intro other member
    apply silent
    rw [same]
    exact List.mem_append_left _ member
  · apply covered msg _ data carried
    rw [same]
    exact List.mem_append_right _ List.mem_cons_self

theorem announced_last (announced : Announced headerOf dataOf announces log) {data : Data}
    (last : log.getLast?.bind dataOf = some data) :
    ∃ header, lastHeader headerOf log.dropLast = some header ∧ announces header data := by
  rcases Option.bind_eq_some_iff.mp last with ⟨msg, isLast, carried⟩
  rcases List.getLast?_eq_some_iff.mp isLast with ⟨earlier, rfl⟩
  rw [List.dropLast_concat]
  exact announced earlier msg [] data rfl carried

end Rules

end AnnouncedLog
