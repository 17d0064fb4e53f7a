import Mathlib.Data.Nat.Find
import Collabo.AgentManager

/-!
# Reading the greeting of the agent

The loop of `manageImpl` that fills `recvCheck`, for every stream of bytes and every
sequence of results of its `recv`. A result of zero abandons the connection; a
negative one, which is how a timeout is reported, is printed and the call is made
again.
-/

namespace Collabo.GreetingReads

open PartialRuns Collabo.CString Collabo.AgentManager

set_option autoImplicit false

/-- What one `recv` has to report: the bytes that have arrived, one and so many
more, the end of the stream, or an error, such as that nothing came in time. -/
inductive RecvAnswer where
  | arrived (more : Nat)
  | closed
  | failed
  deriving DecidableEq, Repr

/-- The locals of the loop: the bytes of `recvCheck` that are filled, and the flag. -/
structure GreetingRead where
  recvCheck : ByteString
  isTimeout : Bool
  deriving DecidableEq, Repr

def GreetingRead.Over (read : GreetingRead) : Prop :=
  4 ≤ read.recvCheck.length ∨ read.isTimeout = true

instance (read : GreetingRead) : Decidable read.Over :=
  inferInstanceAs (Decidable (_ ∨ _))

/-- The result of `recv(sock, recvCheck + recved, 4 - recved, 0)`: of the bytes that
have arrived, those that there is room for. `recved` bytes were read before. -/
def recvResult (stream : Nat → UInt8) (recved : Nat) : RecvAnswer → RecvResult
  | .arrived more =>
      .received ((List.range (min (more + 1) (4 - recved))).map fun index =>
        stream (recved + index))
  | .closed => .closed
  | .failed => .failed

def GreetingRead.next (read : GreetingRead) : RecvResult → GreetingRead
  | .received chunk => { read with recvCheck := read.recvCheck ++ chunk }
  | .closed => { read with isTimeout := true }
  | .failed => read

/-- The loop after so many calls of `recv`, or where it was left. -/
def readGreeting (stream : Nat → UInt8) (answers : Nat → RecvAnswer) : Nat → GreetingRead
  | 0 => { recvCheck := [], isTimeout := false }
  | calls + 1 =>
      let read := readGreeting stream answers calls
      if read.Over then read
      else read.next (recvResult stream read.recvCheck.length (answers calls))

def recvCalls (stream : Nat → UInt8) (answers : Nat → RecvAnswer) : Nat → List AgentEvent
  | 0 => []
  | calls + 1 =>
      let read := readGreeting stream answers calls
      recvCalls stream answers calls ++
        if read.Over then []
        else [.recvReturns (recvResult stream read.recvCheck.length (answers calls))]

def manageAfter (loop : AgentLoop) (read : GreetingRead) : AgentLoop :=
  if read.isTimeout then loop.closeSock else loop.receive read.recvCheck

def firstFour (stream : Nat → UInt8) : ByteString := (List.range 4).map stream

def taken : AgentEvent → ByteString
  | .recvReturns (.received chunk) => chunk
  | .recvReturns .closed => []
  | .recvReturns .failed => []
  | .tests => []
  | .socketReturns _ => []
  | .connectReturns _ => []
  | .sendReturns _ => []
  | .stop => []

section Ends

variable (stream : Nat → UInt8) (answers : Nat → RecvAnswer) (loop left : AgentLoop)

/-- `recvCheck` is filled with the first four bytes after so many calls, nothing else
was taken off the connection, and no call was one more after an error. -/
structure Filled (calls : Nat) : Prop where
  recvCheck : (readGreeting stream answers calls).recvCheck = firstFour stream
  taken : (recvCalls stream answers calls).flatMap taken = firstFour stream
  unfailed : ∀ call < calls, answers call ≠ .failed
  kept : left = loop.receive (firstFour stream)

/-- The last call of the loop is the first one to report the end or an error, and the
socket is closed. -/
structure Abandoned (last : Nat) : Prop where
  called : ¬(readGreeting stream answers last).Over
  reported : answers last = .closed ∨ answers last = .failed
  unfailed : ∀ call < last, answers call ≠ .failed
  closed : left = loop.closeSock

end Ends

def GreetingEnds (meeting : Meeting) (loop : AgentLoop) (stream : Nat → UInt8)
    (answers : Nat → RecvAnswer) : Prop :=
  ∃ last left,
    (recvCalls stream answers (last + 1)).foldlM (step meeting)
      { loop with place := .receives [] } = some left ∧
    (Filled stream answers loop left (last + 1) ∨ Abandoned stream answers loop left last)

def brought : RecvAnswer → Nat
  | .arrived more => more + 1
  | .closed => 0
  | .failed => 0

def broughtBy (answers : Nat → RecvAnswer) (calls : Nat) : Nat :=
  ((List.range calls).map fun call => brought (answers call)).sum

/-- No call fails before four bytes have come or the end of the stream is reported. -/
def Unfailing (answers : Nat → RecvAnswer) : Prop :=
  ∀ call, answers call = .failed →
    4 ≤ broughtBy answers call ∨ ∃ earlier < call, answers earlier = .closed

section Calls

variable {stream : Nat → UInt8} {answers : Nat → RecvAnswer} {read : GreetingRead}

theorem not_over_iff : ¬read.Over ↔ read.recvCheck.length < 4 ∧ read.isTimeout = false := by
  unfold GreetingRead.Over
  rw [not_or, Nat.not_le, Bool.not_eq_true]

theorem over_filled (ended : read.Over) (untimed : read.isTimeout = false) :
    4 ≤ read.recvCheck.length := by
  rcases ended with filled | timed
  · exact filled
  · rw [untimed] at timed
    cases timed

theorem arrived_length (read : GreetingRead) (more : Nat) :
    (read.next (recvResult stream read.recvCheck.length (.arrived more))).recvCheck.length =
      read.recvCheck.length + min (more + 1) (4 - read.recvCheck.length) := by
  change (read.recvCheck ++ List.map _ (List.range _)).length = _
  rw [List.length_append, List.length_map, List.length_range]

theorem start_reading : ¬(readGreeting stream answers 0).Over :=
  not_over_iff.mpr ⟨Nat.zero_lt_succ 3, rfl⟩

theorem read_over {calls : Nat} (ended : (readGreeting stream answers calls).Over) :
    readGreeting stream answers (calls + 1) = readGreeting stream answers calls :=
  if_pos ended

theorem read_next {calls : Nat} (reading : ¬(readGreeting stream answers calls).Over) :
    readGreeting stream answers (calls + 1) =
      (readGreeting stream answers calls).next
        (recvResult stream (readGreeting stream answers calls).recvCheck.length
          (answers calls)) :=
  if_neg reading

/-- What holds at the beginning and is kept by each call on a loop that goes on,
holds of the locals and the calls made. -/
theorem reads_induction {motive : GreetingRead → List AgentEvent → Prop}
    (start : motive { recvCheck := [], isTimeout := false } [])
    (next : ∀ (read : GreetingRead) (made : List AgentEvent) (answer : RecvAnswer), ¬read.Over →
      motive read made →
        motive (read.next (recvResult stream read.recvCheck.length answer))
          (made ++ [.recvReturns (recvResult stream read.recvCheck.length answer)]))
    (calls : Nat) :
    motive (readGreeting stream answers calls) (recvCalls stream answers calls) := by
  induction calls with
  | zero => exact start
  | succ calls induction =>
      by_cases ended : (readGreeting stream answers calls).Over
      · rw [read_over ended, recvCalls, if_pos ended, List.append_nil]
        exact induction
      · rw [read_next ended, recvCalls, if_neg ended]
        exact next _ _ (answers calls) ended induction

theorem manage_step (meeting : Meeting) (loop : AgentLoop) (reading : ¬read.Over)
    (answer : RecvAnswer) :
    step meeting (manageAfter loop read)
        (.recvReturns (recvResult stream read.recvCheck.length answer)) =
      some (manageAfter loop (read.next (recvResult stream read.recvCheck.length answer))) := by
  obtain ⟨short, untimed⟩ := not_over_iff.mp reading
  have here : manageAfter loop read = { loop with place := .receives read.recvCheck } := by
    rw [manageAfter, if_neg (by simp [untimed]), AgentLoop.receive, if_pos short]
  rw [here]
  cases answer with
  | failed =>
      rw [recvResult, GreetingRead.next, here]
      rfl
  | closed => rfl
  | arrived more =>
      have fits : 0 < min (more + 1) (4 - read.recvCheck.length) ∧
          min (more + 1) (4 - read.recvCheck.length) ≤ 4 - read.recvCheck.length := by
        omega
      simp only [recvResult, step, recvStep, List.length_map, List.length_range, if_pos fits,
        GreetingRead.next, manageAfter, untimed, Bool.false_eq_true, if_false]
      rfl

theorem run_reads (meeting : Meeting) (loop : AgentLoop) (calls : Nat) :
    (recvCalls stream answers calls).foldlM (step meeting) { loop with place := .receives [] } =
      some (manageAfter loop (readGreeting stream answers calls)) := by
  refine @reads_induction stream answers (fun read made => made.foldlM (step meeting)
    { loop with place := .receives [] } = some (manageAfter loop read)) rfl ?_ calls
  intro read made answer reading ran
  rw [List.foldlM_append, ran]
  change List.foldlM (step meeting) _ [_] = _
  rw [List.foldlM_cons, manage_step meeting loop reading answer]
  rfl

theorem first_bytes_read (calls : Nat) :
    (readGreeting stream answers calls).recvCheck.length ≤ 4 ∧
      (readGreeting stream answers calls).recvCheck =
        (List.range (readGreeting stream answers calls).recvCheck.length).map stream := by
  refine @reads_induction stream answers (fun read _ => read.recvCheck.length ≤ 4 ∧
    read.recvCheck = (List.range read.recvCheck.length).map stream) ⟨Nat.zero_le 4, rfl⟩ ?_ calls
  intro read _ answer reading induction
  cases answer with
  | closed => exact induction
  | failed => exact induction
  | arrived more =>
      obtain ⟨bounded, same⟩ := induction
      rw [arrived_length]
      refine ⟨by omega, ?_⟩
      rw [List.range_add, List.map_append, List.map_map, ← same]
      rfl

theorem taken_reads (calls : Nat) :
    (recvCalls stream answers calls).flatMap taken =
      (readGreeting stream answers calls).recvCheck := by
  refine @reads_induction stream answers (fun read made => made.flatMap taken = read.recvCheck)
    rfl ?_ calls
  intro read made answer reading induction
  rw [List.flatMap_append, induction, List.flatMap_singleton]
  cases answer with
  | closed => exact List.append_nil _
  | failed => exact List.append_nil _
  | arrived more => rfl

theorem brought_by_succ (calls : Nat) :
    broughtBy answers (calls + 1) = broughtBy answers calls + brought (answers calls) := by
  unfold broughtBy
  rw [List.range_succ, List.map_append, List.sum_append, List.map_singleton, List.sum_singleton]

/-- A loop that goes on has read all that was brought, and none of its calls
reported the end. -/
theorem reading_brought {calls : Nat} (reading : ¬(readGreeting stream answers calls).Over) :
    (readGreeting stream answers calls).recvCheck.length = broughtBy answers calls ∧
      ∀ call < calls, answers call ≠ .closed := by
  induction calls with
  | zero => exact ⟨rfl, fun _ none => absurd none (Nat.not_lt_zero _)⟩
  | succ calls induction =>
      by_cases ended : (readGreeting stream answers calls).Over
      · rw [read_over ended] at reading
        exact absurd ended reading
      · rw [read_next ended] at reading ⊢
        obtain ⟨length, unclosed⟩ := induction ended
        have answered : answers calls ≠ .closed := by
          intro closed
          rw [closed] at reading
          exact reading (.inr rfl)
        have before : ∀ call < calls + 1, answers call ≠ .closed := by
          intro call earlier
          rcases Nat.lt_succ_iff_lt_or_eq.mp earlier with prior | same
          · exact unclosed call prior
          · rw [same]
            exact answered
        refine ⟨?_, before⟩
        rw [brought_by_succ]
        cases answer : answers calls with
        | closed => exact absurd answer answered
        | failed => exact length
        | arrived more =>
            rw [answer] at reading
            have short := (not_over_iff.mp reading).1
            rw [arrived_length] at short ⊢
            rw [brought]
            omega

theorem read_at_most_brought (calls : Nat) :
    (readGreeting stream answers calls).recvCheck.length ≤ broughtBy answers calls := by
  induction calls with
  | zero => exact Nat.le_refl 0
  | succ calls induction =>
      rw [brought_by_succ]
      by_cases ended : (readGreeting stream answers calls).Over
      · rw [read_over ended]
        omega
      · rw [read_next ended]
        cases answer : answers calls with
        | closed => exact Nat.le_add_right_of_le induction
        | failed => exact Nat.le_add_right_of_le induction
        | arrived more =>
            rw [arrived_length, brought]
            omega

theorem brought_by_le {calls later : Nat} (order : calls ≤ later) :
    broughtBy answers calls ≤ broughtBy answers later := by
  induction later, order using Nat.le_induction with
  | base => exact Nat.le_refl _
  | succ later _ induction =>
      rw [brought_by_succ]
      omega

theorem reading_unfailed (unfailing : Unfailing answers) {call : Nat}
    (reading : ¬(readGreeting stream answers call).Over) : answers call ≠ .failed := by
  intro failed
  obtain ⟨length, unclosed⟩ := reading_brought reading
  have short := (not_over_iff.mp reading).1
  rcases unfailing call failed with enough | ⟨earlier, before, closed⟩
  · omega
  · exact unclosed earlier before closed

theorem unfailing_over (unfailing : Unfailing answers) :
    ∃ calls, (readGreeting stream answers calls).Over := by
  by_contra endless
  have reading : ∀ calls, ¬(readGreeting stream answers calls).Over := by
    intro calls ended
    exact endless ⟨calls, ended⟩
  have grows : ∀ calls, calls ≤ broughtBy answers calls := by
    intro calls
    induction calls with
    | zero => exact Nat.zero_le _
    | succ calls induction =>
        rw [brought_by_succ]
        cases answer : answers calls with
        | closed =>
            have unclosed := (reading_brought (reading (calls + 1))).2
            exact absurd answer (unclosed calls (Nat.lt_succ_self calls))
        | failed => exact absurd answer (reading_unfailed unfailing (reading calls))
        | arrived more =>
            rw [brought]
            omega
  have length := (reading_brought (reading 4)).1
  have short := (not_over_iff.mp (reading 4)).1
  have enough := grows 4
  omega

theorem reading_before {calls earlier : Nat} (reading : ¬(readGreeting stream answers calls).Over)
    (order : earlier ≤ calls) : ¬(readGreeting stream answers earlier).Over := by
  intro ended
  apply reading
  induction calls, order using Nat.le_induction with
  | base => exact ended
  | succ calls _ induction =>
      by_cases before : (readGreeting stream answers calls).Over
      · rw [read_over before]
        exact before
      · exact absurd (induction before) before

end Calls

section Ends

variable {stream : Nat → UInt8} {answers : Nat → RecvAnswer} {loop : AgentLoop}

/-- The first call behind which the loop is left ends it in one of the two ways. -/
theorem last_call_ends {last : Nat} (unfailing : Unfailing answers)
    (reading : ¬(readGreeting stream answers last).Over)
    (ended : (readGreeting stream answers (last + 1)).Over) :
    Filled stream answers loop (manageAfter loop (readGreeting stream answers (last + 1)))
        (last + 1) ∨
      Abandoned stream answers loop (manageAfter loop (readGreeting stream answers (last + 1)))
        last := by
  obtain ⟨short, untimed⟩ := not_over_iff.mp reading
  have next := read_next reading
  have unfailed : ∀ call < last + 1, answers call ≠ .failed := by
    intro call before
    exact reading_unfailed unfailing (reading_before reading (Nat.le_of_lt_succ before))
  cases answer : answers last with
  | failed => exact absurd answer (unfailed last (Nat.lt_succ_self last))
  | closed =>
      rw [answer] at next
      refine .inr ⟨reading, .inl answer, ?_, ?_⟩
      · intro call before
        exact unfailed call (Nat.lt_succ_of_lt before)
      · rw [next]
        rfl
  | arrived more =>
      have still : (readGreeting stream answers (last + 1)).isTimeout = false := by
        rw [next, answer]
        exact untimed
      obtain ⟨bounded, same⟩ := @first_bytes_read stream answers (last + 1)
      have filled := over_filled ended still
      have whole : (readGreeting stream answers (last + 1)).recvCheck = firstFour stream := by
        rw [same, Nat.le_antisymm bounded filled]
        rfl
      refine .inl ⟨whole, ?_, unfailed, ?_⟩
      · rw [taken_reads, whole]
      · rw [manageAfter, if_neg (by simp [still]), whole]

theorem failed_goes_on {meeting : Meeting} {left : AgentLoop} {last : Nat}
    (reading : ¬(readGreeting stream answers last).Over) (failed : answers last = .failed)
    (ran : (recvCalls stream answers (last + 1)).foldlM (step meeting)
      { loop with place := .receives [] } = some left) : left ≠ loop.closeSock := by
  intro closed
  have next : readGreeting stream answers (last + 1) = readGreeting stream answers last := by
    rw [read_next reading, failed]
    rfl
  obtain ⟨short, untimed⟩ := not_over_iff.mp reading
  have reads := @run_reads stream answers meeting loop (last + 1)
  rw [ran, next, closed, manageAfter, if_neg (by simp [untimed]), AgentLoop.receive,
    if_pos short] at reads
  have places := congrArg AgentLoop.place (Option.some.inj reads)
  cases places

theorem ends_unfailing {meeting : Meeting} (ends : GreetingEnds meeting loop stream answers) :
    Unfailing answers := by
  obtain ⟨last, left, ran, filled | abandoned⟩ := ends
  · intro call failed
    have later : last + 1 ≤ call := by
      by_contra early
      exact filled.unfailed call (Nat.lt_of_not_le early) failed
    have length := @read_at_most_brought stream answers (last + 1)
    rw [filled.recvCheck] at length
    exact .inl (Nat.le_trans length (brought_by_le later))
  · have closed : answers last = .closed := by
      rcases abandoned.reported with closed | failed
      · exact closed
      · exact absurd abandoned.closed (failed_goes_on abandoned.called failed ran)
    intro call failed
    refine .inr ⟨last, ?_, closed⟩
    by_contra early
    rcases Nat.lt_or_eq_of_le (Nat.le_of_not_lt early) with before | same
    · exact abandoned.unfailed call before failed
    · rw [same, closed] at failed
      cases failed

end Ends

/-- The loop ends, with the first four bytes or with the socket closed and without a
retry, just when `recv` does not fail before it is done. -/
theorem greeting_ends_iff (meeting : Meeting) (loop : AgentLoop) (stream : Nat → UInt8)
    (answers : Nat → RecvAnswer) :
    GreetingEnds meeting loop stream answers ↔ Unfailing answers := by
  constructor
  · exact ends_unfailing
  · intro unfailing
    have ends := @unfailing_over stream answers unfailing
    cases first : Nat.find ends with
    | zero =>
        have ended := Nat.find_spec ends
        rw [first] at ended
        exact absurd ended start_reading
    | succ last =>
        have ended := Nat.find_spec ends
        rw [first] at ended
        have reading := Nat.find_min ends (m := last) (by omega)
        exact ⟨last, _, run_reads meeting loop (last + 1),
          last_call_ends unfailing reading ended⟩

/-- A `recv` that times out each time keeps the loop going for ever. -/
theorem failing_never_ends :
    (∀ calls, ¬(readGreeting (fun _ => 0) (fun _ => .failed) calls).Over) ∧
      ¬∀ (meeting : Meeting) (loop : AgentLoop) (stream : Nat → UInt8)
        (answers : Nat → RecvAnswer), GreetingEnds meeting loop stream answers := by
  constructor
  · intro calls
    induction calls with
    | zero => exact start_reading
    | succ calls induction =>
        rw [read_next induction]
        exact induction
  · intro always
    rcases ends_unfailing (always ⟨[], []⟩ manageImpl (fun _ => 0) fun _ => .failed) 0 rfl with
      enough | ⟨earlier, before, _⟩
    · exact absurd enough (by decide)
    · exact absurd before (Nat.not_lt_zero earlier)

end Collabo.GreetingReads
