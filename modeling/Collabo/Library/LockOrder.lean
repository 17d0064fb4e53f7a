import Mathlib.Data.List.MinMax
import Collabo.Library.LockTrace

/-!
# Locks in one order

Threads that take several locks, each in a shared or an exclusive mode, and go on
one at a time. If every thread asks only for locks that rank above all it holds,
and in the end holds none, then some thread can go on while any has something
left to do, also if requests in shared mode wait for those that are exclusive. A
thread that asks exclusively for what it holds never ends.
-/

namespace LockOrder

open LockTrace

set_option autoImplicit false

variable {Lock : Type*}

inductive Op (Lock : Type*) where
  | requests (lock : Lock) (hold : Hold)
  | releases (lock : Lock)
  deriving DecidableEq, Repr

/-- `held` has the newest first. -/
structure Thread (Lock : Type*) where
  held : List (Lock × Hold)
  rest : List (Op Lock)
  deriving DecidableEq, Repr

def starts (ops : List (Op Lock)) : Thread Lock where
  held := []
  rest := ops

def Free (threads : List (Thread Lock)) (lock : Lock) : Hold → Prop
  | .exclusive => ∀ thread ∈ threads, ∀ taken ∈ thread.held, taken.1 ≠ lock
  | .shared => ∀ thread ∈ threads, ∀ taken ∈ thread.held, taken.1 = lock → taken.2 = .shared

/-- The next operation is not refused, also if a request in shared mode waits for
those that are exclusive. -/
def Moves (threads : List (Thread Lock)) (thread : Thread Lock) : Prop :=
  match thread.rest with
  | [] => False
  | .requests lock hold :: _ =>
      Free threads lock hold ∧ (hold = .shared → ∀ other ∈ threads, ∀ later,
        other.rest ≠ .requests lock .exclusive :: later)
  | .releases _ :: _ => True

def Finished (threads : List (Thread Lock)) : Prop :=
  ∀ thread ∈ threads, thread.rest = [] ∧ thread.held = []

def remaining (threads : List (Thread Lock)) : Nat :=
  (threads.flatMap Thread.rest).length

def scope (lock : Lock) (hold : Hold) (inner : List (Op Lock)) : List (Op Lock) :=
  .requests lock hold :: (inner ++ [.releases lock])

/-- A wait on a condition inside such a scope. -/
def wait (lock : Lock) (hold : Hold) : List (Op Lock) := [.releases lock, .requests lock hold]

variable [DecidableEq Lock]

instance (threads : List (Thread Lock)) (lock : Lock) (hold : Hold) :
    Decidable (Free threads lock hold) :=
  match hold with
  | .exclusive => inferInstanceAs (Decidable (∀ thread ∈ threads, ∀ taken ∈ thread.held,
      taken.1 ≠ lock))
  | .shared => inferInstanceAs (Decidable (∀ thread ∈ threads, ∀ taken ∈ thread.held,
      taken.1 = lock → taken.2 = .shared))

/-- The newest hold of the lock is given back. -/
def without (held : List (Lock × Hold)) (lock : Lock) : List (Lock × Hold) :=
  held.eraseP fun taken => taken.1 = lock

/-- The thread with this number goes on. -/
def step (threads : List (Thread Lock)) (number : Nat) : Option (List (Thread Lock)) :=
  match threads[number]? with
  | none => none
  | some thread =>
      match thread.rest with
      | [] => none
      | .requests lock hold :: rest =>
          if Free threads lock hold then
            some (threads.set number { held := (lock, hold) :: thread.held, rest := rest })
          else none
      | .releases lock :: rest =>
          some (threads.set number { held := without thread.held lock, rest := rest })

/-- Each request ranks above what is held, and nothing is held at the end. -/
def Ascends (rank : Lock → Nat) : List (Lock × Hold) → List (Op Lock) → Prop
  | held, [] => held = []
  | held, .requests lock hold :: rest =>
      (∀ taken ∈ held, rank taken.1 < rank lock) ∧ Ascends rank ((lock, hold) :: held) rest
  | held, .releases lock :: rest => Ascends rank (without held lock) rest

def Ascending (rank : Lock → Nat) (later : Nat → List (Op Lock)) (threads : List (Thread Lock)) :
    Prop :=
  ∀ number thread, threads[number]? = some thread →
    Ascends rank thread.held (thread.rest ++ later number)

def ofFirst (later : List (Op Lock)) : Nat → List (Op Lock)
  | 0 => later
  | _ + 1 => []

/-- Whatever may follow on what is held may follow on the operations as well. -/
def Keeps (rank : Lock → Nat) (held : List (Lock × Hold)) (ops : List (Op Lock)) : Prop :=
  ∀ rest, Ascends rank held rest → Ascends rank held (ops ++ rest)

/-- Nothing that the thread holds is asked for exclusively. -/
def SelfFree : List (Lock × Hold) → List (Op Lock) → Prop
  | _, [] => True
  | held, .requests lock hold :: rest =>
      (hold = .exclusive → ∀ taken ∈ held, taken.1 ≠ lock) ∧ SelfFree ((lock, hold) :: held) rest
  | held, .releases lock :: rest => SelfFree (without held lock) rest

def holdsAfter : List (Lock × Hold) → List (Op Lock) → List (Lock × Hold)
  | held, [] => held
  | held, .requests lock hold :: rest => holdsAfter ((lock, hold) :: held) rest
  | held, .releases lock :: rest => holdsAfter (without held lock) rest

/-- In whichever order they have gone on, some thread can go on or all have ended. -/
def DeadlockFree (start : List (Thread Lock)) : Prop :=
  ∀ (schedule : List Nat) (threads : List (Thread Lock)),
    schedule.foldlM step start = some threads → ¬Finished threads →
      ∃ thread ∈ threads, Moves threads thread

/-- In whichever order they have gone on, some thread can go on as long as this one
has something left to do. -/
def ComesThrough (start : List (Thread Lock)) (number : Nat) : Prop :=
  ∀ (schedule : List Nat) (threads : List (Thread Lock)) (thread : Thread Lock),
    schedule.foldlM step start = some threads → threads[number]? = some thread →
      thread.rest ≠ [] → ∃ mover ∈ threads, Moves threads mover

section Scopes

variable {rank : Lock → Nat} {held : List (Lock × Hold)} {lock : Lock} {hold : Hold}

@[simp] theorem without_newest : without ((lock, hold) :: held) lock = held :=
  List.eraseP_cons_of_pos (by simp)

theorem holds_after_append (first second : List (Op Lock)) :
    holdsAfter held (first ++ second) = holdsAfter (holdsAfter held first) second := by
  induction first generalizing held with
  | nil => rfl
  | cons op rest induction =>
      cases op with
      | requests lock hold => exact induction
      | releases lock => exact induction

theorem holds_after_scope {inner : List (Op Lock)}
    (balanced : holdsAfter ((lock, hold) :: held) inner = (lock, hold) :: held) :
    holdsAfter held (scope lock hold inner) = held := by
  simp only [scope, holdsAfter, holds_after_append, balanced, without_newest]

theorem holds_after_flat_map {Call : Type*} {ops : Call → List (Op Lock)} {calls : List Call}
    (balanced : ∀ call ∈ calls, holdsAfter held (ops call) = held) :
    holdsAfter held (calls.flatMap ops) = held := by
  induction calls with
  | nil => rfl
  | cons call rest induction =>
      rw [List.flatMap_cons, holds_after_append, balanced call List.mem_cons_self]
      exact induction fun other member => balanced other (List.mem_cons_of_mem call member)

theorem self_free_append (first second : List (Op Lock)) :
    SelfFree held (first ++ second) ↔
      SelfFree held first ∧ SelfFree (holdsAfter held first) second := by
  induction first generalizing held with
  | nil => simp [SelfFree, holdsAfter]
  | cons op rest induction =>
      cases op with
      | requests lock hold =>
          simp only [List.cons_append, SelfFree, holdsAfter, induction, and_assoc]
      | releases lock => exact induction

theorem self_free_calls {Call : Type*} {ops : Call → List (Op Lock)} {calls : List Call}
    (balanced : ∀ call ∈ calls, holdsAfter held (ops call) = held)
    (free : SelfFree held (calls.flatMap ops)) : ∀ call ∈ calls, SelfFree held (ops call) := by
  induction calls with
  | nil =>
      intro call member
      cases member
  | cons first rest induction =>
      rw [List.flatMap_cons, self_free_append, balanced first List.mem_cons_self] at free
      intro call member
      cases member with
      | head => exact free.1
      | tail _ inRest =>
          have later := fun other member => balanced other (List.mem_cons_of_mem first member)
          exact induction later free.2 call inRest

theorem keeps_nil : Keeps rank held [] := fun _ ascends => ascends

theorem keeps_append {first second : List (Op Lock)} (firstKeeps : Keeps rank held first)
    (secondKeeps : Keeps rank held second) : Keeps rank held (first ++ second) := by
  intro rest ascends
  rw [List.append_assoc]
  exact firstKeeps _ (secondKeeps rest ascends)

theorem keeps_flat_map {Call : Type*} {ops : Call → List (Op Lock)} {calls : List Call}
    (keeps : ∀ call ∈ calls, Keeps rank held (ops call)) : Keeps rank held (calls.flatMap ops) := by
  induction calls with
  | nil => exact keeps_nil
  | cons call rest induction =>
      rw [List.flatMap_cons]
      have tail := induction fun other member => keeps other (List.mem_cons_of_mem call member)
      exact keeps_append (keeps call List.mem_cons_self) tail

theorem keeps_scope {inner : List (Op Lock)} (above : ∀ taken ∈ held, rank taken.1 < rank lock)
    (keeps : Keeps rank ((lock, hold) :: held) inner) :
    Keeps rank held (scope lock hold inner) := by
  intro rest ascends
  have released : Ascends rank ((lock, hold) :: held) (.releases lock :: rest) := by
    rw [Ascends, without_newest]
    exact ascends
  have opened : scope lock hold inner ++ rest =
      .requests lock hold :: (inner ++ (.releases lock :: rest)) := by
    rw [scope, List.cons_append, List.append_assoc, List.singleton_append]
  rw [opened]
  exact ⟨above, keeps _ released⟩

theorem keeps_outermost {inner : List (Op Lock)} (keeps : Keeps rank [(lock, hold)] inner) :
    Keeps rank [] (scope lock hold inner) :=
  keeps_scope (List.forall_mem_nil _) keeps

theorem ascends_of_keeps {ops : List (Op Lock)} (keeps : Keeps rank [] ops) :
    Ascends rank [] ops := by
  have ascends := keeps [] rfl
  rw [List.append_nil] at ascends
  exact ascends

theorem keeps_wait (above : ∀ taken ∈ held, rank taken.1 < rank lock) :
    Keeps rank ((lock, hold) :: held) (wait lock hold) := by
  intro rest ascends
  rw [wait, List.cons_append, List.singleton_append, Ascends, without_newest]
  exact ⟨above, ascends⟩

/-- Up to some operation of one that ascends, any other may be put in the place of the rest. -/
theorem ascends_prefix {first second other : List (Op Lock)}
    (ascends : Ascends rank held (first ++ second))
    (goesOn : Ascends rank (holdsAfter held first) other) : Ascends rank held (first ++ other) := by
  induction first generalizing held with
  | nil => exact goesOn
  | cons op rest induction =>
      cases op with
      | requests lock hold => exact ⟨ascends.1, induction ascends.2 goesOn⟩
      | releases lock => exact induction ascends goesOn

theorem ascends_releases (held : List (Lock × Hold)) :
    Ascends rank held (held.map fun taken => .releases taken.1) := by
  induction held with
  | nil => rfl
  | cons taken rest induction =>
      rw [List.map_cons, Ascends, without_newest]
      exact induction

end Scopes

section Steps

variable {rank : Lock → Nat} {threads following : List (Thread Lock)} {number : Nat}

theorem run_cons {rest : List Nat} :
    (number :: rest).foldlM step threads = some following ↔
      ∃ next, step threads number = some next ∧ rest.foldlM step next = some following := by
  rw [List.foldlM_cons]
  exact Option.bind_eq_some_iff

structure WentOn (threads : List (Thread Lock)) (number : Nat) (following : List (Thread Lock))
    (before after : Thread Lock) : Prop where
  found : threads[number]? = some before
  set : following = threads.set number after
  shorter : before.rest.length = after.rest.length + 1
  ascends : ∀ (rank : Lock → Nat) (later : List (Op Lock)),
    Ascends rank before.held (before.rest ++ later) → Ascends rank after.held (after.rest ++ later)
  selfFree : SelfFree after.held after.rest → SelfFree before.held before.rest

theorem step_went_on (stepped : step threads number = some following) :
    ∃ before after, WentOn threads number following before after := by
  unfold step at stepped
  cases found : threads[number]? with
  | none =>
      rw [found] at stepped
      cases stepped
  | some thread =>
      rw [found] at stepped
      dsimp only at stepped
      cases ops : thread.rest with
      | nil =>
          rw [ops] at stepped
          cases stepped
      | cons op rest =>
          rw [ops] at stepped
          have length : thread.rest.length = rest.length + 1 := by
            rw [ops, List.length_cons]
          cases op with
          | requests lock hold =>
              dsimp only at stepped
              split_ifs at stepped with free
              cases stepped
              have selfFree : SelfFree ((lock, hold) :: thread.held) rest →
                  SelfFree thread.held thread.rest := by
                intro later
                rw [ops]
                refine ⟨?_, later⟩
                intro exclusive
                rw [exclusive] at free
                exact free thread (List.mem_of_getElem? found)
              have ascends : ∀ (rank : Lock → Nat) (later : List (Op Lock)),
                  Ascends rank thread.held (thread.rest ++ later) →
                    Ascends rank ((lock, hold) :: thread.held) (rest ++ later) := by
                intro rank later ascending
                rw [ops] at ascending
                exact ascending.2
              exact ⟨thread, _, found, rfl, length, ascends, selfFree⟩
          | releases lock =>
              cases stepped
              have selfFree : SelfFree (without thread.held lock) rest →
                  SelfFree thread.held thread.rest := by
                intro later
                rw [ops]
                exact later
              have ascends : ∀ (rank : Lock → Nat) (later : List (Op Lock)),
                  Ascends rank thread.held (thread.rest ++ later) →
                    Ascends rank (without thread.held lock) (rest ++ later) := by
                intro rank later ascending
                rw [ops] at ascending
                exact ascending
              exact ⟨thread, _, found, rfl, length, ascends, selfFree⟩

variable {later : Nat → List (Op Lock)}

/-- The thread that goes on is another than before, and the others are as they were. -/
theorem WentOn.same_or_goer {before after : Thread Lock}
    (went : WentOn threads number following before after) {other : Nat} {thread : Thread Lock}
    (found : following[other]? = some thread) :
    (other = number ∧ thread = after) ∨ threads[other]? = some thread := by
  rw [went.set] at found
  by_cases goer : number = other
  · rw [← goer, List.getElem?_set_self', went.found] at found
    cases found
    exact .inl ⟨goer.symm, rfl⟩
  · rw [List.getElem?_set_ne goer] at found
    exact .inr found

theorem step_ascends (ascending : Ascending rank later threads)
    (stepped : step threads number = some following) : Ascending rank later following := by
  obtain ⟨before, after, went⟩ := step_went_on stepped
  intro other thread found
  obtain ⟨goer, same⟩ | unchanged := went.same_or_goer found
  · rw [goer, same]
    exact went.ascends rank (later number) (ascending number before went.found)
  · exact ascending other thread unchanged

theorem run_ascends (ascending : Ascending rank later threads) {schedule : List Nat}
    (ran : schedule.foldlM step threads = some following) : Ascending rank later following := by
  induction schedule generalizing threads with
  | nil =>
      cases ran
      exact ascending
  | cons number rest induction =>
      obtain ⟨next, stepped, remains⟩ := run_cons.mp ran
      exact induction (step_ascends ascending stepped) remains

omit [DecidableEq Lock] in
theorem remaining_set {before : Thread Lock} (found : threads[number]? = some before)
    (after : Thread Lock) :
    remaining (threads.set number after) + before.rest.length =
      remaining threads + after.rest.length := by
  induction threads generalizing number with
  | nil => cases found
  | cons head tail induction =>
      cases number with
      | zero =>
          cases found
          simp only [List.set_cons_zero, remaining, List.flatMap_cons, List.length_append]
          omega
      | succ number =>
          have found_in_tail : tail[number]? = some before := by
            rw [← found, List.getElem?_cons_succ]
          have inTail := induction found_in_tail
          simp only [List.set_cons_succ, remaining, List.flatMap_cons, List.length_append]
            at inTail ⊢
          omega

omit [DecidableEq Lock] in
theorem remaining_pos_iff : 0 < remaining threads ↔ ∃ thread ∈ threads, thread.rest ≠ [] := by
  rw [remaining, List.length_pos_iff, ne_eq, List.flatMap_eq_nil_iff]
  push Not
  exact Iff.rfl

theorem step_remaining (stepped : step threads number = some following) :
    remaining threads = remaining following + 1 := by
  obtain ⟨before, after, went⟩ := step_went_on stepped
  have changed := remaining_set went.found after
  have shorter := went.shorter
  rw [went.set]
  omega

theorem step_self_free (stepped : step threads number = some following)
    (later : ∀ thread ∈ following, SelfFree thread.held thread.rest) :
    ∀ thread ∈ threads, SelfFree thread.held thread.rest := by
  obtain ⟨before, after, went⟩ := step_went_on stepped
  obtain ⟨bound, found⟩ := List.getElem?_eq_some_iff.mp went.found
  rw [went.set] at later
  intro thread member
  obtain ⟨other, inside, same⟩ := List.mem_iff_getElem.mp member
  by_cases goer : number = other
  · have is_before : thread = before := by
      rw [← same, ← found]
      simp only [goer]
    rw [is_before]
    exact went.selfFree (later after (List.mem_set bound after))
  · apply later
    rw [← same, ← List.getElem_set_ne goer (by simpa using inside)]
    exact List.getElem_mem _

theorem run_self_free {schedule : List Nat}
    (ran : schedule.foldlM step threads = some following) (finished : Finished following) :
    ∀ thread ∈ threads, SelfFree thread.held thread.rest := by
  induction schedule generalizing threads with
  | nil =>
      cases ran
      intro thread member
      rw [(finished thread member).1]
      trivial
  | cons number rest induction =>
      obtain ⟨next, stepped, later⟩ := run_cons.mp ran
      exact step_self_free stepped (induction later)

end Steps

section Progress

variable {rank : Lock → Nat} {threads : List (Thread Lock)} {later : Nat → List (Op Lock)}

omit [DecidableEq Lock] in
theorem not_free {lock : Lock} {hold : Hold} (refused : ¬Free threads lock hold) :
    ∃ holder ∈ threads, ∃ taken ∈ holder.held, taken.1 = lock := by
  cases hold with
  | exclusive =>
      unfold Free at refused
      push Not at refused
      exact refused
  | shared =>
      unfold Free at refused
      push Not at refused
      obtain ⟨holder, member, taken, holds, same, _⟩ := refused
      exact ⟨holder, member, taken, holds, same⟩

omit [DecidableEq Lock] in
theorem free_of_unheld {lock : Lock} {hold : Hold}
    (unheld : ∀ thread ∈ threads, ∀ taken ∈ thread.held, taken.1 ≠ lock) :
    Free threads lock hold := by
  cases hold with
  | exclusive => exact unheld
  | shared =>
      intro thread member taken holds same
      exact absurd same (unheld thread member taken holds)

omit [DecidableEq Lock] in
theorem stuck_asks {thread : Thread Lock} (stuck : ¬Moves threads thread)
    (left : thread.rest ≠ []) :
    ∃ lock hold later, thread.rest = .requests lock hold :: later := by
  unfold Moves at stuck
  cases ops : thread.rest with
  | nil => exact absurd ops left
  | cons op later =>
      cases op with
      | requests lock hold => exact ⟨lock, hold, later, rfl⟩
      | releases lock =>
          rw [ops] at stuck
          exact absurd trivial stuck

/-- Whoever holds a lock and does not go on asks for one that ranks above it. -/
theorem holder_asks_above (ascending : Ascending rank later threads)
    (givenBack : ∀ thread ∈ threads, thread.rest = [] → thread.held = [])
    (stuck : ∀ thread ∈ threads, ¬Moves threads thread) {holder : Thread Lock}
    (member : holder ∈ threads) {taken : Lock × Hold} (holds : taken ∈ holder.held) :
    ∃ wanted hold more, holder.rest = .requests wanted hold :: more ∧
      rank taken.1 < rank wanted := by
  obtain ⟨number, found⟩ := List.mem_iff_getElem?.mp member
  have ascends := ascending number holder found
  have left : holder.rest ≠ [] := by
    intro none
    rw [givenBack holder member none] at holds
    cases holds
  obtain ⟨wanted, hold, more, asks⟩ := stuck_asks (stuck holder member) left
  rw [asks] at ascends
  exact ⟨wanted, hold, more, asks, ascends.1 taken holds⟩

/-- Whoever waits does so for a lock that someone holds, and who waits in turn. -/
theorem waits_below (ascending : Ascending rank later threads)
    (givenBack : ∀ thread ∈ threads, thread.rest = [] → thread.held = [])
    (stuck : ∀ thread ∈ threads, ¬Moves threads thread) {thread : Thread Lock}
    (member : thread ∈ threads) {lock : Lock} {hold : Hold} {rest : List (Op Lock)}
    (asks : thread.rest = .requests lock hold :: rest) :
    ∃ other ∈ threads, ∃ wanted otherHold otherRest,
      other.rest = .requests wanted otherHold :: otherRest ∧ rank lock < rank wanted := by
  have held : ∃ holder ∈ threads, ∃ taken ∈ holder.held, taken.1 = lock := by
    have waits := stuck thread member
    unfold Moves at waits
    rw [asks] at waits
    by_cases free : Free threads lock hold
    · -- Only an exclusive request for the same lock can be in the way, and that is refused.
      have queued : ∃ writer ∈ threads, ∃ more,
          writer.rest = .requests lock .exclusive :: more := by
        by_contra nobody
        push Not at nobody
        exact waits ⟨free, fun _ => nobody⟩
      obtain ⟨writer, isThread, more, writes⟩ := queued
      have refused := stuck writer isThread
      unfold Moves at refused
      rw [writes] at refused
      exact not_free fun granted => refused ⟨granted, nofun⟩
    · exact not_free free
  obtain ⟨holder, isThread, taken, holds, same⟩ := held
  obtain ⟨wanted, otherHold, otherRest, wants, above⟩ :=
    holder_asks_above ascending givenBack stuck isThread holds
  exact ⟨holder, isThread, wanted, otherHold, otherRest, wants, same ▸ above⟩

/-- One more than the rank of the lock that is asked for next. -/
def wantedRank (rank : Lock → Nat) (thread : Thread Lock) : Nat :=
  match thread.rest with
  | [] => 0
  | .requests lock _ :: _ => rank lock + 1
  | .releases _ :: _ => 0

omit [DecidableEq Lock] in
theorem asks_of_wanted_rank {thread : Thread Lock} (wants : 0 < wantedRank rank thread) :
    ∃ lock hold later, thread.rest = .requests lock hold :: later ∧
      wantedRank rank thread = rank lock + 1 := by
  unfold wantedRank at wants ⊢
  cases ops : thread.rest with
  | nil =>
      rw [ops] at wants
      exact absurd wants (lt_irrefl 0)
  | cons op later =>
      cases op with
      | requests lock hold => exact ⟨lock, hold, later, rfl, rfl⟩
      | releases lock =>
          rw [ops] at wants
          exact absurd wants (lt_irrefl 0)

/-- Of those who wait, the one for the highest lock would wait for a higher one. -/
theorem some_thread_moves (ascending : Ascending rank later threads)
    (givenBack : ∀ thread ∈ threads, thread.rest = [] → thread.held = [])
    {unfinished : Thread Lock} (member : unfinished ∈ threads) (left : unfinished.rest ≠ []) :
    ∃ thread ∈ threads, Moves threads thread := by
  by_contra none
  push Not at none
  have asking : 0 < wantedRank rank unfinished := by
    obtain ⟨lock, hold, rest, asks⟩ := stuck_asks (none unfinished member) left
    unfold wantedRank
    rw [asks]
    exact Nat.succ_pos _
  cases top : threads.argmax (wantedRank rank) with
  | none =>
      rw [List.argmax_eq_none.mp top] at member
      cases member
  | some highest =>
      have bound : ∀ thread ∈ threads, wantedRank rank thread ≤ wantedRank rank highest :=
        fun thread isThread => List.le_of_mem_argmax isThread top
      obtain ⟨lock, hold, rest, asks, rank_eq⟩ :=
        asks_of_wanted_rank (asking.trans_le (bound unfinished member))
      obtain ⟨other, isThread, wanted, otherHold, otherRest, wants, above⟩ :=
        waits_below ascending givenBack none (List.argmax_mem top) asks
      have higher : wantedRank rank other = rank wanted + 1 := by
        unfold wantedRank
        rw [wants]
      have atMost := bound other isThread
      omega

theorem step_granted {number : Nat} {held : List (Lock × Hold)} {rest : List (Op Lock)}
    {lock : Lock} {hold : Hold}
    (found : threads[number]? = some { held := held, rest := .requests lock hold :: rest })
    (free : Free threads lock hold) :
    step threads number =
      some (threads.set number { held := (lock, hold) :: held, rest := rest }) := by
  simp only [step, found]
  exact if_pos free

theorem step_released {number : Nat} {held : List (Lock × Hold)} {rest : List (Op Lock)}
    {lock : Lock}
    (found : threads[number]? = some { held := held, rest := .releases lock :: rest }) :
    step threads number =
      some (threads.set number { held := without held lock, rest := rest }) := by
  simp only [step, found]

theorem moves_steps {thread : Thread Lock} (member : thread ∈ threads)
    (moves : Moves threads thread) : ∃ number following, step threads number = some following := by
  obtain ⟨number, found⟩ := List.mem_iff_getElem?.mp member
  obtain ⟨held, rest⟩ := thread
  cases rest with
  | nil => cases moves
  | cons op rest =>
      cases op with
      | requests lock hold => exact ⟨number, _, step_granted found moves.1⟩
      | releases lock => exact ⟨number, _, step_released found⟩

theorem finishes (free : DeadlockFree threads) :
    ∃ (schedule : List Nat) (final : List (Thread Lock)),
      schedule.foldlM step threads = some final ∧ Finished final := by
  induction count : remaining threads generalizing threads with
  | zero =>
      by_cases finished : Finished threads
      · exact ⟨[], threads, rfl, finished⟩
      · obtain ⟨goer, member, moves⟩ := free [] threads rfl finished
        obtain ⟨number, following, stepped⟩ := moves_steps member moves
        have fewer := step_remaining stepped
        omega
  | succ count induction =>
      have unfinished : ¬Finished threads := by
        intro finished
        obtain ⟨thread, member, left⟩ := remaining_pos_iff.mp (Nat.lt_of_sub_eq_succ count)
        exact left (finished thread member).1
      obtain ⟨goer, member, moves⟩ := free [] threads rfl unfinished
      obtain ⟨number, following, stepped⟩ := moves_steps member moves
      have fewer := step_remaining stepped
      have later : DeadlockFree following := by
        intro schedule reached ran
        exact free (number :: schedule) reached (run_cons.mpr ⟨following, stepped, ran⟩)
      obtain ⟨schedule, final, ran, finished⟩ := induction later (by omega)
      exact ⟨number :: schedule, final, run_cons.mpr ⟨following, stepped, ran⟩, finished⟩

theorem self_free_of_deadlock_free (free : DeadlockFree threads) :
    ∀ thread ∈ threads, SelfFree thread.held thread.rest := by
  obtain ⟨schedule, final, ran, finished⟩ := finishes free
  exact run_self_free ran finished

theorem deadlock_free_of_ascends
    (ascending : ∀ thread ∈ threads, Ascends rank thread.held thread.rest) :
    DeadlockFree threads := by
  have start : Ascending rank (fun _ => []) threads := by
    intro number thread found
    rw [List.append_nil]
    exact ascending thread (List.mem_of_getElem? found)
  intro schedule reached ran unfinished
  have ascends := run_ascends start ran
  have givenBack : ∀ thread ∈ reached, thread.rest = [] → thread.held = [] := by
    intro thread member none
    obtain ⟨number, found⟩ := List.mem_iff_getElem?.mp member
    have held := ascends number thread found
    rw [none] at held
    exact held
  have left : ∃ thread ∈ reached, thread.rest ≠ [] := by
    by_contra none
    push Not at none
    apply unfinished
    intro thread member
    exact ⟨none thread member, givenBack thread member (none thread member)⟩
  obtain ⟨thread, member, left⟩ := left
  exact some_thread_moves ascends givenBack member left

end Progress

section Through

variable {rank : Lock → Nat} {threads others : List (Thread Lock)}

/-- What a thread that comes through still holds at its end stands in nobody's way before. -/
theorem comes_through_of_ascends {thread : Thread Lock} {later : List (Op Lock)}
    (ascends : Ascends rank thread.held (thread.rest ++ later))
    (ascending : ∀ other ∈ others, Ascends rank other.held other.rest) :
    ComesThrough (thread :: others) 0 := by
  have start : Ascending rank (ofFirst later) (thread :: others) := by
    intro number other found
    cases number with
    | zero =>
        cases found
        exact ascends
    | succ number =>
        rw [ofFirst, List.append_nil]
        exact ascending other (List.mem_of_getElem? found)
  intro schedule reached first ran found left
  have ascends := run_ascends start ran
  have givenBack : ∀ other ∈ reached, other.rest = [] → other.held = [] := by
    intro other member none
    obtain ⟨number, place⟩ := List.mem_iff_getElem?.mp member
    cases number with
    | zero =>
        rw [found] at place
        cases place
        exact absurd none left
    | succ number =>
        have held := ascends (number + 1) other place
        rw [none] at held
        exact held
  exact some_thread_moves ascends givenBack (List.mem_of_getElem? found) left

theorem self_free_of_comes_through {number : Nat} {thread : Thread Lock}
    (through : ComesThrough threads number) (found : threads[number]? = some thread) :
    SelfFree thread.held thread.rest := by
  induction count : remaining threads generalizing threads thread with
  | zero =>
      have none : thread.rest = [] := by
        by_contra left
        have some := remaining_pos_iff.mpr ⟨thread, List.mem_of_getElem? found, left⟩
        omega
      rw [none]
      trivial
  | succ count induction =>
      by_cases none : thread.rest = []
      · rw [none]
        trivial
      · obtain ⟨mover, member, moves⟩ := through [] threads thread rfl found none
        obtain ⟨goer, following, stepped⟩ := moves_steps member moves
        obtain ⟨before, after, went⟩ := step_went_on stepped
        have fewer := step_remaining stepped
        have remains : ComesThrough following number := by
          intro schedule reached other ran
          exact through (goer :: schedule) reached other (run_cons.mpr ⟨following, stepped, ran⟩)
        by_cases same : goer = number
        · rw [same] at went
          have isBefore := went.found.symm.trans found
          cases isBefore
          apply went.selfFree
          apply induction remains _ (by omega)
          rw [went.set, List.getElem?_set_self', found]
          rfl
        · apply induction remains _ (by omega)
          rw [went.set, List.getElem?_set_ne same]
          exact found

/-- While the others hold nothing, a thread that ascends gets as far as it likes. -/
theorem run_prefix {held : List (Lock × Hold)} {first second other : List (Op Lock)}
    (nothing : ∀ thread ∈ others, thread.held = [])
    (ascends : Ascends rank held (first ++ second)) :
    (List.replicate first.length 0).foldlM step
      ({ held := held, rest := first ++ other } :: others) =
      some ({ held := holdsAfter held first, rest := other } :: others) := by
  induction first generalizing held with
  | nil => rfl
  | cons op rest induction =>
      rw [List.length_cons, List.replicate_succ, run_cons]
      cases op with
      | requests lock hold =>
          have unheld : ∀ thread ∈ { held := held, rest := .requests lock hold :: rest ++ other } ::
              others, ∀ taken ∈ thread.held, taken.1 ≠ lock := by
            intro thread member taken holds same
            obtain goer | quiet := List.mem_cons.mp member
            · rw [goer] at holds
              have above := ascends.1 taken holds
              rw [same] at above
              exact absurd above (lt_irrefl _)
            · rw [nothing thread quiet] at holds
              cases holds
          exact ⟨_, step_granted rfl (free_of_unheld unheld), induction ascends.2⟩
      | releases lock => exact ⟨_, step_released rfl, induction ascends⟩

omit [DecidableEq Lock] in
theorem not_moves {thread holder : Thread Lock} {lock : Lock} {rest : List (Op Lock)}
    {taken : Lock × Hold} (asks : thread.rest = .requests lock .exclusive :: rest)
    (member : holder ∈ threads) (holds : taken ∈ holder.held) (same : taken.1 = lock) :
    ¬Moves threads thread := by
  intro moves
  unfold Moves at moves
  rw [asks] at moves
  exact moves.1 holder member taken holds same

end Through

end LockOrder
