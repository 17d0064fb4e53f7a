import Collabo.CInt
import Collabo.CString
import Collabo.Library.PartialRuns

/-!
# The link to the agent

`manageImpl`, one system call at a time. The sockets are numbered in the order
they are created in, as a descriptor is given out again once it is closed. The
loop does not end when the agent has been greeted and told the meeting: it goes
on with a new socket, and the old one stays open behind it.
-/

namespace Collabo.AgentManager

open PartialRuns Collabo.CInt Collabo.CString

set_option autoImplicit false

structure Meeting where
  meetSeq : ByteString
  agentPassword : ByteString

/-- A `recv` with room for `count` bytes gets one at least, the end of the stream,
or an error, which is also how `SO_RCVTIMEO` ends it. -/
inductive RecvResult where
  | received (chunk : ByteString)
  | closed
  | failed
  deriving DecidableEq, Repr

inductive SendResult where
  | sent (count : Nat)
  | nothing
  | failed
  deriving DecidableEq, Repr

/-- Where the loop stands: before its test, at one of its calls, or behind it.
`recvCheck` is what has been received of the greeting and `sent` counts the bytes
sent of the answer; `unsent` is what the four unchecked calls have left to send. -/
inductive Place where
  | testsStopped
  | creates
  | connects
  | receives (recvCheck : ByteString)
  | answers (sent : Nat)
  | tells (unsent : List ByteString)
  | returned
  deriving DecidableEq, Repr

/-- `sock` is the number of the socket that the local variable holds, `created`
how many there have been, `closes` the numbers that `close` was called with, and
`greeted` the connections whose handshake was completed. -/
structure AgentLoop where
  place : Place
  stopped : Bool
  sock : Nat
  created : Nat
  closes : List Nat
  greeted : List Nat
  deriving DecidableEq, Repr

/-- The result of the call that the loop stands at; `tests` is its test, and
`stop` comes from another thread. -/
inductive AgentEvent where
  | tests
  | socketReturns (succeeds : Bool)
  | connectReturns (succeeds : Bool)
  | recvReturns (result : RecvResult)
  | sendReturns (result : SendResult)
  | stop
  deriving DecidableEq, Repr

def manageImpl : AgentLoop where
  place := .testsStopped
  stopped := false
  sock := 0
  created := 0
  closes := []
  greeted := []

def greeting : ByteString := [0x12, 0x34, 0x56, 0x78]

def AgentLoop.closeSock (loop : AgentLoop) : AgentLoop :=
  { loop with place := .testsStopped, closes := loop.closes ++ [loop.sock] }

def AgentLoop.complete (loop : AgentLoop) (meeting : Meeting) : AgentLoop :=
  { loop with
    place := .tells [intBytes meeting.meetSeq.length, meeting.meetSeq,
      intBytes meeting.agentPassword.length, meeting.agentPassword]
    greeted := loop.greeted ++ [loop.sock] }

def AgentLoop.receive (loop : AgentLoop) (recvCheck : ByteString) : AgentLoop :=
  if recvCheck.length < 4 then { loop with place := .receives recvCheck }
  else if recvCheck = greeting then { loop with place := .answers 0 }
  else loop.closeSock

def recvStep (loop : AgentLoop) (recvCheck : ByteString) : RecvResult → Option AgentLoop
  | .failed => some loop
  | .closed => some loop.closeSock
  | .received chunk =>
      if 0 < chunk.length ∧ chunk.length ≤ 4 - recvCheck.length then
        some (loop.receive (recvCheck ++ chunk))
      else none

def sendStep (meeting : Meeting) (loop : AgentLoop) (sent : Nat) :
    SendResult → Option AgentLoop
  | .failed => some loop
  | .nothing => some loop.closeSock
  | .sent count =>
      if 0 < count ∧ count ≤ 4 - sent then
        if sent + count < 4 then some { loop with place := .answers (sent + count) }
        else some (loop.complete meeting)
      else none

/-- Nothing stands for a result of another call than the one under way. -/
def step (meeting : Meeting) (loop : AgentLoop) (event : AgentEvent) : Option AgentLoop :=
  match event, loop.place with
  | .stop, _ => some { loop with stopped := true }
  | .tests, .testsStopped =>
      some { loop with place := if loop.stopped then .returned else .creates }
  | .socketReturns false, .creates => some { loop with place := .returned }
  | .socketReturns true, .creates =>
      some { loop with place := .connects, sock := loop.created, created := loop.created + 1 }
  | .connectReturns false, .connects => some loop.closeSock
  | .connectReturns true, .connects => some { loop with place := .receives [] }
  | .recvReturns result, .receives recvCheck => recvStep loop recvCheck result
  | .sendReturns result, .answers sent => sendStep meeting loop sent result
  | .sendReturns _, .tells unsent =>
      some { loop with
        place := if unsent.length ≤ 1 then .testsStopped else .tells unsent.tail }
  | _, _ => none

def Open (loop : AgentLoop) (sock : Nat) : Prop := sock < loop.created ∧ sock ∉ loop.closes

def InIteration : Place → Prop
  | .testsStopped => False
  | .creates => False
  | .connects => True
  | .receives _ => True
  | .answers _ => True
  | .tells _ => True
  | .returned => False

instance (place : Place) : Decidable (InIteration place) := by
  cases place <;> unfold InIteration <;> infer_instance

def Earlier (loop : AgentLoop) (sock : Nat) : Prop :=
  sock + 1 < loop.created ∨ (sock + 1 = loop.created ∧ ¬InIteration loop.place)

/-- No two sockets are open, and each one of an earlier iteration was closed once,
unless it is the connection in use, whose handshake is complete and behind which
no other socket was created. -/
structure OneSocket (loop : AgentLoop) : Prop where
  single : ∀ sock other, Open loop sock → Open loop other → sock = other
  closedOnce : ∀ sock, Earlier loop sock →
    loop.closes.count sock = 1 ∨
      loop.closes.count sock = 0 ∧ sock ∈ loop.greeted ∧ sock + 1 = loop.created

def KeepsOneSocket (meeting : Meeting) (loop : AgentLoop) (event : AgentEvent) : Prop :=
  ∀ following, step meeting loop event = some following → OneSocket following

/-- No further socket is created once a handshake was completed. -/
def NoneBehindGreeted (loop : AgentLoop) : AgentEvent → Prop
  | .tests => True
  | .socketReturns succeeds => loop.place = .creates → succeeds = true → loop.greeted = []
  | .connectReturns _ => True
  | .recvReturns _ => True
  | .sendReturns _ => True
  | .stop => True

def Holding (loop : AgentLoop) : Prop := InIteration loop.place ∨ loop.greeted ≠ []

def Telling (place : Place) : Prop := ∃ unsent, place = .tells unsent

/-- The sockets were closed in the order they were created in, but for the one held. -/
structure Orderly (loop : AgentLoop) : Prop where
  held : Holding loop → loop.sock + 1 = loop.created ∧ loop.closes = List.range loop.sock
  released : ¬Holding loop → loop.closes = List.range loop.created
  greeted : loop.greeted ≠ [] → loop.greeted = [loop.sock]
  telling : InIteration loop.place → (Telling loop.place ↔ loop.greeted ≠ [])

theorem manage_impl_orderly : Orderly manageImpl where
  held holding := by
    rcases holding with inside | greeted
    · exact inside.elim
    · exact absurd rfl greeted
  released _ := rfl
  greeted nonempty := absurd rfl nonempty
  telling inside := inside.elim

theorem count_range (count sock : Nat) :
    (List.range count).count sock = if sock < count then 1 else 0 := by
  rw [List.nodup_range.count]
  simp only [List.mem_range]

theorem Orderly.one_socket {loop : AgentLoop} (orderly : Orderly loop) : OneSocket loop := by
  by_cases holding : Holding loop
  · rcases orderly.held holding with ⟨latest, closes⟩
    constructor
    · intro sock other socketOpen otherOpen
      unfold Open at socketOpen otherOpen
      rw [closes, List.mem_range] at socketOpen otherOpen
      omega
    · intro sock earlier
      rw [closes, count_range]
      rcases earlier with before | ⟨last, outside⟩
      · exact .inl (if_pos (by omega))
      · have same : sock = loop.sock := by omega
        have greeted := orderly.greeted (holding.resolve_left outside)
        exact .inr ⟨if_neg (by omega), by rw [greeted, same]; exact List.mem_cons_self, last⟩
  · have closes := orderly.released holding
    constructor
    · intro sock other socketOpen _
      rw [Open, closes, List.mem_range] at socketOpen
      exact absurd socketOpen.1 socketOpen.2
    · intro sock earlier
      rw [closes, count_range]
      rcases earlier with before | ⟨last, _⟩
      · exact .inl (if_pos (by omega))
      · exact .inl (if_pos (by omega))

section Steps

variable {loop : AgentLoop} (orderly : Orderly loop)

include orderly

theorem ungreeted (inside : InIteration loop.place) (silent : ¬Telling loop.place) :
    loop.greeted = [] := by
  by_contra greeted
  exact silent ((orderly.telling inside).mpr greeted)

theorem close_sock_orderly (inside : InIteration loop.place) (silent : ¬Telling loop.place) :
    Orderly loop.closeSock := by
  have none := ungreeted orderly inside silent
  rcases orderly.held (.inl inside) with ⟨latest, closes⟩
  have released : ¬Holding loop.closeSock := by
    rintro (inside | greeted)
    · exact inside
    · exact greeted none
  exact
    { held := fun holding => absurd holding released
      released := fun _ => by
        change loop.closes ++ [loop.sock] = List.range loop.created
        rw [closes, ← latest, List.range_succ]
      greeted := fun greeted => absurd none greeted
      telling := fun inside => inside.elim }

theorem moved_orderly (inside : InIteration loop.place) (silent : ¬Telling loop.place)
    {place : Place} (stays : InIteration place) (silentNext : ¬Telling place) :
    Orderly { loop with place := place } := by
  have none := ungreeted orderly inside silent
  exact
    { held := fun _ => orderly.held (.inl inside)
      released := fun released => absurd (.inl stays) released
      greeted := orderly.greeted
      telling := fun _ => iff_of_false silentNext fun greeted => greeted none }

theorem complete_orderly (meeting : Meeting) (inside : InIteration loop.place)
    (silent : ¬Telling loop.place) : Orderly (loop.complete meeting) := by
  have none := ungreeted orderly inside silent
  have greeted : (loop.complete meeting).greeted = [loop.sock] := by
    change loop.greeted ++ [loop.sock] = [loop.sock]
    rw [none, List.nil_append]
  exact
    { held := fun _ => orderly.held (.inl inside)
      released := fun released => absurd (.inl trivial) released
      greeted := fun _ => greeted
      telling := fun _ => iff_of_true ⟨_, rfl⟩ (by rw [greeted]; exact List.cons_ne_nil _ _) }

theorem told_orderly (telling : Telling loop.place) {place : Place}
    (goesOn : InIteration place → Telling place) : Orderly { loop with place := place } := by
  have inside : InIteration loop.place := by
    rcases telling with ⟨unsent, same⟩
    rw [same]
    trivial
  have greeted := (orderly.telling inside).mp telling
  exact
    { held := fun _ => orderly.held (.inl inside)
      released := fun released => absurd (.inr greeted) released
      greeted := orderly.greeted
      telling := fun stays => iff_of_true (goesOn stays) greeted }

theorem between_orderly (outside : ¬InIteration loop.place) {place : Place}
    (stays : ¬InIteration place) : Orderly { loop with place := place } := by
  have same : Holding { loop with place := place } ↔ Holding loop :=
    or_congr (iff_of_false stays outside) Iff.rfl
  exact
    { held := fun holding => orderly.held (same.mp holding)
      released := fun released => orderly.released fun holding => released (same.mpr holding)
      greeted := orderly.greeted
      telling := fun inside => absurd inside stays }

theorem created_orderly (outside : ¬InIteration loop.place) (none : loop.greeted = []) :
    Orderly
      { loop with place := .connects, sock := loop.created, created := loop.created + 1 } := by
  have released : ¬Holding loop := by
    rintro (inside | greeted)
    · exact outside inside
    · exact greeted none
  exact
    { held := fun _ => ⟨rfl, orderly.released released⟩
      released := fun released => absurd (.inl trivial) released
      greeted := fun greeted => absurd none greeted
      telling := fun _ =>
        iff_of_false (fun ⟨_, same⟩ => nomatch same) fun greeted => greeted none }

theorem recv_orderly {recvCheck : ByteString} (place : loop.place = .receives recvCheck)
    {result : RecvResult} {following : AgentLoop}
    (stepped : recvStep loop recvCheck result = some following) : Orderly following := by
  have inside : InIteration loop.place := by rw [place]; trivial
  have silent : ¬Telling loop.place := by
    rintro ⟨unsent, same⟩
    cases place.symm.trans same
  cases result with
  | failed =>
      cases stepped
      exact orderly
  | closed =>
      cases stepped
      exact close_sock_orderly orderly inside silent
  | received chunk =>
      simp only [recvStep] at stepped
      split_ifs at stepped with possible
      cases stepped
      unfold AgentLoop.receive
      split_ifs with short greets
      · exact moved_orderly orderly inside silent trivial fun ⟨_, same⟩ => nomatch same
      · exact moved_orderly orderly inside silent trivial fun ⟨_, same⟩ => nomatch same
      · exact close_sock_orderly orderly inside silent

theorem send_orderly {sent : Nat} (place : loop.place = .answers sent) {meeting : Meeting}
    {result : SendResult} {following : AgentLoop}
    (stepped : sendStep meeting loop sent result = some following) : Orderly following := by
  have inside : InIteration loop.place := by rw [place]; trivial
  have silent : ¬Telling loop.place := by
    rintro ⟨unsent, same⟩
    cases place.symm.trans same
  cases result with
  | failed =>
      cases stepped
      exact orderly
  | nothing =>
      cases stepped
      exact close_sock_orderly orderly inside silent
  | sent count =>
      simp only [sendStep] at stepped
      split_ifs at stepped with possible short
      · cases stepped
        exact moved_orderly orderly inside silent trivial fun ⟨_, same⟩ => nomatch same
      · cases stepped
        exact complete_orderly orderly meeting inside silent

theorem stop_orderly : Orderly { loop with stopped := true } where
  held := orderly.held
  released := orderly.released
  greeted := orderly.greeted
  telling := orderly.telling

theorem step_orderly {meeting : Meeting} {event : AgentEvent} {following : AgentLoop}
    (permitted : NoneBehindGreeted loop event)
    (stepped : step meeting loop event = some following) : Orderly following := by
  cases event with
  | stop =>
      cases stepped
      exact stop_orderly orderly
  | tests =>
      cases place : loop.place <;> simp only [step, place] at stepped <;> cases stepped
      apply between_orderly orderly (by rw [place]; exact id)
      split_ifs <;> exact id
  | socketReturns succeeds =>
      cases succeeds <;> cases place : loop.place <;> simp only [step, place] at stepped <;>
        cases stepped
      · exact between_orderly orderly (by rw [place]; exact id) id
      · exact created_orderly orderly (by rw [place]; exact id) (permitted place rfl)
  | connectReturns succeeds =>
      cases succeeds <;> cases place : loop.place <;> simp only [step, place] at stepped <;>
        cases stepped
      · exact close_sock_orderly orderly (by rw [place]; trivial)
          (by rw [place]; exact fun ⟨_, same⟩ => nomatch same)
      · exact moved_orderly orderly (by rw [place]; trivial)
          (by rw [place]; exact fun ⟨_, same⟩ => nomatch same) trivial
          fun ⟨_, same⟩ => nomatch same
  | recvReturns result =>
      cases place : loop.place with
      | receives recvCheck =>
          simp only [step, place] at stepped
          exact recv_orderly orderly place stepped
      | testsStopped => simp only [step, place] at stepped; cases stepped
      | creates => simp only [step, place] at stepped; cases stepped
      | connects => simp only [step, place] at stepped; cases stepped
      | answers sent => simp only [step, place] at stepped; cases stepped
      | tells unsent => simp only [step, place] at stepped; cases stepped
      | returned => simp only [step, place] at stepped; cases stepped
  | sendReturns result =>
      cases place : loop.place with
      | answers sent =>
          simp only [step, place] at stepped
          exact send_orderly orderly place stepped
      | tells unsent =>
          simp only [step, place] at stepped
          cases stepped
          apply told_orderly orderly ⟨unsent, place⟩
          intro inside
          split_ifs at inside ⊢ with last
          · exact inside.elim
          · exact ⟨_, rfl⟩
      | testsStopped => simp only [step, place] at stepped; cases stepped
      | creates => simp only [step, place] at stepped; cases stepped
      | connects => simp only [step, place] at stepped; cases stepped
      | receives recvCheck => simp only [step, place] at stepped; cases stepped
      | returned => simp only [step, place] at stepped; cases stepped

/-- A socket created behind the connection in use is the second one open. -/
theorem second_socket {meeting : Meeting} (place : loop.place = .creates)
    (greeted : loop.greeted ≠ []) : ¬KeepsOneSocket meeting loop (.socketReturns true) := by
  intro keeps
  rcases orderly.held (.inr greeted) with ⟨latest, closes⟩
  have following := keeps
    { loop with place := .connects, sock := loop.created, created := loop.created + 1 }
    (by simp only [step, place])
  have same := following.single loop.sock loop.created
    ⟨by change loop.sock < loop.created + 1; omega, by
      change loop.sock ∉ loop.closes
      rw [closes, List.mem_range]
      exact Nat.lt_irrefl _⟩
    ⟨Nat.lt_succ_self _, by
      change loop.created ∉ loop.closes
      rw [closes, List.mem_range]
      omega⟩
  omega

theorem keeps_one_socket_step (meeting : Meeting) (event : AgentEvent) :
    KeepsOneSocket meeting loop event ↔ NoneBehindGreeted loop event := by
  constructor
  · intro keeps
    cases event with
    | socketReturns succeeds =>
        intro place created
        by_contra greeted
        rw [created] at keeps
        exact second_socket orderly place greeted keeps
    | tests => trivial
    | connectReturns succeeds => trivial
    | recvReturns result => trivial
    | sendReturns result => trivial
    | stop => trivial
  · intro permitted following stepped
    exact (step_orderly orderly permitted stepped).one_socket

end Steps

/-- Whatever the calls return, each socket but the connection in use is closed once
and no two are open just when no socket is created after a completed handshake. -/
theorem one_socket_iff (meeting : Meeting) (events : List AgentEvent) :
    Along (step meeting) (KeepsOneSocket meeting) manageImpl events ↔
      Along (step meeting) NoneBehindGreeted manageImpl events := by
  refine along_iff_of_invariant (fun _ _ => True) Orderly ?_ ?_ manage_impl_orderly
    (along_of_forall (fun _ _ => trivial) events)
  · intro loop event orderly _
    exact keeps_one_socket_step orderly meeting event
  · intro loop event following orderly _ keeps stepped
    exact step_orderly orderly ((keeps_one_socket_step orderly meeting event).mp keeps) stepped

def greetsOnce : List AgentEvent :=
  [.tests, .socketReturns true, .connectReturns true, .recvReturns (.received greeting),
    .sendReturns (.sent 4), .sendReturns (.sent 4), .sendReturns (.sent 2), .sendReturns (.sent 4),
    .sendReturns (.sent 2), .tests]

/-- It creates the next socket while the connection of the first one is in use. -/
theorem second_socket_open :
    ¬∀ (meeting : Meeting) (events : List AgentEvent),
      Along (step meeting) (KeepsOneSocket meeting) manageImpl events := by
  intro always
  have meeting : Meeting := { meetSeq := [], agentPassword := [] }
  have last := along_rest (always meeting (greetsOnce ++ [.socketReturns true])) rfl
  have reached := last.1 _ rfl
  have same := reached.single 0 1 ⟨Nat.zero_lt_two, List.not_mem_nil⟩
    ⟨Nat.one_lt_two, List.not_mem_nil⟩
  exact absurd same Nat.zero_ne_one

end Collabo.AgentManager
