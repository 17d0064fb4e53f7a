import Collabo.GreetingReads
import Collabo.MemberMessages
import Mathlib.Logic.Function.Basic

/-!
# What the agent is told

The bytes that pass over each of the sockets of `manageImpl`. The four sends behind
the answer are made once each and their results are not looked at, so a piece can be
cut short and the next one follows where it was cut.
-/

namespace Collabo.AgentTranscripts

open FieldCodecs PartialRuns Collabo.CInt Collabo.CString Collabo.AgentManager
  Collabo.GreetingReads Collabo.MemberMessages

set_option autoImplicit false

def answer : ByteString := [0x78, 0x56, 0x34, 0x12]

def pieces (meeting : Meeting) : List ByteString :=
  [intBytes meeting.meetSeq.length, meeting.meetSeq,
    intBytes meeting.agentPassword.length, meeting.agentPassword]

structure Wire where
  heard : ByteString
  said : ByteString
  deriving DecidableEq, Repr

def silence : Wire where
  heard := []
  said := []

def Wire.add (wire more : Wire) : Wire where
  heard := wire.heard ++ more.heard
  said := wire.said ++ more.said

/-- What a `send` at this place puts on its socket. -/
def spoken : Place → SendResult → ByteString
  | .answers sent, .sent count => (answer.drop sent).take count
  | .tells (piece :: _), .sent count => piece.take count
  | _, _ => []

def exchanged (place : Place) : AgentEvent → Wire
  | .recvReturns result => { heard := taken (.recvReturns result), said := [] }
  | .sendReturns result => { heard := [], said := spoken place result }
  | .tests => silence
  | .socketReturns _ => silence
  | .connectReturns _ => silence
  | .stop => silence

structure Linked where
  loop : AgentLoop
  wire : Nat → Wire

def unlinked : Linked where
  loop := manageImpl
  wire _ := silence

def step (meeting : Meeting) (linked : Linked) (event : AgentEvent) : Option Linked :=
  (AgentManager.step meeting linked.loop event).map fun loop =>
    { loop := loop
      wire := Function.update linked.wire linked.loop.sock
        ((linked.wire linked.loop.sock).add (exchanged linked.loop.place event)) }

def Cut : List ByteString → List ByteString → Prop
  | [], _ => True
  | part :: parts, piece :: pieces => part <+: piece ∧ Cut parts pieces
  | _ :: _, [] => False

def stringCodec : Codec UInt8 ByteString :=
  (intCodec.andThen textCodec).built (fun text => ((text.length : Int), text)) Prod.snd

/-- How an agent reads the meeting and the password behind the answer. -/
def meetingCodec : Codec UInt8 (ByteString × ByteString) := stringCodec.pair stringCodec

/-- No byte is read behind the greeting, nothing is said before the whole of it was
heard, and the meeting is told behind the whole answer. -/
structure Follows (meeting : Meeting) (wire : Wire) : Prop where
  heard : wire.heard.length ≤ 4
  silent : wire.heard ≠ greeting → wire.said = []
  told : wire.said <+: answer ∨
    ∃ parts, wire.said = answer ++ parts.flatten ∧ Cut parts (pieces meeting)

/-- The agent behind the socket reads the meeting if none of the sends was cut short,
and otherwise it does not. -/
def InformedWhenWhole (meeting : Meeting) (wire : Wire) : Prop :=
  ∀ behind, wire.said = answer ++ behind →
    (meetingCodec.whole behind = some (meeting.meetSeq, meeting.agentPassword) ↔
      behind = (pieces meeting).flatten)

structure Spoken (meeting : Meeting) (linked : Linked) : Prop where
  follows : ∀ sock, Follows meeting (linked.wire sock)
  informed : ∀ sock, InformedWhenWhole meeting (linked.wire sock)

section Cuts

theorem cut_length {parts pieces : List ByteString} (cut : Cut parts pieces) :
    parts.flatten.length ≤ pieces.flatten.length := by
  induction parts generalizing pieces with
  | nil => exact Nat.zero_le _
  | cons part parts induction =>
      cases pieces with
      | nil => exact cut.elim
      | cons piece pieces =>
          have head := cut.1.length_le
          have tail := induction cut.2
          rw [List.flatten_cons, List.flatten_cons, List.length_append, List.length_append]
          omega

theorem cut_whole {parts pieces : List ByteString} (cut : Cut parts pieces)
    (same : parts.flatten.length = pieces.flatten.length) : parts.flatten = pieces.flatten := by
  induction parts generalizing pieces with
  | nil =>
      rw [List.flatten_nil, List.length_nil] at same
      exact (List.eq_nil_of_length_eq_zero same.symm).symm
  | cons part parts induction =>
      cases pieces with
      | nil => exact cut.elim
      | cons piece pieces =>
          have head := cut.1.length_le
          have tail := cut_length cut.2
          rw [List.flatten_cons, List.flatten_cons, List.length_append, List.length_append] at same
          rw [List.flatten_cons, List.flatten_cons, cut.1.eq_of_length (by omega),
            induction cut.2 (by omega)]

theorem cut_append {parts pieces rest : List ByteString} {part piece : ByteString}
    (cut : Cut parts pieces) (next : pieces.drop parts.length = piece :: rest)
    (front : part <+: piece) :
    Cut (parts ++ [part]) pieces ∧ pieces.drop (parts ++ [part]).length = rest := by
  induction parts generalizing pieces with
  | nil =>
      rw [List.length_nil, List.drop_zero] at next
      rw [next]
      exact ⟨⟨front, trivial⟩, rfl⟩
  | cons first parts induction =>
      cases pieces with
      | nil => exact cut.elim
      | cons piece pieces =>
          rw [List.length_cons, List.drop_succ_cons] at next
          obtain ⟨tail, left⟩ := induction cut.2 next
          exact ⟨⟨cut.1, tail⟩, left⟩

end Cuts

section Reading

theorem items_read_length {count : Nat} {input value rest : ByteString}
    (read : (items count).read input = some (value, rest)) :
    input.length = value.length + rest.length := by
  simp only [items] at read
  split_ifs at read with enough
  cases read
  rw [List.length_take, List.length_drop]
  omega

theorem items_read_count {count : Nat} {input value rest : ByteString}
    (read : (items count).read input = some (value, rest)) : value.length = count := by
  simp only [items] at read
  split_ifs at read with enough
  cases read
  rw [List.length_take]
  omega

theorem int_read_length {input rest : ByteString} {value : Int}
    (read : intCodec.read input = some (value, rest)) : input.length = 4 + rest.length := by
  obtain ⟨⟨bytes, later⟩, four, built⟩ := Option.map_eq_some_iff.mp read
  cases built
  rw [items_read_length four, items_read_count four]

/-- The length field has four bytes, whatever length it says. -/
theorem string_read_length {input text rest : ByteString}
    (read : stringCodec.read input = some (text, rest)) :
    input.length = 4 + text.length + rest.length := by
  obtain ⟨⟨⟨size, bytes⟩, later⟩, both, built⟩ := Option.map_eq_some_iff.mp read
  cases built
  simp only [Codec.andThen] at both
  cases first : intCodec.read input with
  | none =>
      rw [first] at both
      cases both
  | some head =>
      rw [first] at both
      obtain ⟨⟨tail, behind⟩, second, same⟩ := Option.map_eq_some_iff.mp both
      cases same
      have size := int_read_length first
      have string := items_read_length second
      dsimp only
      omega

theorem meeting_whole_length {input meetSeq password : ByteString}
    (whole : meetingCodec.whole input = some (meetSeq, password)) :
    input.length = 8 + meetSeq.length + password.length := by
  unfold Codec.whole at whole
  cases read : meetingCodec.read input with
  | none =>
      rw [read] at whole
      cases whole
  | some parsed =>
      obtain ⟨fields, rest⟩ := parsed
      rw [read] at whole
      cases rest with
      | cons byte more => cases whole
      | nil =>
          cases whole
          simp only [meetingCodec, Codec.pair, Codec.andThen] at read
          cases first : stringCodec.read input with
          | none =>
              rw [first] at read
              cases read
          | some head =>
              rw [first] at read
              obtain ⟨⟨tail, behind⟩, second, same⟩ := Option.map_eq_some_iff.mp read
              cases same
              have seq := string_read_length first
              have word := string_read_length second
              rw [List.length_nil] at word
              dsimp only
              omega

theorem pieces_decoded {meeting : Meeting} (seqFits : meeting.meetSeq.length < 2 ^ 31)
    (passwordFits : meeting.agentPassword.length < 2 ^ 31) :
    meetingCodec.whole (pieces meeting).flatten =
      some (meeting.meetSeq, meeting.agentPassword) := by
  have valid : ∀ {text : ByteString}, text.length < 2 ^ 31 → stringCodec.valid text :=
    fun {text} fits => ⟨⟨int_valid fits, text_valid text⟩, rfl⟩
  have whole : meetingCodec.whole (meetingCodec.encode (meeting.meetSeq, meeting.agentPassword)) =
      some (meeting.meetSeq, meeting.agentPassword) :=
    whole_encode ⟨valid seqFits, valid passwordFits⟩
  have encoded : meetingCodec.encode (meeting.meetSeq, meeting.agentPassword) =
      (pieces meeting).flatten := by
    simp [meetingCodec, stringCodec, pieces, intCodec, textCodec]
  rw [encoded] at whole
  exact whole

theorem pieces_length (meeting : Meeting) :
    (pieces meeting).flatten.length =
      8 + meeting.meetSeq.length + meeting.agentPassword.length := by
  simp [pieces, int_bytes_length]
  omega

variable {meeting : Meeting} {wire : Wire}

theorem follows_informed (seqFits : meeting.meetSeq.length < 2 ^ 31)
    (passwordFits : meeting.agentPassword.length < 2 ^ 31) (follows : Follows meeting wire) :
    InformedWhenWhole meeting wire := by
  intro behind said
  have parts : ∃ parts, behind = parts.flatten ∧ Cut parts (pieces meeting) := by
    rcases follows.told with short | ⟨parts, all, cut⟩
    · rw [said] at short
      have bounded := short.length_le
      rw [List.length_append] at bounded
      have nothing : behind = [] := List.eq_nil_of_length_eq_zero (by omega)
      exact ⟨[], nothing, trivial⟩
    · exact ⟨parts, List.append_cancel_left (said.symm.trans all), cut⟩
  obtain ⟨parts, same, cut⟩ := parts
  constructor
  · intro read
    have length := meeting_whole_length read
    rw [same]
    apply cut_whole cut
    rw [← same, length, pieces_length]
  · intro whole
    rw [whole]
    exact pieces_decoded seqFits passwordFits

end Reading

section Steps

variable {meeting : Meeting} {linked : Linked}

def AtPlace (meeting : Meeting) (wire : Wire) : Place → Prop
  | .testsStopped => True
  | .creates => True
  | .connects => wire = silence
  | .receives recvCheck => wire = { heard := recvCheck, said := [] } ∧ recvCheck.length < 4
  | .answers sent => wire = { heard := greeting, said := answer.take sent }
  | .tells unsent => wire.heard = greeting ∧
      ∃ parts, wire.said = answer ++ parts.flatten ∧ Cut parts (pieces meeting) ∧
        (pieces meeting).drop parts.length = unsent
  | .returned => True

/-- The sockets that are not there yet are silent, and the others follow. -/
structure Speaks (meeting : Meeting) (linked : Linked) : Prop where
  follows : ∀ sock, Follows meeting (linked.wire sock)
  fresh : ∀ sock, linked.loop.created ≤ sock → linked.wire sock = silence
  current : InIteration linked.loop.place → linked.loop.sock < linked.loop.created
  place : AtPlace meeting (linked.wire linked.loop.sock) linked.loop.place

theorem silence_follows : Follows meeting silence where
  heard := Nat.zero_le _
  silent _ := rfl
  told := .inl List.nil_prefix

theorem add_silence (wire : Wire) : wire.add silence = wire := by
  simp [Wire.add, silence]

theorem heard_follows {heard : ByteString} (short : heard.length ≤ 4) :
    Follows meeting { heard := heard, said := [] } where
  heard := short
  silent _ := rfl
  told := .inl List.nil_prefix

theorem answer_follows (sent : Nat) :
    Follows meeting { heard := greeting, said := answer.take sent } where
  heard := by
    change greeting.length ≤ 4
    decide
  silent different := absurd rfl different
  told := .inl (List.take_prefix sent answer)

theorem told_follows {wire : Wire} {parts : List ByteString} (heard : wire.heard = greeting)
    (said : wire.said = answer ++ parts.flatten) (cut : Cut parts (pieces meeting)) :
    Follows meeting wire where
  heard := by rw [heard]; decide
  silent different := absurd heard different
  told := .inr ⟨parts, said, cut⟩

theorem silent_speaks (speaks : Speaks meeting linked) {loop : AgentLoop}
    (created : loop.created = linked.loop.created) (sock : loop.sock = linked.loop.sock)
    (inside : InIteration loop.place → InIteration linked.loop.place)
    (place : AtPlace meeting (linked.wire linked.loop.sock) loop.place) :
    Speaks meeting { loop := loop, wire := linked.wire } where
  follows := speaks.follows
  fresh := by rw [created]; exact speaks.fresh
  current stays := by rw [created, sock]; exact speaks.current (inside stays)
  place := by rw [sock]; exact place

theorem exchanged_speaks (speaks : Speaks meeting linked) {loop : AgentLoop} {wire : Wire}
    (created : loop.created = linked.loop.created) (sock : loop.sock = linked.loop.sock)
    (inside : InIteration linked.loop.place) (follows : Follows meeting wire)
    (place : AtPlace meeting wire loop.place) :
    Speaks meeting
      { loop := loop, wire := Function.update linked.wire linked.loop.sock wire } where
  follows := by
    intro other
    change Follows meeting (Function.update linked.wire linked.loop.sock wire other)
    by_cases same : other = linked.loop.sock
    · rw [same, Function.update_self]
      exact follows
    · rw [Function.update_of_ne same]
      exact speaks.follows other
  fresh := by
    intro other later
    have current := speaks.current inside
    change loop.created ≤ other at later
    change Function.update linked.wire linked.loop.sock wire other = silence
    rw [Function.update_of_ne (by omega)]
    exact speaks.fresh other (created ▸ later)
  current _ := by
    change loop.sock < loop.created
    rw [created, sock]
    exact speaks.current inside
  place := by
    change AtPlace meeting (Function.update linked.wire linked.loop.sock wire loop.sock) loop.place
    rw [sock, Function.update_self]
    exact place

theorem step_some {event : AgentEvent} {following : Linked}
    (stepped : step meeting linked event = some following) :
    ∃ loop, AgentManager.step meeting linked.loop event = some loop ∧ following =
      { loop := loop
        wire := Function.update linked.wire linked.loop.sock
          ((linked.wire linked.loop.sock).add (exchanged linked.loop.place event)) } := by
  obtain ⟨loop, moved, same⟩ := Option.map_eq_some_iff.mp stepped
  exact ⟨loop, moved, same.symm⟩

theorem update_silence :
    Function.update linked.wire linked.loop.sock
      ((linked.wire linked.loop.sock).add silence) = linked.wire := by
  rw [add_silence, Function.update_eq_self]

theorem recv_speaks (speaks : Speaks meeting linked) {recvCheck : ByteString}
    (place : linked.loop.place = .receives recvCheck) {result : RecvResult} {loop : AgentLoop}
    (moved : recvStep linked.loop recvCheck result = some loop) :
    Speaks meeting
      { loop := loop
        wire := Function.update linked.wire linked.loop.sock
          ((linked.wire linked.loop.sock).add (exchanged (.receives recvCheck)
            (.recvReturns result))) } := by
  have inside : InIteration linked.loop.place := by rw [place]; trivial
  have current := speaks.place
  rw [place] at current
  obtain ⟨wire, short⟩ := current
  rw [wire]
  cases result with
  | failed =>
      cases moved
      have quiet : Wire.add { heard := recvCheck, said := [] }
          (exchanged (.receives recvCheck) (.recvReturns .failed)) =
            { heard := recvCheck, said := [] } := by
        simp [Wire.add, exchanged, taken]
      rw [quiet]
      refine exchanged_speaks speaks rfl rfl inside (heard_follows (Nat.le_of_lt short)) ?_
      rw [place]
      exact ⟨rfl, short⟩
  | closed =>
      cases moved
      have quiet : Wire.add { heard := recvCheck, said := [] }
          (exchanged (.receives recvCheck) (.recvReturns .closed)) =
            { heard := recvCheck, said := [] } := by
        simp [Wire.add, exchanged, taken]
      rw [quiet]
      exact exchanged_speaks speaks rfl rfl inside (heard_follows (Nat.le_of_lt short)) trivial
  | received chunk =>
      simp only [recvStep] at moved
      split_ifs at moved with possible
      cases moved
      have heard : Wire.add { heard := recvCheck, said := [] }
          (exchanged (.receives recvCheck) (.recvReturns (.received chunk))) =
            { heard := recvCheck ++ chunk, said := [] } := rfl
      have bounded : (recvCheck ++ chunk).length ≤ 4 := by
        rw [List.length_append]
        omega
      rw [heard]
      unfold AgentLoop.receive
      split_ifs with less greets
      · exact exchanged_speaks speaks rfl rfl inside (heard_follows bounded) ⟨rfl, less⟩
      · refine exchanged_speaks speaks rfl rfl inside (heard_follows bounded) ?_
        rw [greets]
        rfl
      · exact exchanged_speaks speaks rfl rfl inside (heard_follows bounded) trivial

theorem answer_speaks (speaks : Speaks meeting linked) {sent : Nat}
    (place : linked.loop.place = .answers sent) {result : SendResult} {loop : AgentLoop}
    (moved : sendStep meeting linked.loop sent result = some loop) :
    Speaks meeting
      { loop := loop
        wire := Function.update linked.wire linked.loop.sock
          ((linked.wire linked.loop.sock).add (exchanged (.answers sent)
            (.sendReturns result))) } := by
  have inside : InIteration linked.loop.place := by rw [place]; trivial
  have current := speaks.place
  rw [place] at current
  have wire : linked.wire linked.loop.sock = { heard := greeting, said := answer.take sent } :=
    current
  rw [wire]
  cases result with
  | failed =>
      cases moved
      have quiet : Wire.add { heard := greeting, said := answer.take sent }
          (exchanged (.answers sent) (.sendReturns .failed)) =
            { heard := greeting, said := answer.take sent } := by
        simp [Wire.add, exchanged, spoken]
      rw [quiet]
      refine exchanged_speaks speaks rfl rfl inside (answer_follows sent) ?_
      rw [place]
      rfl
  | nothing =>
      cases moved
      have quiet : Wire.add { heard := greeting, said := answer.take sent }
          (exchanged (.answers sent) (.sendReturns .nothing)) =
            { heard := greeting, said := answer.take sent } := by
        simp [Wire.add, exchanged, spoken]
      rw [quiet]
      exact exchanged_speaks speaks rfl rfl inside (answer_follows sent) trivial
  | sent count =>
      have further : Wire.add { heard := greeting, said := answer.take sent }
          (exchanged (.answers sent) (.sendReturns (.sent count))) =
            { heard := greeting, said := answer.take (sent + count) } := by
        simp [Wire.add, exchanged, spoken, List.take_add]
      rw [further]
      simp only [sendStep] at moved
      split_ifs at moved with possible less
      · cases moved
        exact exchanged_speaks speaks rfl rfl inside (answer_follows (sent + count)) rfl
      · cases moved
        refine exchanged_speaks speaks rfl rfl inside (answer_follows (sent + count)) ?_
        have whole : answer.take (sent + count) = answer :=
          List.take_of_length_le (by rw [show answer.length = 4 from rfl]; omega)
        exact ⟨rfl, [], by rw [whole]; rfl, trivial, rfl⟩

/-- What one of the four sends puts on the wire is the front of its piece. -/
theorem spoken_front (piece : ByteString) (rest : List ByteString) (result : SendResult) :
    spoken (.tells (piece :: rest)) result <+: piece := by
  cases result with
  | sent count => exact List.take_prefix count piece
  | nothing => exact List.nil_prefix
  | failed => exact List.nil_prefix

theorem tell_speaks (speaks : Speaks meeting linked) {unsent : List ByteString}
    (place : linked.loop.place = .tells unsent) (result : SendResult) :
    Speaks meeting
      { loop := { linked.loop with
          place := if unsent.length ≤ 1 then .testsStopped else .tells unsent.tail }
        wire := Function.update linked.wire linked.loop.sock
          ((linked.wire linked.loop.sock).add (exchanged (.tells unsent)
            (.sendReturns result))) } := by
  have inside : InIteration linked.loop.place := by rw [place]; trivial
  have current := speaks.place
  rw [place] at current
  obtain ⟨heard, parts, said, cut, left⟩ := current
  have heardStill : ((linked.wire linked.loop.sock).add (exchanged (.tells unsent)
      (.sendReturns result))).heard = greeting := by
    rw [← heard]
    exact List.append_nil _
  cases unsent with
  | nil =>
      have saidStill : ((linked.wire linked.loop.sock).add (exchanged (.tells [])
          (.sendReturns result))).said = answer ++ parts.flatten := by
        rw [← said]
        cases result with
        | sent count => exact List.append_nil _
        | nothing => exact List.append_nil _
        | failed => exact List.append_nil _
      exact exchanged_speaks speaks rfl rfl inside (told_follows heardStill saidStill cut) trivial
  | cons piece rest =>
      obtain ⟨cutNext, leftNext⟩ := cut_append cut left (spoken_front piece rest result)
      have saidNext : ((linked.wire linked.loop.sock).add (exchanged (.tells (piece :: rest))
          (.sendReturns result))).said =
            answer ++ (parts ++ [spoken (.tells (piece :: rest)) result]).flatten := by
        rw [List.flatten_append, List.flatten_singleton, ← List.append_assoc, ← said]
        rfl
      refine exchanged_speaks speaks rfl rfl inside
        (told_follows heardStill saidNext cutNext) ?_
      change AtPlace meeting _ (if _ then _ else _)
      split_ifs with last
      · trivial
      · exact ⟨heardStill, _, saidNext, cutNext, leftNext⟩

theorem created_speaks (speaks : Speaks meeting linked) :
    Speaks meeting
      { loop := { linked.loop with
          place := .connects
          sock := linked.loop.created
          created := linked.loop.created + 1 }
        wire := linked.wire } where
  follows := speaks.follows
  fresh sock later := speaks.fresh sock (Nat.le_of_succ_le later)
  current _ := Nat.lt_succ_self _
  place := speaks.fresh _ (le_refl _)

theorem step_speaks (speaks : Speaks meeting linked) {event : AgentEvent} {following : Linked}
    (stepped : step meeting linked event = some following) : Speaks meeting following := by
  obtain ⟨loop, moved, same⟩ := step_some stepped
  rw [same]
  cases event with
  | stop =>
      cases moved
      rw [exchanged, update_silence]
      exact silent_speaks speaks rfl rfl id speaks.place
  | tests =>
      rw [exchanged, update_silence]
      cases place : linked.loop.place <;> simp only [AgentManager.step, place] at moved <;>
        cases moved
      refine silent_speaks speaks rfl rfl ?_ ?_
      · dsimp only
        split_ifs <;> exact False.elim
      · dsimp only
        split_ifs <;> trivial
  | socketReturns succeeds =>
      rw [exchanged, update_silence]
      cases succeeds <;> cases place : linked.loop.place <;>
        simp only [AgentManager.step, place] at moved <;> cases moved
      · exact silent_speaks speaks rfl rfl False.elim trivial
      · exact created_speaks speaks
  | connectReturns succeeds =>
      rw [exchanged, update_silence]
      cases succeeds <;> cases place : linked.loop.place <;>
        simp only [AgentManager.step, place] at moved <;> cases moved
      · exact silent_speaks speaks rfl rfl False.elim trivial
      · have current := speaks.place
        rw [place] at current
        have inside : InIteration linked.loop.place := by rw [place]; trivial
        exact silent_speaks speaks rfl rfl (fun _ => inside) ⟨current, by decide⟩
  | recvReturns result =>
      cases place : linked.loop.place with
      | receives recvCheck =>
          simp only [AgentManager.step, place] at moved
          exact recv_speaks speaks place moved
      | testsStopped => simp only [AgentManager.step, place] at moved; cases moved
      | creates => simp only [AgentManager.step, place] at moved; cases moved
      | connects => simp only [AgentManager.step, place] at moved; cases moved
      | answers sent => simp only [AgentManager.step, place] at moved; cases moved
      | tells unsent => simp only [AgentManager.step, place] at moved; cases moved
      | returned => simp only [AgentManager.step, place] at moved; cases moved
  | sendReturns result =>
      cases place : linked.loop.place with
      | answers sent =>
          simp only [AgentManager.step, place] at moved
          exact answer_speaks speaks place moved
      | tells unsent =>
          simp only [AgentManager.step, place] at moved
          cases moved
          exact tell_speaks speaks place result
      | testsStopped => simp only [AgentManager.step, place] at moved; cases moved
      | creates => simp only [AgentManager.step, place] at moved; cases moved
      | connects => simp only [AgentManager.step, place] at moved; cases moved
      | receives recvCheck => simp only [AgentManager.step, place] at moved; cases moved
      | returned => simp only [AgentManager.step, place] at moved; cases moved

theorem unlinked_speaks (meeting : Meeting) : Speaks meeting unlinked where
  follows _ := silence_follows
  fresh _ _ := rfl
  current inside := inside.elim
  place := trivial

end Steps

def KeepsSpoken (meeting : Meeting) (linked : Linked) (event : AgentEvent) : Prop :=
  ∀ following, step meeting linked event = some following → Spoken meeting following

/-- However the calls return, no socket carries anything but the fronts of the answer
and of the four pieces, in their order and behind the greeting, and the agent behind it
reads the meeting just when the pieces are all there. -/
theorem run_spoken (meeting : Meeting) (seqFits : meeting.meetSeq.length < 2 ^ 31)
    (passwordFits : meeting.agentPassword.length < 2 ^ 31) (events : List AgentEvent) :
    Along (step meeting) (KeepsSpoken meeting) unlinked events := by
  apply along_of_invariant (Speaks meeting) _ _ (unlinked_speaks meeting)
    (along_of_forall (fun _ _ => trivial) events : Along (step meeting) (fun _ _ => True) _ _)
  · intro linked event speaks _ following stepped
    have follows := (step_speaks speaks stepped).follows
    exact ⟨follows, fun sock => follows_informed seqFits passwordFits (follows sock)⟩
  · intro linked event following speaks _ stepped
    exact step_speaks speaks stepped

/-- The second send is cut short, and the loop goes on with a socket of its own. -/
theorem cut_run_spoken :
    Along (step { meetSeq := [49, 50], agentPassword := [112] })
      (KeepsSpoken { meetSeq := [49, 50], agentPassword := [112] }) unlinked
      [.tests, .socketReturns true, .connectReturns true,
        .recvReturns (.received [0x12, 0x34, 0x56, 0x78]), .sendReturns (.sent 4),
        .sendReturns (.sent 4), .sendReturns (.sent 1), .sendReturns (.sent 4),
        .sendReturns (.sent 1), .tests, .socketReturns true] :=
  run_spoken { meetSeq := [49, 50], agentPassword := [112] } (by decide) (by decide) _

end Collabo.AgentTranscripts
