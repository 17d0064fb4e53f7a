import Mathlib.Data.List.Basic
import Mathlib.Data.List.TakeWhile
import Mathlib.Tactic.Common

/-!
# Byte strings and the C functions read off them

`std::string` is a list of bytes, which may include zero. A `const char*` taken
from it with `c_str()` ends at the first zero byte.
-/

namespace Collabo.CString

set_option autoImplicit false

abbrev ByteString := List UInt8

/-- A literal of the source, which are all ASCII. -/
def ascii (literal : String) : ByteString := literal.toList.map fun char => UInt8.ofNat char.toNat

def cStr (text : ByteString) : ByteString := text.takeWhile (· ≠ 0)

def isDigit (char : UInt8) : Bool := 48 ≤ char && char ≤ 57

def isSpace (char : UInt8) : Bool := (9 ≤ char && char ≤ 13) || char = 32

def decimalValue (digits : ByteString) : Nat :=
  digits.foldl (fun value char => value * 10 + (char.toNat - 48)) 0

/-- Leading blanks, an optional sign, then as many digits as there are. -/
def atoi (text : ByteString) : Int :=
  match (cStr text).dropWhile isSpace with
  | [] => 0
  | sign :: rest =>
      if sign = 45 then -(decimalValue (rest.takeWhile isDigit) : Int)
      else if sign = 43 then decimalValue (rest.takeWhile isDigit)
      else decimalValue ((sign :: rest).takeWhile isDigit)

/-- `stream.getline(buffer, size)`: up to a line feed, at most `size - 1` bytes. -/
def getline (size : Nat) (stream : ByteString) : ByteString :=
  (stream.takeWhile (· ≠ 10)).take (size - 1)

def strstr (needle : ByteString) : ByteString → Option Nat
  | [] => if needle = [] then some 0 else none
  | char :: rest =>
      if needle.isPrefixOf (char :: rest) then some 0 else (strstr needle rest).map (· + 1)

inductive Fault where
  /-- `find(ws)` gave `end()` and the result was used -/
  | noEntry
  /-- an entry was modified through an iterator whose entry had been erased -/
  | erasedEntry
  /-- `find(dst)` gave `end()` and the result was used -/
  | noDestination
  /-- a fixed buffer was overrun -/
  | overrun
  /-- a statement was used that had never been created -/
  | noStatement
  deriving DecidableEq, Repr

/-- How a function call ends: with a value, with an exception that leaves it, or
outside the defined behaviour. -/
inductive Outcome (Value : Type) where
  | done (value : Value)
  | throws
  | undefined (fault : Fault)
  deriving DecidableEq, Repr

def Outcome.bind {Value Result : Type} (outcome : Outcome Value)
    (continuation : Value → Outcome Result) : Outcome Result :=
  match outcome with
  | .done value => continuation value
  | .throws => .throws
  | .undefined fault => .undefined fault

theorem c_str_visible (text : ByteString) : 0 ∉ cStr text := by
  intro member
  exact absurd (List.mem_takeWhile_imp member) (by decide)

theorem c_str_append {text : ByteString} (visible : 0 ∉ text) (rest : ByteString) :
    cStr (text ++ rest) = text ++ cStr rest := by
  apply List.takeWhile_append_of_pos
  intro char member
  apply decide_eq_true
  intro zero
  exact visible (zero ▸ member)

/-- `strncpy(buffer, source, count)`: the C string without its terminator, filled up
with zeros to `count` bytes. -/
def strncpy (buffer source : ByteString) (count : Nat) : Outcome ByteString :=
  if count ≤ buffer.length then
    .done ((cStr source ++ List.replicate count 0).take count ++ buffer.drop count)
  else .undefined .overrun

/-- A buffer read as a C string, past its end where it has no terminator. -/
def cStringOf (buffer : ByteString) : Outcome ByteString :=
  if 0 ∈ buffer then .done (cStr buffer) else .undefined .overrun

theorem bind_done {Value Result : Type} {outcome : Outcome Value}
    {continuation : Value → Outcome Result} {result : Result}
    (finished : outcome.bind continuation = .done result) :
    ∃ value, outcome = .done value ∧ continuation value = .done result := by
  cases outcome with
  | done value => exact ⟨value, rfl, finished⟩
  | throws => cases finished
  | undefined fault => cases finished

theorem bind_done_iff {Value Result : Type} {outcome : Outcome Value}
    {continuation : Value → Outcome Result} {result : Result} :
    outcome.bind continuation = .done result ↔
      ∃ value, outcome = .done value ∧ continuation value = .done result := by
  constructor
  · exact bind_done
  · rintro ⟨value, same, finished⟩
    rw [same]
    exact finished

def Outcome.FaultsIn {Value : Type} (outcome : Outcome Value) (faults : List Fault) : Prop :=
  ∀ fault, outcome = .undefined fault → fault ∈ faults

section Faults

variable {Value Result : Type} {faults : List Fault}

theorem done_faults (value : Value) : (Outcome.done value).FaultsIn faults := by
  intro fault same
  cases same

theorem throws_faults : (Outcome.throws : Outcome Value).FaultsIn faults := by
  intro fault same
  cases same

theorem undefined_faults {fault : Fault} (member : fault ∈ faults) :
    (Outcome.undefined fault : Outcome Value).FaultsIn faults := by
  intro other same
  cases same
  exact member

theorem bind_faults {outcome : Outcome Value} {continuation : Value → Outcome Result}
    (first : outcome.FaultsIn faults) (later : ∀ value, (continuation value).FaultsIn faults) :
    (outcome.bind continuation).FaultsIn faults := by
  cases outcome with
  | done value => exact later value
  | throws => exact throws_faults
  | undefined fault =>
      intro other same
      cases same
      exact first fault rfl

end Faults

/-- `sprintf(buffer, "%d", value)` into ten bytes, the terminator included. -/
def sprintfInt (value : Int) : Outcome Int :=
  if -99999999 ≤ value ∧ value ≤ 999999999 then .done value else .undefined .overrun

theorem sprintf_int_done_iff {value printed : Int} :
    sprintfInt value = .done printed ↔
      printed = value ∧ -99999999 ≤ value ∧ value ≤ 999999999 := by
  unfold sprintfInt
  split_ifs with fits
  · constructor
    · intro same
      cases same
      exact ⟨rfl, fits⟩
    · rintro ⟨same, _⟩
      rw [same]
  · exact iff_of_false nofun fun printable => fits printable.2

theorem sprintf_int_done {value printed : Int} (finished : sprintfInt value = .done printed) :
    printed = value :=
  (sprintf_int_done_iff.mp finished).1

theorem sprintf_int_faults (value : Int) :
    (sprintfInt value).FaultsIn [.overrun, .noStatement] := by
  unfold sprintfInt
  split
  · exact done_faults value
  · exact undefined_faults (by decide)

end Collabo.CString
