import Mathlib.Data.List.Basic
import Mathlib.Tactic.Common

/-!
# Logs of deliveries

A log of messages, each with its receiver. A broadcast delivers one message to
each of a list of receivers, and what was delivered to one receiver can be
forgotten.
-/

namespace Deliveries

set_option autoImplicit false

variable {Receiver Msg Other : Type*} [DecidableEq Receiver]

def received (log : List (Receiver × Msg)) (receiver : Receiver) : List Msg :=
  (log.filter fun delivery => delivery.1 = receiver).map Prod.snd

def broadcast (receivers : List Receiver) (msg : Msg) : List (Receiver × Msg) :=
  receivers.map fun receiver => (receiver, msg)

def forget (log : List (Receiver × Msg)) (gone : Receiver) : List (Receiver × Msg) :=
  log.filter fun delivery => delivery.1 ≠ gone

/-- The log in other messages. Those that have no counterpart are left out. -/
def translate (change : Msg → Option Other) (log : List (Receiver × Msg)) :
    List (Receiver × Other) :=
  log.filterMap fun delivery => (change delivery.2).map fun msg => (delivery.1, msg)

section Rules

variable {log more : List (Receiver × Msg)} {receiver gone : Receiver}

theorem received_append : received (log ++ more) receiver =
    received log receiver ++ received more receiver := by
  unfold received
  rw [List.filter_append, List.map_append]

theorem received_broadcast (receivers : List Receiver) (msg : Msg) :
    received (broadcast receivers msg) receiver =
      List.replicate (receivers.count receiver) msg := by
  unfold received broadcast
  rw [List.filter_map, List.map_map]
  have copies : (receivers.filter fun other => other = receiver).map (fun _ => msg) =
      List.replicate (receivers.count receiver) msg := by
    rw [List.map_const', ← List.countP_eq_length_filter]
    rfl
  rw [← copies]
  rfl

/-- A receiver gets the messages in turn, each as often as it is listed. -/
theorem received_broadcasts (receivers : List Receiver) (messages : List Msg) :
    received (messages.flatMap (broadcast receivers)) receiver =
      messages.flatMap (List.replicate (receivers.count receiver)) := by
  induction messages with
  | nil => rfl
  | cons msg rest induction =>
      rw [List.flatMap_cons, List.flatMap_cons, received_append, received_broadcast, induction]

theorem received_forget_self : received (forget log gone) gone = [] := by
  unfold received forget
  simp

theorem received_forget_other (different : receiver ≠ gone) :
    received (forget log gone) receiver = received log receiver := by
  unfold received forget
  rw [List.filter_filter]
  congr 1
  apply List.filter_congr
  intro delivery _
  by_cases same : delivery.1 = receiver
  · simp [same, different]
  · simp [same]

theorem received_translate (change : Msg → Option Other) :
    received (translate change log) receiver = (received log receiver).filterMap change := by
  induction log with
  | nil => rfl
  | cons delivery rest induction =>
      unfold received translate at induction ⊢
      cases changed : change delivery.2 with
      | none =>
          rw [List.filterMap_cons_none (by rw [changed]; rfl), induction]
          by_cases same : delivery.1 = receiver
          · rw [List.filter_cons_of_pos (by simpa using same), List.map_cons,
              List.filterMap_cons_none changed]
          · rw [List.filter_cons_of_neg (by simpa using same)]
      | some msg =>
          rw [List.filterMap_cons_some (b := (delivery.1, msg)) (by rw [changed]; rfl)]
          by_cases same : delivery.1 = receiver
          · rw [List.filter_cons_of_pos (by simpa using same), List.map_cons, induction,
              List.filter_cons_of_pos (by simpa using same), List.map_cons,
              List.filterMap_cons_some changed]
          · rw [List.filter_cons_of_neg (by simpa using same), induction,
              List.filter_cons_of_neg (by simpa using same)]

end Rules

end Deliveries
