import Collabo.LockRequests
import Collabo.StoredRoles

/-!
# Messages that are not answered

`onMsgPtr` catches nothing: a text that is no JSON, a field that is missing or of
another type and a connection to the database that fails leave it as exceptions,
and AUTHORITY and CHIEF use what they find under `dst` unchecked. A SETTING that
closes a connection asks for the lock that its thread holds. The conditions say of
each kind of message when its branch runs to its end.
-/

namespace Collabo.MessageFailures

open UniqueTable PartialRuns Collabo.CString Collabo.MySQLConnector Collabo.ClientTable
  Collabo.EncoderSession Collabo.MediaStream Collabo.CollaboServer Collabo.ServerSteps
  Collabo.ListedConnections Collabo.ConnectionEntries Collabo.StoredRoles
open LockTrace (NeverWaitsForItself)
open Collabo.LockRequests (ClosesNobody Enters answerOf message_waits_iff)

set_option autoImplicit false

section Conditions

end Conditions

section Connector

variable {db : Database} {dbCall : DbCall} {mcode mscode : ByteString}

end Connector

section Branches

variable {server following : Server} {client : Client} {json : Json} {dbCall : DbCall} {lib : Libav}

def Returns (handled : Handled) : Prop := ∃ following, handled = .returns following

theorem log_in_returns {info : Client} (member : client ∈ server.clientList.entries) :
    Returns (logIn client info server) := by
  unfold logIn
  rw [find_of_mem member]
  exact ⟨_, rfl⟩

end Branches

section Faults

variable {server following : Server} {client : Client} {json : Json} {dbCall : DbCall} {lib : Libav}

end Faults

end Collabo.MessageFailures
