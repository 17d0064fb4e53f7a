import Collabo.CString
import Collabo.Library.UniqueTable

/-!
# The table of clients

`ClientList` has an index on the socket, which is not unique, and a unique one on
`mcode`. A client that has not logged in yet has the empty `mcode`. A
modification works on the node of an entry, which the entry's `mcode` names.
-/

namespace Collabo.ClientTable

open UniqueTable Collabo.CString

set_option autoImplicit false

abbrev WebSocket := Nat

/-- A role of -1 stands for a client that has not logged in. -/
structure Client where
  ws : WebSocket
  chief : Bool
  authority : Bool
  role : Int
  mcode : ByteString
  mscode : ByteString
  custom : ByteString
  name : ByteString
  deriving DecidableEq, Repr

def connected (ws : WebSocket) : Client where
  ws := ws
  chief := false
  authority := false
  role := -1
  mcode := []
  mscode := []
  custom := []
  name := []

abbrev ClientList := Table Client ByteString Client.mcode

/-- `clientList.get<0>().find(ws)` -/
def findWs (clientList : ClientList) (ws : WebSocket) : Option Client :=
  clientList.entries.find? fun client => client.ws = ws

def changeAuth (newAuth : Bool) (client : Client) : Client := { client with authority := newAuth }

def changeChief (newChief : Bool) (client : Client) : Client := { client with chief := newChief }

/-- Everything but the socket is taken from `info`. -/
def settingInfo (info client : Client) : Client := { info with ws := client.ws }

def viewers (clientList : ClientList) : List WebSocket :=
  (clientList.entries.filter fun client => client.role ≠ -1).map Client.ws

end Collabo.ClientTable
