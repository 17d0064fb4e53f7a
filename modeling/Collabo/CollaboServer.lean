import Collabo.MediaStream
import Collabo.MySQLConnector
import Mathlib.Data.List.Sort

/-!
# The message handlers

`onOpenPtr`, `onMsgPtr` and `onClosePtr`. `terminate()` closes the connection and
runs `onClosePtr` before it returns. A message is given by what `JSON::parse`
makes of it. An exception that leaves a handler ends the process.
-/

namespace Collabo.CollaboServer

open UniqueTable Collabo.CString Collabo.MySQLConnector Collabo.ClientTable Collabo.EncoderSession
  Collabo.MediaStream

set_option autoImplicit false

/-- A number is given as the `int` it converts to. -/
inductive JsonValue where
  | number (value : Int)
  | boolean (value : Bool)
  | text (value : ByteString)
  | other
  deriving DecidableEq, Repr

/-- The fields of a JSON object. Any other document has none: reading a field of
it throws, as reading a missing field does. -/
structure Json where
  fields : List (String × JsonValue)
  deriving DecidableEq, Repr

def Json.value (json : Json) (field : String) : Option JsonValue :=
  (json.fields.find? fun entry => entry.1 = field).map Prod.snd

/-- `int value = json[field]`, or `none` where it throws. -/
def Json.int (json : Json) (field : String) : Option Int :=
  match json.value field with
  | some (.number value) => some value
  | some (.boolean value) => some (if value then 1 else 0)
  | some (.text _) => none
  | some .other => none
  | none => none

/-- `string value = json[field]`, or `none` where it throws. -/
def Json.text (json : Json) (field : String) : Option ByteString :=
  match json.value field with
  | some (.text value) => some value
  | some (.number _) => none
  | some (.boolean _) => none
  | some .other => none
  | none => none

inductive HostInput where
  | mouse (x y flag : Int)
  | keyboard (kCode : Int) (flag : Bool)
  deriving DecidableEq, Repr

/-- `sockets` are the open connections and `host` the context the host would
start streaming with. `inputs` are the callbacks so far with the connection whose
message caused them, `accepted` the open connections that have completed an
accepted SETTING. -/
structure Server where
  clientList : ClientList
  sockets : List WebSocket
  db : Database
  host : ClbContext
  inputs : List (WebSocket × HostInput)
  accepted : List WebSocket
  streaming : Streaming

inductive Handled where
  | returns (server : Server)
  | escapes (server : Server)
  | undefined (fault : Fault)

def Handled.andThen (handled : Handled) (continuation : Server → Handled) : Handled :=
  match handled with
  | .returns server => continuation server
  | .escapes server => .escapes server
  | .undefined fault => .undefined fault

def clbStateCallback (server : Server) (state : ClbState) (lib : Libav) : Server :=
  { server with
    streaming := stateCallback (viewers server.clientList) server.host lib server.streaming state }

/-- A new connection has been sent nothing, whatever an earlier one under the same
pointer was sent. -/
def connectionOpens (server : Server) (ws : WebSocket) : Server :=
  { server with
    sockets := server.sockets ++ [ws]
    streaming := { server.streaming with
      sent := server.streaming.sent.filter fun delivery => delivery.1 ≠ ws } }

def onOpenPtr (server : Server) (ws : WebSocket) (lib : Libav) : Server :=
  let opened := connectionOpens server ws
  let inserted := { opened with clientList := opened.clientList.insert (connected ws) }
  if inserted.clientList.size = 1 then clbStateCallback inserted .startStreaming lib
  else inserted

def onClosePtr (server : Server) (ws : WebSocket) (lib : Libav) : Handled :=
  match findWs server.clientList ws with
  | none => .undefined .noEntry
  | some client =>
      let erased := { server with clientList := server.clientList.erase client.mcode }
      if erased.clientList.size = 0 then .returns (clbStateCallback erased .stopStreaming lib)
      else .returns erased

/-- The connection is gone, and its handler runs. What that asks of `sharedMtx`, inside
the scope of a SETTING too, is in `LockRequests`. -/
def terminate (server : Server) (ws : WebSocket) (lib : Libav) : Handled :=
  onClosePtr
    { server with
      sockets := server.sockets.filter fun other => other ≠ ws
      accepted := server.accepted.filter fun other => other ≠ ws } ws lib

def callHost (server : Server) (ws : WebSocket) (input : HostInput) : Server :=
  { server with inputs := server.inputs ++ [(ws, input)] }

def onMouse (server : Server) (client : Client) (json : Json) : Handled :=
  if client.authority then
    match json.int "flag", json.int "x", json.int "y" with
    | some flag, some x, some y => .returns (callHost server client.ws (.mouse x y flag))
    | _, _, _ => .escapes server
  else .returns server

def onKeyboard (server : Server) (client : Client) (json : Json) : Handled :=
  if client.authority then
    match json.int "flag", json.int "kCode" with
    | some flag, some kCode =>
        .returns (callHost server client.ws (.keyboard kCode (flag ≠ 0)))
    | _, _ => .escapes server
  else .returns server

def clientSockets (clientList : ClientList) : List WebSocket :=
  clientList.entries.map Client.ws

def broadcast (server : Server) (msg : StcMsg) : Server :=
  { server with streaming := sendAll server.streaming (clientSockets server.clientList) msg }

def modifyClient (server : Server) (mcode : ByteString) (change : Client → Client) : Server :=
  { server with clientList := server.clientList.modify mcode change }

def onAuthority (server : Server) (client : Client) (json : Json) (dbCall : DbCall) : Handled :=
  match json.text "dst" with
  | none => .escapes server
  | some authDst =>
      if client.chief then
        match server.clientList.find authDst with
        | none => .undefined .noDestination
        | some dst =>
            let authority := !dst.authority
            let modified := modifyClient server authDst (ClientTable.changeAuth authority)
            match MySQLConnector.changeAuth server.db dbCall (cStr authDst) authority
                (cStr dst.mscode) with
            | .throws => .escapes modified
            | .undefined fault => .undefined fault
            | .done db =>
                .returns (broadcast { modified with db := db } (.authProcess authority dst.mcode))
      else .returns server

/-- The three modifications of CHIEF, of `src` and then twice of `dst`. -/
def handOver (server : Server) (src dst : ByteString) : Server :=
  let released := modifyClient server src (ClientTable.changeChief false)
  let granted := modifyClient released dst (ClientTable.changeChief true)
  modifyClient granted dst (ClientTable.changeAuth true)

def onChief (server : Server) (client : Client) (json : Json) (dbCall : DbCall) : Handled :=
  match json.text "dst" with
  | none => .escapes server
  | some chiefDst =>
      if client.chief then
        match server.clientList.find chiefDst with
        | none => .undefined .noDestination
        | some _ =>
            let modified := handOver server client.mcode chiefDst
            match MySQLConnector.changeChief server.db dbCall (cStr client.mcode) (cStr chiefDst)
                (cStr client.mscode) with
            | .throws => .escapes modified
            | .undefined fault => .undefined fault
            | .done db =>
                .returns (broadcast { modified with db := db }
                  (.chiefProcess client.mcode chiefDst))
      else .returns server

def memberOf (client : Client) : Member where
  authority := client.authority
  chief := client.chief
  mcode := client.mcode
  custom := client.custom
  name := client.name

/-- The members that CONNECTEDMEMBERINFO lists, in the order of the `mcode` index. -/
def connectedMembers (clientList : ClientList) : List Member :=
  ((clientList.entries.insertionSort fun left right => left.mcode ≤ right.mcode).filter
    fun client => client.role ≠ -1).map memberOf

/-- The messages of an accepted SETTING. -/
def announce (server : Server) (info : Client) : Server :=
  let alerted := sendAll server.streaming server.sockets (.accessMemberProcess (memberOf info))
  let listed := send alerted info.ws
    (.connectedMemberInfoProcess (connectedMembers server.clientList) server.clientList.size)
  let started := if listed.firstCount = 2 then sendVideoInitMsg listed info.ws else listed
  { server with
    streaming := if started.mode = .image then MediaStream.sendFull started else started }

/-- The modification of the sender's entry and what follows it. The entry may be
gone by then: it was the one under the new `mcode`. -/
def logIn (client info : Client) (server : Server) : Handled :=
  match server.clientList.find client.mcode with
  | none => .undefined .erasedEntry
  | some _ =>
      let modified := modifyClient server client.mcode (settingInfo info)
      .returns (announce { modified with accepted := modified.accepted ++ [info.ws] } info)

def onSetting (server : Server) (client : Client) (json : Json) (dbCall : DbCall) (lib : Libav) :
    Handled :=
  match json.text "mcode", json.text "mscode", json.text "custom", json.text "name" with
  | some mcode, some mscode, some custom, some name =>
      match isSuited server.db dbCall (cStr mcode) (cStr mscode) client.authority client.chief
          client.role with
      | .throws => .escapes server
      | .undefined fault => .undefined fault
      | .done suited =>
          if suited.result then
            let info : Client :=
              { ws := client.ws
                chief := suited.checkChief
                authority := suited.checkAuth
                role := suited.role
                mcode := mcode
                mscode := mscode
                custom := custom
                name := name }
            match server.clientList.find mcode with
            | none => logIn client info server
            | some other => (terminate server other.ws lib).andThen (logIn client info)
          else terminate server client.ws lib
  | _, _, _, _ => .escapes server

def switchMode (server : Server) (mode : Mode) (lib : Libav) : Server :=
  let stopped := clbStateCallback server .stopStreaming lib
  clbStateCallback { stopped with streaming := { stopped.streaming with mode := mode } }
    .startStreaming lib

def onMode (server : Server) (client : Client) (json : Json) (lib : Libav) : Handled :=
  match json.text "mode" with
  | none => .escapes server
  | some modeStr =>
      if client.role ≠ -1 ∧ client.chief then
        if modeStr = ascii "video" ∧ server.streaming.mode ≠ .video then
          .returns (switchMode server .video lib)
        else if modeStr = ascii "image" ∧ server.streaming.mode ≠ .image then
          .returns (switchMode server .image lib)
        else .returns server
      else .returns server

def onIdentifier (server : Server) (client : Client) (json : Json) (dbCall : DbCall) (lib : Libav) :
    Int → Handled
  | 0 => onMouse server client json
  | 1 => onKeyboard server client json
  | 2 => onAuthority server client json dbCall
  | 3 => onChief server client json dbCall
  | 4 => onSetting server client json dbCall lib
  | 5 => onMode server client json lib
  | _ => .returns server

/-- `message` is `none` where `JSON::parse` throws. -/
def onMsgPtr (server : Server) (ws : WebSocket) (message : Option Json) (dbCall : DbCall)
    (lib : Libav) : Handled :=
  match findWs server.clientList ws with
  | none => .undefined .noEntry
  | some client =>
      match message with
      | none => .escapes server
      | some json =>
          match json.int "identifier" with
          | none => .escapes server
          | some identifier => onIdentifier server client json dbCall lib identifier

end Collabo.CollaboServer
