import Collabo.CollaboServer
import Collabo.Library.PartialRuns

/-!
# Steps of the server

The events are those of the connections, the packets and restarts of the
encoder's threads, and changes of the host's context and of the database from
outside. An event that ends the process, or leaves the defined behaviour, leads
nowhere. The lemmas say once what each handler can do.
-/

namespace Collabo.ServerSteps

open UniqueTable Collabo.CString Collabo.MySQLConnector Collabo.ClientTable Collabo.EncoderSession
  Collabo.MediaStream Collabo.CollaboServer

set_option autoImplicit false

inductive ServerEvent where
  | opens (ws : WebSocket) (lib : Libav)
  | messages (ws : WebSocket) (message : Option Json) (dbCall : DbCall) (lib : Libav)
  | closes (ws : WebSocket) (lib : Libav)
  | packet (bytes : ByteString)
  | resizes (width height : Int) (lib : Libav)
  | hostChanges (host : ClbContext)
  | databaseChanges (db : Database)

def settled : Handled → Option Server
  | .returns server => some server
  | .escapes _ => none
  | .undefined _ => none

def step (server : Server) : ServerEvent → Option Server
  | .opens ws lib => if ws ∈ server.sockets then none else some (onOpenPtr server ws lib)
  | .messages ws message dbCall lib =>
      if ws ∈ server.sockets then settled (onMsgPtr server ws message dbCall lib) else none
  | .closes ws lib => if ws ∈ server.sockets then settled (terminate server ws lib) else none
  | .packet bytes =>
      if server.streaming.encoder.stopped = false ∧ server.streaming.encoder.headerWritten = true
      then
        some { server with
          streaming := muxWrite (viewers server.clientList) server.streaming bytes }
      else none
  | .resizes width height lib =>
      if server.streaming.encoder.stopped = false ∧ server.streaming.encoder.videoStream = true ∧
          (width ≠ server.streaming.encoder.eCtx.width ∨
            height ≠ server.streaming.encoder.eCtx.height)
      then
        some { server with
          streaming :=
            restartEncoder (viewers server.clientList) server.streaming width height lib }
      else none
  | .hostChanges host => some { server with host := host }
  | .databaseChanges db => some { server with db := db }

def startServer (db : Database) (host : ClbContext) (eCtx : EncoderContext) (audioBytes : Int) :
    Server where
  clientList := Table.empty
  sockets := []
  db := db
  host := host
  inputs := []
  accepted := []
  streaming :=
    { mode := .image
      clbCtx := host
      firstCount := 0
      header := []
      encoder := constructed eCtx audioBytes
      muxer := eCtx
      callbacks := []
      compressorCalls := []
      sent := [] }

structure Closed (server : Server) (ws : WebSocket) (lib : Libav) (following : Server) : Prop where
  clientList : ∃ client, findWs server.clientList ws = some client ∧
    following.clientList = server.clientList.erase client.mcode
  sockets : following.sockets = server.sockets.filter fun other => other ≠ ws
  accepted : following.accepted = server.accepted.filter fun other => other ≠ ws
  db : following.db = server.db
  host : following.host = server.host
  inputs : following.inputs = server.inputs
  streaming :
    following.clientList.size ≠ 0 ∧ following.streaming = server.streaming ∨
      following.clientList.size = 0 ∧ following.streaming =
        stateCallback (viewers following.clientList) server.host lib server.streaming
          .stopStreaming

theorem terminate_closed {server following : Server} {ws : WebSocket} {lib : Libav}
    (returned : terminate server ws lib = .returns following) :
    Closed server ws lib following := by
  unfold terminate onClosePtr at returned
  cases found : findWs server.clientList ws with
  | none =>
      simp only [found] at returned
      cases returned
  | some client =>
      simp only [found] at returned
      by_cases empty : (server.clientList.erase client.mcode).size = 0
      · rw [if_pos empty] at returned
        cases returned
        exact ⟨⟨client, found, rfl⟩, rfl, rfl, rfl, rfl, rfl, .inr ⟨empty, rfl⟩⟩
      · rw [if_neg empty] at returned
        cases returned
        exact ⟨⟨client, found, rfl⟩, rfl, rfl, rfl, rfl, rfl, .inl ⟨empty, rfl⟩⟩

theorem terminate_returns {server : Server} {ws : WebSocket} {client : Client}
    (found : findWs server.clientList ws = some client) (lib : Libav) :
    ∃ following, terminate server ws lib = .returns following := by
  unfold terminate onClosePtr
  simp only [found]
  by_cases empty : (server.clientList.erase client.mcode).size = 0
  · rw [if_pos empty]
    exact ⟨_, rfl⟩
  · rw [if_neg empty]
    exact ⟨_, rfl⟩

structure Joined (server : Server) (ws : WebSocket) (lib : Libav) (following : Server) : Prop where
  clientList : following.clientList = server.clientList.insert (ClientTable.connected ws)
  sockets : following.sockets = server.sockets ++ [ws]
  accepted : following.accepted = server.accepted
  db : following.db = server.db
  inputs : following.inputs = server.inputs
  streaming :
    following.clientList.size ≠ 1 ∧ following.streaming = (connectionOpens server ws).streaming ∨
      following.clientList.size = 1 ∧ following.streaming =
        stateCallback (viewers following.clientList) server.host lib
          (connectionOpens server ws).streaming .startStreaming

theorem on_open_joined (server : Server) (ws : WebSocket) (lib : Libav) :
    Joined server ws lib (onOpenPtr server ws lib) := by
  unfold onOpenPtr
  dsimp only
  by_cases first :
      ((connectionOpens server ws).clientList.insert (ClientTable.connected ws)).size = 1
  · rw [if_pos first]
    exact ⟨rfl, rfl, rfl, rfl, rfl, .inr ⟨first, rfl⟩⟩
  · rw [if_neg first]
    exact ⟨rfl, rfl, rfl, rfl, rfl, .inl ⟨first, rfl⟩⟩

/-- What the sender's entry becomes in an accepted SETTING, once the connection
under the same `mcode`, if there was one, has been closed. -/
structure Accepted (server : Server) (client info : Client) (dbCall : DbCall) (lib : Libav)
    (cleared : Server) : Prop where
  socket : info.ws = client.ws
  suited : isSuited server.db dbCall (cStr info.mcode) (cStr info.mscode) client.authority
      client.chief client.role =
    .done { result := true, checkAuth := info.authority, checkChief := info.chief,
            role := info.role }
  freed :
    server.clientList.find info.mcode = none ∧ cleared = server ∨
      ∃ other, server.clientList.find info.mcode = some other ∧
        Closed server other.ws lib cleared
  present : ∃ entry, cleared.clientList.find client.mcode = some entry

theorem cleared_of_closed {server cleared : Server} {client info : Client} {dbCall : DbCall}
    {lib : Libav} (property : Server → Prop)
    (accepts : Accepted server client info dbCall lib cleared) (unclosed : property server)
    (closes : ∀ ws following, Closed server ws lib following → property following) :
    property cleared := by
  rcases accepts.freed with ⟨_, same⟩ | ⟨other, _, closed⟩
  · rw [same]
    exact unclosed
  · exact closes other.ws cleared closed

def loggedIn (client info : Client) (cleared : Server) : Server :=
  let modified := modifyClient cleared client.mcode (settingInfo info)
  announce { modified with accepted := modified.accepted ++ [info.ws] } info

/-- The message is an AUTHORITY (2) or a CHIEF (3) for the client under `mcode`. -/
structure Addresses (json : Json) (identifier : Int) (mcode : ByteString) : Prop where
  identifier : json.int "identifier" = some identifier
  dst : json.text "dst" = some mcode

/-- The message is a SETTING with the strings of `info`. -/
structure Presents (json : Json) (info : Client) : Prop where
  identifier : json.int "identifier" = some 4
  mcode : json.text "mcode" = some info.mcode
  mscode : json.text "mscode" = some info.mscode
  custom : json.text "custom" = some info.custom
  name : json.text "name" = some info.name

/-- What a message that is handled to its end can do. -/
inductive MsgDone (server : Server) (client : Client) (json : Json) (dbCall : DbCall)
    (lib : Libav) : Server → Prop where
  | idle : MsgDone server client json dbCall lib server
  | input (input : HostInput) (granted : client.authority = true) :
      MsgDone server client json dbCall lib (callHost server client.ws input)
  | authority {dst : Client} {db : Database} (addresses : Addresses json 2 dst.mcode)
      (granted : client.chief = true) (found : server.clientList.find dst.mcode = some dst)
      (updated : MySQLConnector.changeAuth server.db dbCall (cStr dst.mcode) (!dst.authority)
        (cStr dst.mscode) = .done db) :
      MsgDone server client json dbCall lib
        (broadcast
          { modifyClient server dst.mcode (ClientTable.changeAuth !dst.authority) with db := db }
          (.authProcess (!dst.authority) dst.mcode))
  | chief {dst : Client} {db : Database} (addresses : Addresses json 3 dst.mcode)
      (granted : client.chief = true) (found : server.clientList.find dst.mcode = some dst)
      (updated : MySQLConnector.changeChief server.db dbCall (cStr client.mcode) (cStr dst.mcode)
        (cStr client.mscode) = .done db) :
      MsgDone server client json dbCall lib
        (broadcast { handOver server client.mcode dst.mcode with db := db }
          (.chiefProcess client.mcode dst.mcode))
  | accepted {info : Client} {cleared : Server} (presents : Presents json info)
      (accepts : Accepted server client info dbCall lib cleared) :
      MsgDone server client json dbCall lib (loggedIn client info cleared)
  | rejected {following : Server} (isSetting : json.int "identifier" = some 4)
      (closed : Closed server client.ws lib following) :
      MsgDone server client json dbCall lib following
  | mode {mode : Mode} (isLoggedIn : client.role ≠ -1) (granted : client.chief = true)
      (changed : server.streaming.mode ≠ mode) :
      MsgDone server client json dbCall lib (switchMode server mode lib)

/-- MOUSE and KEYBOARD: the input that the message holds, from a client with the
authority, goes to the host. -/
def passOn (server : Server) (client : Client) (held : Option HostInput) : Handled :=
  if client.authority then
    match held with
    | none => .escapes server
    | some input => .returns (callHost server client.ws input)
  else .returns server

def mouseInput (json : Json) : Option HostInput :=
  match json.int "flag", json.int "x", json.int "y" with
  | some flag, some x, some y => some (.mouse x y flag)
  | _, _, _ => none

def keyboardInput (json : Json) : Option HostInput :=
  match json.int "flag", json.int "kCode" with
  | some flag, some kCode => some (.keyboard kCode (flag ≠ 0))
  | _, _ => none

theorem on_mouse_eq (server : Server) (client : Client) (json : Json) :
    onMouse server client json = passOn server client (mouseInput json) := by
  unfold onMouse mouseInput
  cases json.int "flag" <;> cases json.int "x" <;> cases json.int "y" <;> rfl

theorem on_keyboard_eq (server : Server) (client : Client) (json : Json) :
    onKeyboard server client json = passOn server client (keyboardInput json) := by
  unfold onKeyboard keyboardInput
  cases json.int "flag" <;> cases json.int "kCode" <;> rfl

/-- AUTHORITY and CHIEF up to their statements: the message of a chief reaches the
member that the table has under its `dst`. -/
def toMember (server : Server) (client : Client) (json : Json)
    (goesOn : ByteString → Client → Handled) : Handled :=
  match json.text "dst" with
  | none => .escapes server
  | some name =>
      if client.chief then
        match server.clientList.find name with
        | none => .undefined .noDestination
        | some dst => goesOn name dst
      else .returns server

def afterUpdate (modified : Server) (message : StcMsg) (outcome : Outcome Database) : Handled :=
  match outcome with
  | .throws => .escapes modified
  | .undefined fault => .undefined fault
  | .done db => .returns (broadcast { modified with db := db } message)

section Members

variable {server following modified : Server} {client : Client} {json : Json} {dbCall : DbCall}
  {goesOn : ByteString → Client → Handled} {message : StcMsg} {outcome : Outcome Database}
  {fault : Fault}

theorem on_authority_eq (server : Server) (client : Client) (json : Json) (dbCall : DbCall) :
    onAuthority server client json dbCall =
      toMember server client json fun name dst =>
        afterUpdate (modifyClient server name (ClientTable.changeAuth !dst.authority))
          (.authProcess (!dst.authority) dst.mcode)
          (MySQLConnector.changeAuth server.db dbCall (cStr name) (!dst.authority)
            (cStr dst.mscode)) := rfl

theorem on_chief_eq (server : Server) (client : Client) (json : Json) (dbCall : DbCall) :
    onChief server client json dbCall =
      toMember server client json fun name _ =>
        afterUpdate (handOver server client.mcode name) (.chiefProcess client.mcode name)
          (MySQLConnector.changeChief server.db dbCall (cStr client.mcode) (cStr name)
            (cStr client.mscode)) := rfl

theorem to_member_named {dst : Client} (named : json.text "dst" = some dst.mcode)
    (chief : client.chief = true) (found : server.clientList.find dst.mcode = some dst) :
    toMember server client json goesOn = goesOn dst.mcode dst := by
  simp only [toMember, named, if_pos chief, found]

theorem to_member_returns (returned : toMember server client json goesOn = .returns following) :
    following = server ∨ ∃ dst, json.text "dst" = some dst.mcode ∧ client.chief = true ∧
      server.clientList.find dst.mcode = some dst ∧
      goesOn dst.mcode dst = .returns following := by
  unfold toMember at returned
  cases named : json.text "dst" with
  | none =>
      rw [named] at returned
      cases returned
  | some name =>
      cases chief : client.chief with
      | false =>
          simp only [named, chief, Bool.false_eq_true, if_false] at returned
          cases returned
          exact .inl rfl
      | true =>
          cases found : server.clientList.find name with
          | none =>
              simp only [named, chief, if_true, found] at returned
              cases returned
          | some dst =>
              have same : dst.mcode = name := (find_some found).2
              simp only [named, chief, if_true, found] at returned
              rw [← same] at found returned
              exact .inr ⟨dst, by rw [same], rfl, found, returned⟩

theorem to_member_undefined (undefined : toMember server client json goesOn = .undefined fault) :
    fault = .noDestination ∨ ∃ name dst, goesOn name dst = .undefined fault := by
  unfold toMember at undefined
  split at undefined
  · cases undefined
  · split_ifs at undefined
    split at undefined
    · cases undefined
      exact .inl rfl
    · exact .inr ⟨_, _, undefined⟩

theorem after_update_returns
    (returned : afterUpdate modified message outcome = .returns following) :
    ∃ db, outcome = .done db ∧ following = broadcast { modified with db := db } message := by
  cases outcome with
  | done db =>
      cases returned
      exact ⟨db, rfl, rfl⟩
  | throws => cases returned
  | undefined fault => cases returned

theorem after_update_undefined
    (undefined : afterUpdate modified message outcome = .undefined fault) :
    outcome = .undefined fault := by
  cases outcome with
  | done db => cases undefined
  | throws => cases undefined
  | undefined fault =>
      cases undefined
      rfl

end Members

section Messages

variable {server following : Server} {client : Client} {json : Json} {dbCall : DbCall} {lib : Libav}

theorem pass_on_done {held : Option HostInput}
    (returned : passOn server client held = .returns following) :
    MsgDone server client json dbCall lib following := by
  unfold passOn at returned
  cases granted : client.authority with
  | false =>
      rw [granted, if_neg (by simp)] at returned
      cases returned
      exact .idle
  | true =>
      rw [granted, if_pos rfl] at returned
      cases held with
      | none => cases returned
      | some input =>
          cases returned
          exact .input input granted

theorem on_authority_done (isAuthority : json.int "identifier" = some 2)
    (returned : onAuthority server client json dbCall = .returns following) :
    MsgDone server client json dbCall lib following := by
  rw [on_authority_eq] at returned
  rcases to_member_returns returned with same | ⟨dst, named, granted, found, went⟩
  · rw [same]
    exact .idle
  · obtain ⟨db, updated, result⟩ := after_update_returns went
    rw [result]
    exact .authority ⟨isAuthority, named⟩ granted found updated

theorem on_chief_done (isChief : json.int "identifier" = some 3)
    (returned : onChief server client json dbCall = .returns following) :
    MsgDone server client json dbCall lib following := by
  rw [on_chief_eq] at returned
  rcases to_member_returns returned with same | ⟨dst, named, granted, found, went⟩
  · rw [same]
    exact .idle
  · obtain ⟨db, updated, result⟩ := after_update_returns went
    rw [result]
    exact .chief ⟨isChief, named⟩ granted found updated

theorem log_in_returns {cleared : Server} {info : Client}
    (returned : logIn client info cleared = .returns following) :
    (∃ entry, cleared.clientList.find client.mcode = some entry) ∧
      following = loggedIn client info cleared := by
  unfold logIn at returned
  split at returned
  · cases returned
  · rename_i entry found
    cases returned
    exact ⟨⟨entry, found⟩, rfl⟩

theorem on_setting_outcome (isSetting : json.int "identifier" = some 4)
    (returned : onSetting server client json dbCall lib = .returns following) :
    (∃ info cleared, Presents json info ∧ Accepted server client info dbCall lib cleared ∧
        following = loggedIn client info cleared) ∨
      Closed server client.ws lib following := by
  unfold onSetting at returned
  split at returned
  · rename_i mcode mscode custom name mcodeField mscodeField customField nameField
    split at returned
    · cases returned
    · cases returned
    · rename_i suited answer
      cases result : suited.result with
      | false =>
          rw [result, if_neg (by simp)] at returned
          exact .inr (terminate_closed returned)
      | true =>
          rw [result, if_pos rfl] at returned
          have shape : suited = { result := true, checkAuth := suited.checkAuth,
                                  checkChief := suited.checkChief, role := suited.role } := by
            rw [← result]
          rw [shape] at answer
          simp only at returned
          split at returned
          · rename_i free
            obtain ⟨present, same⟩ := log_in_returns returned
            refine .inl ⟨_, _, ?_, ?_, same⟩
            · exact ⟨isSetting, mcodeField, mscodeField, customField, nameField⟩
            · exact ⟨rfl, answer, .inl ⟨free, rfl⟩, present⟩
          · rename_i other taken
            cases closing : terminate server other.ws lib with
            | escapes _ =>
                rw [closing] at returned
                cases returned
            | undefined _ =>
                rw [closing] at returned
                cases returned
            | returns cleared =>
                rw [closing] at returned
                obtain ⟨present, same⟩ := log_in_returns returned
                refine .inl ⟨_, _, ?_, ?_, same⟩
                · exact ⟨isSetting, mcodeField, mscodeField, customField, nameField⟩
                · exact ⟨rfl, answer, .inr ⟨other, taken, terminate_closed closing⟩, present⟩
  · cases returned

theorem on_setting_done (isSetting : json.int "identifier" = some 4)
    (returned : onSetting server client json dbCall lib = .returns following) :
    MsgDone server client json dbCall lib following := by
  rcases on_setting_outcome isSetting returned with ⟨info, cleared, presents, accepts, rfl⟩ | closed
  · exact .accepted presents accepts
  · exact .rejected isSetting closed

theorem on_mode_done (returned : onMode server client json lib = .returns following) :
    MsgDone server client json dbCall lib following := by
  unfold onMode at returned
  split at returned
  · cases returned
  · split at returned
    · rename_i allowed
      split at returned
      · rename_i change
        cases returned
        exact .mode allowed.1 allowed.2 change.2
      · split at returned
        · rename_i change
          cases returned
          exact .mode allowed.1 allowed.2 change.2
        · cases returned
          exact .idle
    · cases returned
      exact .idle

/-- Each message that is handled to its end is covered by one case. -/
theorem on_msg_done {ws : WebSocket} {message : Option Json}
    (returned : onMsgPtr server ws message dbCall lib = .returns following) :
    ∃ sender json, findWs server.clientList ws = some sender ∧ message = some json ∧
      MsgDone server sender json dbCall lib following := by
  unfold onMsgPtr at returned
  split at returned
  · cases returned
  · rename_i sender found
    split at returned
    · cases returned
    · rename_i json
      refine ⟨sender, json, found, rfl, ?_⟩
      split at returned
      · cases returned
      · rename_i identifier field
        unfold onIdentifier at returned
        split at returned
        · rw [on_mouse_eq] at returned
          exact pass_on_done returned
        · rw [on_keyboard_eq] at returned
          exact pass_on_done returned
        · exact on_authority_done field returned
        · exact on_chief_done field returned
        · exact on_setting_done field returned
        · exact on_mode_done returned
        · cases returned
          exact .idle

end Messages

inductive StepDone (server : Server) : ServerEvent → Server → Prop where
  | opens {ws : WebSocket} {lib : Libav} (fresh : ws ∉ server.sockets) :
      StepDone server (.opens ws lib) (onOpenPtr server ws lib)
  | messages {ws : WebSocket} {message : Option Json} {dbCall : DbCall} {lib : Libav}
      {following : Server} {sender : Client} {json : Json} (isOpen : ws ∈ server.sockets)
      (found : findWs server.clientList ws = some sender) (parsed : message = some json)
      (done : MsgDone server sender json dbCall lib following) :
      StepDone server (.messages ws message dbCall lib) following
  | closes {ws : WebSocket} {lib : Libav} {following : Server} (isOpen : ws ∈ server.sockets)
      (closed : Closed server ws lib following) : StepDone server (.closes ws lib) following
  | packet {bytes : ByteString} (running : server.streaming.encoder.stopped = false)
      (written : server.streaming.encoder.headerWritten = true) :
      StepDone server (.packet bytes)
        { server with streaming := muxWrite (viewers server.clientList) server.streaming bytes }
  | resizes {width height : Int} {lib : Libav}
      (running : server.streaming.encoder.stopped = false) :
      StepDone server (.resizes width height lib)
        { server with
          streaming :=
            restartEncoder (viewers server.clientList) server.streaming width height lib }
  | hostChanges {host : ClbContext} :
      StepDone server (.hostChanges host) { server with host := host }
  | databaseChanges {db : Database} :
      StepDone server (.databaseChanges db) { server with db := db }

theorem settled_returns {handled : Handled} {following : Server}
    (same : settled handled = some following) : handled = .returns following := by
  cases handled with
  | returns server => exact congrArg Handled.returns (Option.some.inj same)
  | escapes server => cases same
  | undefined fault => cases same

theorem step_done {server following : Server} {event : ServerEvent}
    (stepped : step server event = some following) : StepDone server event following := by
  cases event with
  | opens ws lib =>
      by_cases taken : ws ∈ server.sockets
      · simp only [step, if_pos taken] at stepped
        cases stepped
      · simp only [step, if_neg taken, Option.some.injEq] at stepped
        rw [← stepped]
        exact .opens taken
  | messages ws message dbCall lib =>
      by_cases isOpen : ws ∈ server.sockets
      · simp only [step, if_pos isOpen] at stepped
        obtain ⟨sender, json, found, parsed, done⟩ := on_msg_done (settled_returns stepped)
        exact .messages isOpen found parsed done
      · simp only [step, if_neg isOpen] at stepped
        cases stepped
  | closes ws lib =>
      by_cases isOpen : ws ∈ server.sockets
      · simp only [step, if_pos isOpen] at stepped
        exact .closes isOpen (terminate_closed (settled_returns stepped))
      · simp only [step, if_neg isOpen] at stepped
        cases stepped
  | packet bytes =>
      by_cases writing : server.streaming.encoder.stopped = false ∧
          server.streaming.encoder.headerWritten = true
      · simp only [step, if_pos writing, Option.some.injEq] at stepped
        rw [← stepped]
        exact .packet writing.1 writing.2
      · simp only [step, if_neg writing] at stepped
        cases stepped
  | resizes width height lib =>
      by_cases running : server.streaming.encoder.stopped = false ∧
          server.streaming.encoder.videoStream = true ∧
          (width ≠ server.streaming.encoder.eCtx.width ∨
            height ≠ server.streaming.encoder.eCtx.height)
      · simp only [step, if_pos running, Option.some.injEq] at stepped
        rw [← stepped]
        exact .resizes running.1
      · simp only [step, if_neg running] at stepped
        cases stepped
  | hostChanges host =>
      rw [← Option.some.inj stepped]
      exact .hostChanges
  | databaseChanges db =>
      rw [← Option.some.inj stepped]
      exact .databaseChanges

section Samples

/-- Meeting 1, of which `a` is the chief, `b` may work and `c` watches. -/
def sampleDatabase : Database where
  members _ mcode :=
    if mcode = ascii "a" then some 1
    else if mcode = ascii "b" then some 2
    else if mcode = ascii "c" then some 3
    else none
  selected _ text mnum := (atoi text, mnum)
  matched quoting text mnum meet member _ :=
    quoting = .bare ∧ text = ascii "1 OR 1=1" ∨ meet = atoi text ∧ member = mnum
  role meet mnum :=
    if meet = 1 then
      if mnum = 1 then some (some (ascii "0"))
      else if mnum = 2 then some (some (ascii "1"))
      else if mnum = 3 then some (some (ascii "2"))
      else none
    else none

def sampleHost : ClbContext where
  isVideoEnabled := true
  isAudioEnabled := true
  width := 1920
  height := 1080
  samplerate := 48000
  channels := 1
  isSilent := true

def sampleServer : Server :=
  startServer sampleDatabase sampleHost (encoderContext .image sampleHost) 0

def sampleLib : Libav := Libav.succeeds [[1], [2]] [[9]]

def meetingMessage (mcode mscode : String) : Option Json :=
  some
    { fields :=
        [("identifier", .number 4), ("mcode", .text (ascii mcode)),
          ("mscode", .text (ascii mscode)), ("custom", .text []), ("name", .text [])] }

/-- The `mscode` is the Base64 text of `1from`. -/
def settingMessage (mcode : String) : Option Json := meetingMessage mcode "MWZyb20="

def dstMessage (identifier : Int) (dst : String) : Option Json :=
  some { fields := [("identifier", .number identifier), ("dst", .text (ascii dst))] }

def modeMessage (mode : String) : Option Json :=
  some { fields := [("identifier", .number 5), ("mode", .text (ascii mode))] }

def opensEvent (ws : WebSocket) : ServerEvent := .opens ws sampleLib

def settingEvent (ws : WebSocket) (mcode : String) : ServerEvent :=
  .messages ws (settingMessage mcode) .succeeds sampleLib

def dstEvent (ws : WebSocket) (identifier : Int) (dst : String) : ServerEvent :=
  .messages ws (dstMessage identifier dst) .succeeds sampleLib

def modeEvent (ws : WebSocket) (mode : String) : ServerEvent :=
  .messages ws (modeMessage mode) .succeeds sampleLib

end Samples

end Collabo.ServerSteps
