import Collabo.VideoHeader
import Collabo.Library.SingleHeader

/-!
# SETTING in two steps

Nothing keeps the encoder's thread, or the handler of another client, from
running between the modification that gives the sender's entry its role and the
messages that follow. What takes the mutex in exclusive mode waits for the
handlers in progress, and so does a `terminate()`. A refused SETTING only closes
its sender.
-/

namespace Collabo.LoginSteps

open UniqueTable PartialRuns Deliveries SingleHeader Collabo.CString Collabo.MySQLConnector
  Collabo.ClientTable Collabo.EncoderSession Collabo.MediaStream Collabo.CollaboServer
  Collabo.ServerSteps Collabo.ListedConnections Collabo.VideoHeader

set_option autoImplicit false

/-- A handler between its steps: the entry that it found and what it became. -/
structure Join where
  client : Client
  info : Client
  deriving DecidableEq, Repr

structure Joins where
  server : Server
  joining : List Join

def rekeyed (client info : Client) (server : Server) : Server :=
  let modified := modifyClient server client.mcode (settingInfo info)
  { modified with accepted := modified.accepted ++ [info.ws] }

def rekeys (client info : Client) (server : Server) : Option (Join × Server) :=
  match server.clientList.find client.mcode with
  | none => none
  | some _ => some ({ client := client, info := info }, rekeyed client info server)

/-- The handler's copy of the entry with the strings of the message and what
`isSuited` answered. -/
def presented (client : Client) (suited : Suited) (mcode mscode custom name : ByteString) :
    Client where
  ws := client.ws
  chief := suited.checkChief
  authority := suited.checkAuth
  role := suited.role
  mcode := mcode
  mscode := mscode
  custom := custom
  name := name

/-- `onSetting` up to the modification. `isAlone` says that no other handler is in
progress. -/
def settingRekeys (isAlone : Bool) (server : Server) (client : Client) (json : Json)
    (dbCall : DbCall) (lib : Libav) : Option (Join × Server) :=
  match json.text "mcode", json.text "mscode", json.text "custom", json.text "name" with
  | some mcode, some mscode, some custom, some name =>
      match isSuited server.db dbCall (cStr mcode) (cStr mscode) client.authority client.chief
          client.role with
      | .throws => none
      | .undefined _ => none
      | .done suited =>
          if suited.result then
            let info := presented client suited mcode mscode custom name
            match server.clientList.find mcode with
            | none => rekeys client info server
            | some other =>
                if isAlone then (settled (terminate server other.ws lib)).bind (rekeys client info)
                else none
          else none
  | _, _, _, _ => none

inductive JoinEvent where
  | opens (ws : WebSocket) (lib : Libav)
  | closes (ws : WebSocket) (lib : Libav)
  | rekeys (ws : WebSocket) (json : Json) (dbCall : DbCall) (lib : Libav)
  | announces (ws : WebSocket)
  | packet (packet : Packet)
  | hostChanges (host : ClbContext)
  | databaseChanges (db : Database)

def joiningSockets (state : Joins) : List WebSocket := state.joining.map fun join => join.info.ws

def alone (state : Joins) : Bool := state.joining.isEmpty

def rekeysJoin (state : Joins) (ws : WebSocket) (json : Json) (dbCall : DbCall) (lib : Libav) :
    Option Joins :=
  if json.int "identifier" = some 4 ∧ ws ∈ state.server.sockets ∧ ws ∉ joiningSockets state then
    (findWs state.server.clientList ws).bind fun client =>
      (settingRekeys (alone state) state.server client json dbCall lib).map fun rekeyed =>
        { server := rekeyed.2, joining := state.joining ++ [rekeyed.1] }
  else none

def announcesJoin (state : Joins) (ws : WebSocket) : Option Joins :=
  (state.joining.find? fun join => join.info.ws = ws).map fun join =>
    { server := announce state.server join.info
      joining := state.joining.filter fun other => other.info.ws ≠ ws }

def step (state : Joins) : JoinEvent → Option Joins
  | .opens ws lib =>
      if alone state ∧ ws ∉ state.server.sockets then
        some { state with server := onOpenPtr state.server ws lib }
      else none
  | .closes ws lib =>
      if alone state ∧ ws ∈ state.server.sockets then
        (settled (terminate state.server ws lib)).map fun server => { state with server := server }
      else none
  | .rekeys ws json dbCall lib => rekeysJoin state ws json dbCall lib
  | .announces ws => announcesJoin state ws
  | .packet packet =>
      some { state with
        server := { state.server with
          streaming :=
            readPacket (viewers state.server.clientList) state.server.streaming packet } }
  | .hostChanges host => some { state with server := { state.server with host := host } }
  | .databaseChanges db => some { state with server := { state.server with db := db } }

section Handler

variable {server : Server} {client : Client} {json : Json} {dbCall : DbCall} {lib : Libav}
  {result : Join × Server}

theorem rekeys_some {info : Client} (done : rekeys client info server = some result) :
    (∃ entry, server.clientList.find client.mcode = some entry) ∧
      result = ({ client := client, info := info }, rekeyed client info server) := by
  unfold rekeys at done
  split at done
  · cases done
  · next entry found => exact ⟨⟨entry, found⟩, (Option.some.inj done).symm⟩

/-- What the first step of an accepted SETTING leaves, and that the second one
leaves what `onSetting` does. -/
structure Rekeys (isAlone : Bool) (server : Server) (client : Client) (json : Json)
    (dbCall : DbCall) (lib : Libav) (result : Join × Server) (info : Client)
    (cleared : Server) : Prop where
  presents : Presents json info
  accepts : Accepted server client info dbCall lib cleared
  waited : cleared = server ∨ isAlone = true
  result_eq : result = ({ client := client, info := info }, rekeyed client info cleared)
  handled : onSetting server client json dbCall lib = .returns (announce result.2 result.1.info)

theorem setting_rekeys_some {isAlone : Bool} (isSetting : json.int "identifier" = some 4)
    (done : settingRekeys isAlone server client json dbCall lib = some result) :
    ∃ info cleared, Rekeys isAlone server client json dbCall lib result info cleared := by
  unfold settingRekeys at done
  split at done
  · rename_i mcode mscode custom name mcodeField mscodeField customField nameField
    split at done
    · cases done
    · cases done
    · rename_i suited answer
      cases accepted : suited.result with
      | false =>
          rw [accepted, if_neg (by simp)] at done
          cases done
      | true =>
          rw [accepted, if_pos rfl] at done
          have shape : suited = { result := true, checkAuth := suited.checkAuth,
                                  checkChief := suited.checkChief, role := suited.role } := by
            rw [← accepted]
          let info := presented client suited mcode mscode custom name
          have presents : Presents json info :=
            ⟨isSetting, mcodeField, mscodeField, customField, nameField⟩
          simp only at done
          split at done
          · rename_i free
            rcases rekeys_some done with ⟨⟨entry, present⟩, same⟩
            refine ⟨info, server, presents,
              ⟨rfl, answer.trans (congrArg Outcome.done shape), .inl ⟨free, rfl⟩,
                ⟨entry, present⟩⟩,
              .inl rfl, same, ?_⟩
            unfold onSetting
            simp only [mcodeField, mscodeField, customField, nameField, answer, accepted, if_true,
              free, logIn, present, same]
            rfl
          · rename_i other taken
            split at done
            · rename_i waited
              cases closing : terminate server other.ws lib with
              | escapes _ =>
                  rw [closing] at done
                  cases done
              | undefined _ =>
                  rw [closing] at done
                  cases done
              | returns cleared =>
                  rw [closing] at done
                  rcases rekeys_some done with ⟨⟨entry, present⟩, same⟩
                  refine ⟨info, cleared, presents,
                    ⟨rfl, answer.trans (congrArg Outcome.done shape),
                      .inr ⟨other, taken, terminate_closed closing⟩, ⟨entry, present⟩⟩,
                    .inr waited, same, ?_⟩
                  unfold onSetting
                  simp only [mcodeField, mscodeField, customField, nameField, answer, accepted,
                    if_true, taken, closing, Handled.andThen, logIn, present, same]
                  rfl
            · cases done
  · cases done

end Handler

inductive JoinDone (state : Joins) : JoinEvent → Joins → Prop where
  | opens {ws : WebSocket} {lib : Libav} (isAlone : state.joining = [])
      (fresh : ws ∉ state.server.sockets) :
      JoinDone state (.opens ws lib) { state with server := onOpenPtr state.server ws lib }
  | closes {ws : WebSocket} {lib : Libav} {following : Server} (isAlone : state.joining = [])
      (closed : Closed state.server ws lib following) :
      JoinDone state (.closes ws lib) { state with server := following }
  | rekeys {ws : WebSocket} {json : Json} {dbCall : DbCall} {lib : Libav} {client info : Client}
      {cleared : Server} (found : findWs state.server.clientList ws = some client)
      (notJoining : ws ∉ joiningSockets state) (presents : Presents json info)
      (accepts : Accepted state.server client info dbCall lib cleared)
      (waited : cleared = state.server ∨ state.joining = []) :
      JoinDone state (.rekeys ws json dbCall lib)
        { server := rekeyed client info cleared
          joining := state.joining ++ [{ client := client, info := info }] }
  | announces {ws : WebSocket} {join : Join} (member : join ∈ state.joining)
      (same : join.info.ws = ws) :
      JoinDone state (.announces ws)
        { server := announce state.server join.info
          joining := state.joining.filter fun other => other.info.ws ≠ ws }
  | packet {packet : Packet} :
      JoinDone state (.packet packet)
        { state with
          server := { state.server with
            streaming :=
              readPacket (viewers state.server.clientList) state.server.streaming packet } }
  | hostChanges {host : ClbContext} :
      JoinDone state (.hostChanges host)
        { state with server := { state.server with host := host } }
  | databaseChanges {db : Database} :
      JoinDone state (.databaseChanges db) { state with server := { state.server with db := db } }

section Steps

variable {state following : Joins}

theorem alone_iff : alone state = true ↔ state.joining = [] := by
  unfold alone
  exact List.isEmpty_iff

theorem rekeys_join_done {ws : WebSocket} {json : Json} {dbCall : DbCall} {lib : Libav}
    (stepped : rekeysJoin state ws json dbCall lib = some following) :
    JoinDone state (.rekeys ws json dbCall lib) following := by
  unfold rekeysJoin at stepped
  split_ifs at stepped with ready
  rcases ready with ⟨isSetting, _, notJoining⟩
  rcases Option.bind_eq_some_iff.mp stepped with ⟨client, found, mapped⟩
  rcases Option.map_eq_some_iff.mp mapped with ⟨result, done, rfl⟩
  rcases setting_rekeys_some isSetting done with ⟨info, cleared, rekeys⟩
  rw [rekeys.result_eq]
  exact .rekeys found notJoining rekeys.presents rekeys.accepts
    (rekeys.waited.imp_right alone_iff.mp)

theorem announces_join_done {ws : WebSocket} (stepped : announcesJoin state ws = some following) :
    JoinDone state (.announces ws) following := by
  unfold announcesJoin at stepped
  rcases Option.map_eq_some_iff.mp stepped with ⟨join, found, rfl⟩
  have same : join.info.ws = ws := by simpa using List.find?_some found
  exact .announces (List.mem_of_find?_eq_some found) same

theorem step_join_done {event : JoinEvent} (stepped : step state event = some following) :
    JoinDone state event following := by
  cases event with
  | opens ws lib =>
      simp only [step] at stepped
      split_ifs at stepped with ready
      rw [← Option.some.inj stepped]
      exact .opens (alone_iff.mp ready.1) ready.2
  | closes ws lib =>
      simp only [step] at stepped
      split_ifs at stepped with ready
      rcases Option.map_eq_some_iff.mp stepped with ⟨server, handled, rfl⟩
      exact .closes (alone_iff.mp ready.1) (terminate_closed (settled_returns handled))
  | rekeys ws json dbCall lib => exact rekeys_join_done stepped
  | announces ws => exact announces_join_done stepped
  | packet packet =>
      rw [← Option.some.inj stepped]
      exact .packet
  | hostChanges host =>
      rw [← Option.some.inj stepped]
      exact .hostChanges
  | databaseChanges db =>
      rw [← Option.some.inj stepped]
      exact .databaseChanges

end Steps

/-- Streams are sent only to connections with an accepted SETTING. -/
structure Viewed (server : Server) : Prop where
  listed : Listed server
  accepted : ∀ ws ∈ viewers server.clientList, ws ∈ server.accepted

section Viewing

variable {server following : Server} {client : Client} {json : Json} {dbCall : DbCall} {lib : Libav}

theorem viewed_of_same (viewed : Viewed server)
    (clientList : following.clientList = server.clientList)
    (sockets : following.sockets = server.sockets)
    (accepted : following.accepted = server.accepted) : Viewed following := by
  constructor
  · constructor
    · rw [clientList]
      exact viewed.listed.distinct
    · rw [clientList, sockets]
      exact viewed.listed.connected
  · rw [clientList, accepted]
    exact viewed.accepted

theorem closed_viewed {gone : WebSocket} (viewed : Viewed server)
    (closed : Closed server gone lib following) : Viewed following := by
  refine ⟨closed_listed viewed.listed closed, ?_⟩
  intro ws viewing
  rcases mem_viewers.mp viewing with ⟨client, member, hasRole, same⟩
  rcases (closed_entries viewed.listed closed).mp member with ⟨before, different⟩
  have accepted := viewed.accepted ws (mem_viewers.mpr ⟨client, before, hasRole, same⟩)
  rw [closed.accepted, List.mem_filter]
  rw [same] at different
  exact ⟨accepted, by simpa using different⟩

theorem cleared_viewed {info : Client} {cleared : Server} (viewed : Viewed server)
    (accepts : Accepted server client info dbCall lib cleared) : Viewed cleared :=
  cleared_of_closed Viewed accepts viewed (fun _ _ closed => closed_viewed viewed closed)

theorem rekeyed_viewed {info : Client} {cleared : Server} (viewed : Viewed server)
    (member : client ∈ server.clientList.entries) (presents : Presents json info)
    (accepts : Accepted server client info dbCall lib cleared) :
    Viewed (rekeyed client info cleared) := by
  have listed := msg_listed viewed.listed member (.accepted presents accepts)
  refine ⟨⟨listed.distinct, listed.connected⟩, ?_⟩
  intro ws viewing
  rcases List.mem_append.mp (logged_in_viewers viewed.listed member accepts viewing) with own | kept
  · exact List.mem_append_right _ own
  · exact List.mem_append_left _ ((cleared_viewed viewed accepts).accepted ws kept)

theorem opened_viewed {ws : WebSocket} (viewed : Viewed server) (fresh : ws ∉ server.sockets)
    (lib : Libav) : Viewed (onOpenPtr server ws lib) := by
  have joined := on_open_joined server ws lib
  refine ⟨opened_listed viewed.listed fresh lib, ?_⟩
  rw [joined.clientList, insert_connected_viewers, joined.accepted]
  exact viewed.accepted

theorem msg_viewed (viewed : Viewed server) (member : client ∈ server.clientList.entries)
    (done : MsgDone server client json dbCall lib following) : Viewed following := by
  have listed := msg_listed viewed.listed member done
  cases done with
  | idle => exact viewed
  | input input granted => exact ⟨listed, viewed.accepted⟩
  | @authority dst db addresses granted found updated =>
      have same := change_auth_viewers server.clientList (!dst.authority) dst.mcode
      refine ⟨listed, ?_⟩
      intro ws viewing
      exact viewed.accepted ws (same ▸ viewing)
  | @chief dst db addresses granted found updated =>
      have same := hand_over_viewers server client.mcode dst.mcode
      refine ⟨listed, ?_⟩
      intro ws viewing
      exact viewed.accepted ws (same ▸ viewing)
  | accepted presents accepts =>
      exact ⟨listed, (rekeyed_viewed viewed member presents accepts).accepted⟩
  | rejected isSetting closed => exact closed_viewed viewed closed
  | mode isLoggedIn granted changed => exact ⟨listed, viewed.accepted⟩

theorem step_viewed {event : ServerEvent} (viewed : Viewed server)
    (stepped : ServerSteps.step server event = some following) : Viewed following := by
  cases step_done stepped with
  | opens fresh => exact opened_viewed viewed fresh _
  | messages isOpen found parsed done => exact msg_viewed viewed (find_ws_some found).1 done
  | closes isOpen closed => exact closed_viewed viewed closed
  | packet running written => exact viewed_of_same viewed rfl rfl rfl
  | resizes running => exact viewed_of_same viewed rfl rfl rfl
  | hostChanges => exact viewed_of_same viewed rfl rfl rfl
  | databaseChanges => exact viewed_of_same viewed rfl rfl rfl

theorem start_viewed (db : Database) (host : ClbContext) (eCtx : EncoderContext)
    (audioBytes : Int) : Viewed (startServer db host eCtx audioBytes) := by
  refine ⟨start_listed db host eCtx audioBytes, ?_⟩
  intro ws viewing
  cases viewing

theorem reached_viewed {db : Database} {host : ClbContext} {eCtx : EncoderContext}
    {audioBytes : Int}
    (reached : Reaches ServerSteps.step (fun _ _ => True)
      (startServer db host eCtx audioBytes) server) : Viewed server :=
  invariant_of_step Viewed (start_viewed db host eCtx audioBytes)
    (fun _ _ _ viewed _ stepped => step_viewed viewed stepped) reached

/-- The other entry is gone, but the sender's is not, so streaming goes on. -/
theorem cleared_streaming {info : Client} {cleared : Server}
    (accepts : Accepted server client info dbCall lib cleared) :
    cleared.streaming = server.streaming := by
  rcases accepts.freed with ⟨_, same⟩ | ⟨other, _, closed⟩
  · rw [same]
  · rcases closed.streaming with ⟨_, same⟩ | ⟨empty, _⟩
    · exact same
    · rcases accepts.present with ⟨entry, present⟩
      have member := (find_some present).1
      have noEntries : cleared.clientList.entries = [] := List.length_eq_zero_iff.mp empty
      rw [noEntries] at member
      cases member

end Viewing

section Sending

theorem announce_sent (server : Server) (info : Client) :
    (announce server info).streaming.sent =
      server.streaming.sent ++
        (Deliveries.broadcast server.sockets (.accessMemberProcess (memberOf info)) ++
          (Deliveries.broadcast [info.ws] (.connectedMemberInfoProcess
              (connectedMembers server.clientList) server.clientList.size) ++
            if server.streaming.firstCount = 2 then
              Deliveries.broadcast [info.ws] (.initVideo (videoInit server.streaming))
            else [])) := by
  unfold announce sendAll send
  dsimp only
  by_cases complete : server.streaming.firstCount = 2
  · rw [if_pos complete, if_pos complete]
    split_ifs
    · simp [MediaStream.sendFull, sendVideoInitMsg, send, Deliveries.broadcast, videoInit]
    · simp [sendVideoInitMsg, send, Deliveries.broadcast, videoInit]
  · rw [if_neg complete, if_neg complete]
    split_ifs
    · simp [MediaStream.sendFull, Deliveries.broadcast]
    · simp [Deliveries.broadcast]

theorem announce_inbox (server : Server) (info : Client) (ws : WebSocket) :
    ∃ more, Quiet initOf packetOf more ∧
      inbox (announce server info).streaming ws =
        inbox server.streaming ws ++ (more ++
          if server.streaming.firstCount = 2 ∧ info.ws = ws then
            [.initVideo (videoInit server.streaming)]
          else []) := by
  have appended : inbox (announce server info).streaming ws =
      received (announce server info).streaming.sent ws := rfl
  rw [appended, announce_sent, received_append, received_append, received_append,
    received_broadcast, received_broadcast, ← List.append_assoc (List.replicate _ _)]
  have alerted : Quiet initOf packetOf
      (List.replicate (server.sockets.count ws) (StcMsg.accessMemberProcess (memberOf info))) :=
    quiet_replicate _ rfl rfl
  have listed : Quiet initOf packetOf
      (List.replicate ([info.ws].count ws) (StcMsg.connectedMemberInfoProcess
        (connectedMembers server.clientList) server.clientList.size)) :=
    quiet_replicate _ rfl rfl
  refine ⟨_, quiet_append alerted listed, ?_⟩
  have init : received
      (if server.streaming.firstCount = 2 then
        Deliveries.broadcast [info.ws] (StcMsg.initVideo (videoInit server.streaming))
      else []) ws =
      if server.streaming.firstCount = 2 ∧ info.ws = ws then
        [.initVideo (videoInit server.streaming)]
      else [] := by
    by_cases complete : server.streaming.firstCount = 2
    · rw [if_pos complete, received_broadcast, List.count_singleton]
      by_cases own : info.ws = ws
      · simp [complete, own]
      · simp [own]
    · rw [if_neg complete, if_neg (fun both => complete both.1)]
      rfl
  rw [init]
  rfl

theorem announce_keeps (server : Server) (info : Client) :
    (announce server info).streaming.firstCount = server.streaming.firstCount ∧
      (announce server info).streaming.clbCtx = server.streaming.clbCtx ∧
      (announce server info).streaming.callbacks = server.streaming.callbacks ∧
      (announce server info).streaming.mode = server.streaming.mode := by
  unfold announce sendAll send
  dsimp only
  split_ifs <;> exact ⟨rfl, rfl, rfl, rfl⟩

section Packets

variable {streaming : Streaming}

theorem read_packet_first (viewers : List WebSocket) (packet : Packet)
    (empty : streaming.firstCount = 0) :
    readPacket viewers streaming packet =
      { streaming with header := streaming.header ++ [packet], firstCount := 1 } := by
  unfold readPacket
  rw [if_pos (by omega)]
  dsimp only
  rw [if_neg (by omega), empty]

theorem read_packet_second (viewers : List WebSocket) (packet : Packet)
    (half : streaming.firstCount = 1) :
    readPacket viewers streaming packet =
      sendVideoInitMsgAll viewers
        { streaming with header := streaming.header ++ [packet], firstCount := 2 } := by
  unfold readPacket
  rw [if_pos (by omega)]
  dsimp only
  rw [if_pos (by omega), half]

theorem read_packet_later (viewers : List WebSocket) (packet : Packet)
    (complete : 2 ≤ streaming.firstCount) :
    readPacket viewers streaming packet = sendVideoPktAll viewers streaming packet := by
  unfold readPacket
  rw [if_neg (by omega)]

end Packets

end Sending

def settingJson (mcode : String) : Json := (settingMessage mcode).getD { fields := [] }

def rekeysEvent (ws : WebSocket) (mcode : String) : JoinEvent :=
  .rekeys ws (settingJson mcode) .succeeds sampleLib

end Collabo.LoginSteps
