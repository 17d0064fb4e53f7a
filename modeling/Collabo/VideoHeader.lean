import Collabo.ListedConnections
import Collabo.Library.AnnouncedLog
import Collabo.Library.Deliveries

/-!
# The header of a session

`header` is collected anew only by `startStreaming`. While the encoder's own
threads open no session, the header is that of the open one, and no client gets
a packet before the INITVIDEO of its session.
-/

namespace Collabo.VideoHeader

open UniqueTable PartialRuns AnnouncedLog Collabo.CString Collabo.MySQLConnector
  Collabo.ClientTable Collabo.EncoderSession Collabo.MediaStream Collabo.CollaboServer
  Collabo.ServerSteps Collabo.ListedConnections

set_option autoImplicit false

def place (packet : Packet) : Nat × Nat := (packet.session, packet.index)

def firstPlaces (session written : Nat) : List (Nat × Nat) :=
  (List.range (min 2 written)).map fun index => (session, index)

/-- The header is made of the first two packets of the packet's session and, if
that has video, the size is its size. -/
structure Announces (init : VideoInit) (packet : Packet) : Prop where
  header : init.header.map place = [(packet.session, 0), (packet.session, 1)]
  size : packet.video = true → init.width = packet.width ∧ init.height = packet.height

def initOf : StcMsg → Option VideoInit
  | .initVideo init => some init
  | .decodeVideo _ => none
  | .authProcess _ _ => none
  | .chiefProcess _ _ => none
  | .accessMemberProcess _ => none
  | .connectedMemberInfoProcess _ _ => none

def packetOf : StcMsg → Option Packet
  | .initVideo _ => none
  | .decodeVideo packet => some packet
  | .authProcess _ _ => none
  | .chiefProcess _ _ => none
  | .accessMemberProcess _ => none
  | .connectedMemberInfoProcess _ _ => none

/-- Every DECODEVIDEO that a client was sent belongs to the session of the last
INITVIDEO before it. -/
def PacketsAnnounced (streaming : Streaming) (ws : WebSocket) : Prop :=
  Announced initOf packetOf Announces (inbox streaming ws)

def lastInit (streaming : Streaming) (ws : WebSocket) : Option VideoInit :=
  lastHeader initOf (inbox streaming ws)

def Writing (streaming : Streaming) : Prop :=
  streaming.encoder.stopped = false ∧ streaming.encoder.headerWritten = true

structure Headed (viewers : List WebSocket) (streaming : Streaming) : Prop where
  announced : ∀ ws, PacketsAnnounced streaming ws
  counted : streaming.firstCount = streaming.header.length
  collected : Writing streaming → streaming.header.map place =
    firstPlaces streaming.encoder.session streaming.encoder.written
  sized : Writing streaming → streaming.encoder.videoStream = true →
    streaming.clbCtx.width = streaming.muxer.width ∧
      streaming.clbCtx.height = streaming.muxer.height
  shown : streaming.firstCount = 2 → ∀ ws ∈ viewers,
    lastInit streaming ws = some (videoInit streaming)

section Sending

variable {viewers : List WebSocket} {streaming : Streaming}

theorem inbox_send_all (streaming : Streaming) (sockets : List WebSocket) (msg : StcMsg)
    (ws : WebSocket) :
    inbox (sendAll streaming sockets msg) ws =
      inbox streaming ws ++ List.replicate (sockets.count ws) msg := by
  have appended : inbox (sendAll streaming sockets msg) ws =
      inbox streaming ws ++ Deliveries.received (Deliveries.broadcast sockets msg) ws :=
    Deliveries.received_append
  rw [appended, Deliveries.received_broadcast]

theorem headed_fewer {fewer : List WebSocket} (headed : Headed viewers streaming)
    (kept : ∀ ws ∈ fewer, ws ∈ viewers) : Headed fewer streaming where
  announced := headed.announced
  counted := headed.counted
  collected := headed.collected
  sized := headed.sized
  shown complete ws member := headed.shown complete ws (kept ws member)

theorem headed_sends (headed : Headed viewers streaming) (sockets : List WebSocket)
    {msg : StcMsg} (noInit : initOf msg = none) (noPacket : packetOf msg = none) :
    Headed viewers (sendAll streaming sockets msg) := by
  constructor
  · intro ws
    unfold PacketsAnnounced
    rw [inbox_send_all]
    apply announced_append_dataless (headed.announced ws)
    intro other member
    rw [List.eq_of_mem_replicate member]
    exact noPacket
  · exact headed.counted
  · exact headed.collected
  · exact headed.sized
  · intro complete ws member
    unfold lastInit
    rw [inbox_send_all, last_header_unchanged]
    · exact headed.shown complete ws member
    · intro other copied
      rw [List.eq_of_mem_replicate copied]
      exact noInit

theorem headed_shows (headed : Headed viewers streaming) (sockets : List WebSocket) :
    Headed (sockets ++ viewers)
      (sendAll streaming sockets (.initVideo (videoInit streaming))) := by
  constructor
  · intro ws
    unfold PacketsAnnounced
    rw [inbox_send_all]
    apply announced_append_dataless (headed.announced ws)
    intro other member
    rw [List.eq_of_mem_replicate member]
    rfl
  · exact headed.counted
  · exact headed.collected
  · exact headed.sized
  · intro complete ws member
    unfold lastInit
    rw [inbox_send_all]
    by_cases addressed : ws ∈ sockets
    · have copies : sockets.count ws ≠ 0 := Nat.ne_of_gt (List.count_pos_iff.mpr addressed)
      have isInit : initOf (.initVideo (videoInit streaming)) = some (videoInit streaming) := rfl
      exact last_header_repeated _ isInit copies
    · rw [List.count_eq_zero.mpr addressed, List.replicate_zero, List.append_nil]
      apply headed.shown complete ws
      exact (List.mem_append.mp member).resolve_left addressed

end Sending

section Packets

variable {viewers : List WebSocket} {streaming : Streaming}

theorem first_places_next {written : Nat} (few : written < 2) (session : Nat) :
    firstPlaces session (written + 1) = firstPlaces session written ++ [(session, written)] := by
  unfold firstPlaces
  rw [Nat.min_eq_right (Nat.succ_le_of_lt few), Nat.min_eq_right (Nat.le_of_lt few),
    List.range_succ, List.map_append]
  rfl

theorem first_places_full {written : Nat} (full : 2 ≤ written) (session : Nat) :
    firstPlaces session written = [(session, 0), (session, 1)] := by
  unfold firstPlaces
  rw [Nat.min_eq_left full]
  rfl

theorem headed_count (headed : Headed viewers streaming) (writing : Writing streaming) :
    streaming.firstCount = min 2 streaming.encoder.written := by
  have places := congrArg List.length (headed.collected writing)
  rw [List.length_map, ← headed.counted, firstPlaces, List.length_map, List.length_range] at places
  exact places

theorem headed_incomplete (headed : Headed [] streaming) (incomplete : streaming.firstCount ≠ 2)
    (viewers : List WebSocket) : Headed viewers streaming where
  announced := headed.announced
  counted := headed.counted
  collected := headed.collected
  sized := headed.sized
  shown complete := absurd complete incomplete

/-- A packet that the header announces may be sent to every viewer. -/
theorem headed_packet (headed : Headed viewers streaming) (complete : streaming.firstCount = 2)
    {packet : Packet} (announces : Announces (videoInit streaming) packet) :
    Headed viewers (sendVideoPktAll viewers streaming packet) := by
  constructor
  · intro ws
    unfold PacketsAnnounced sendVideoPktAll
    rw [inbox_send_all]
    by_cases addressed : ws ∈ viewers
    · apply announced_append_data (headed.announced ws) (headed.shown complete ws addressed)
      · intro other member
        rw [List.eq_of_mem_replicate member]
        rfl
      · intro other member data carried
        rw [List.eq_of_mem_replicate member] at carried
        rw [← Option.some.inj carried]
        exact announces
    · rw [List.count_eq_zero.mpr addressed, List.replicate_zero, List.append_nil]
      exact headed.announced ws
  · exact headed.counted
  · exact headed.collected
  · exact headed.sized
  · intro _ ws member
    unfold lastInit sendVideoPktAll
    rw [inbox_send_all, last_header_unchanged]
    · exact headed.shown complete ws member
    · intro other copied
      rw [List.eq_of_mem_replicate copied]
      rfl

theorem collected_headed (headed : Headed viewers streaming) (writing : Writing streaming)
    (few : streaming.encoder.written < 2) {packet : Packet}
    (next : place packet = (streaming.encoder.session, streaming.encoder.written)) :
    Headed []
      { streaming with
        encoder := { streaming.encoder with written := streaming.encoder.written + 1 }
        header := streaming.header ++ [packet]
        firstCount := streaming.firstCount + 1 } := by
  constructor
  · exact headed.announced
  · rw [List.length_append, headed.counted]
    rfl
  · intro _
    rw [List.map_append, headed.collected writing, first_places_next few, ← next]
    rfl
  · exact headed.sized
  · intro _ ws member
    cases member

/-- The header of a session that has it complete is that of every later state. -/
theorem counted_headed (headed : Headed viewers streaming) (writing : Writing streaming)
    (full : 2 ≤ streaming.encoder.written) :
    Headed viewers
      { streaming with
        encoder := { streaming.encoder with written := streaming.encoder.written + 1 } } := by
  constructor
  · exact headed.announced
  · exact headed.counted
  · intro _
    rw [first_places_full (Nat.le_succ_of_le full), headed.collected writing,
      first_places_full full]
  · exact headed.sized
  · exact headed.shown

theorem mux_write_headed (headed : Headed viewers streaming) (writing : Writing streaming)
    (bytes : ByteString) :
    Headed viewers (muxWrite viewers streaming bytes) ∧
      Writing (muxWrite viewers streaming bytes) := by
  have count := headed_count headed writing
  unfold muxWrite readPacket
  dsimp only
  -- one of the first two packets of the session, or one that the header announces
  by_cases few : streaming.firstCount < 2
  · rw [if_pos few]
    have collected := fun packet next =>
      @collected_headed viewers streaming headed writing (by omega) packet next
    by_cases complete : streaming.firstCount + 1 = 2
    · rw [if_pos complete]
      refine ⟨?_, writing⟩
      apply headed_fewer (headed_shows (collected _ rfl) viewers)
      intro ws member
      exact List.mem_append_left _ member
    · rw [if_neg complete]
      exact ⟨headed_incomplete (collected _ rfl) complete viewers, writing⟩
  · rw [if_neg few]
    have complete : streaming.firstCount = 2 := by omega
    have full : 2 ≤ streaming.encoder.written := by omega
    have places := headed.collected writing
    rw [first_places_full full] at places
    refine ⟨?_, writing⟩
    apply headed_packet (counted_headed headed writing full) complete
    exact ⟨places, headed.sized writing⟩

theorem mux_writes_headed (headed : Headed viewers streaming) (writing : Writing streaming)
    (writes : List ByteString) : Headed viewers (muxWrites viewers streaming writes) := by
  induction writes generalizing streaming with
  | nil => exact headed
  | cons bytes rest induction =>
      rcases mux_write_headed headed writing bytes with ⟨headedNext, writingNext⟩
      exact induction headedNext writingNext

end Packets

section Sessions

variable {viewers : List WebSocket} {streaming : Streaming}

theorem stopped_not_writing (stopped : streaming.encoder.stopped = true) : ¬Writing streaming := by
  intro writing
  rw [writing.1] at stopped
  cases stopped

theorem initialize_refused_headed (headed : Headed viewers streaming)
    (stopped : streaming.encoder.stopped = true) {eCtx : EncoderContext} {lib : Libav}
    (refused : lib.opens eCtx = false) :
    Headed viewers (MediaStream.initializeEncoder viewers streaming eCtx lib) := by
  unfold MediaStream.initializeEncoder
  dsimp only
  rcases initialize_encoder_cases streaming.encoder eCtx lib with ⟨running, _⟩ |
    ⟨_, _, failing, kept⟩ | ⟨_, positive, _, _⟩
  · rw [running] at stopped
    cases stopped
  · rw [if_neg failing]
    have unwritten : ¬Writing { streaming with
        encoder := (EncoderSession.initializeEncoder streaming.encoder eCtx lib).2 } := by
      intro writing
      have missing := writing.2.symm.trans kept.headerWritten
      cases missing
    constructor
    · exact headed.announced
    · exact headed.counted
    · exact fun writing => absurd writing unwritten
    · exact fun writing => absurd writing unwritten
    · exact headed.shown
  · rw [refused] at positive
    cases positive

theorem initialize_headed (headed : Headed viewers streaming)
    (stopped : streaming.encoder.stopped = true) (empty : streaming.firstCount = 0)
    {eCtx : EncoderContext} {lib : Libav}
    (fits : lib.hasVideo eCtx = true →
      streaming.clbCtx.width = eCtx.width ∧ streaming.clbCtx.height = eCtx.height) :
    Headed viewers (MediaStream.initializeEncoder viewers streaming eCtx lib) := by
  rcases initialize_encoder_cases streaming.encoder eCtx lib with ⟨running, _⟩ |
    ⟨_, refused, _, _⟩ | ⟨_, _, succeeded, opened⟩
  · rw [running] at stopped
    cases stopped
  · exact initialize_refused_headed headed stopped refused
  · have noHeader : streaming.header = [] :=
      List.length_eq_zero_iff.mp (headed.counted.symm.trans empty)
    unfold MediaStream.initializeEncoder
    dsimp only
    rw [if_pos succeeded]
    apply mux_writes_headed _ ⟨opened.stopped, opened.headerWritten⟩
    constructor
    · exact headed.announced
    · exact headed.counted
    · intro _
      dsimp only
      rw [noHeader, opened.written]
      rfl
    · intro _ video
      exact fits (opened.videoStream.symm.trans video)
    · exact headed.shown

theorem stop_encoder_headed (headed : Headed viewers streaming) (lib : Libav) :
    Headed viewers (stopEncoder viewers streaming lib) := by
  have flushed : Headed viewers
      (if streaming.encoder.stopped = false ∧ streaming.encoder.headerWritten = true then
        muxWrites viewers streaming lib.trailerWrites
      else streaming) := by
    split_ifs with writing
    · exact mux_writes_headed headed writing _
    · exact headed
  unfold stopEncoder
  constructor
  · exact flushed.announced
  · exact flushed.counted
  · exact fun writing => absurd writing (stopped_not_writing (stop_stopped _))
  · exact fun writing => absurd writing (stopped_not_writing (stop_stopped _))
  · exact flushed.shown

theorem stops_headed (headed : Headed viewers streaming) (host : ClbContext) (lib : Libav) :
    Headed viewers (stateCallback viewers host lib streaming .stopStreaming) ∧
      (stateCallback viewers host lib streaming .stopStreaming).encoder.stopped = true := by
  have called : Headed viewers
      { streaming with callbacks := streaming.callbacks ++ [.stopStreaming] } :=
    ⟨headed.announced, headed.counted, headed.collected, headed.sized, headed.shown⟩
  have stopped := stop_encoder_headed called lib
  unfold stateCallback stopStreaming
  dsimp only
  split
  · exact ⟨stopped, stop_stopped _⟩
  · exact ⟨⟨stopped.announced, stopped.counted, stopped.collected, stopped.sized, stopped.shown⟩,
      stop_stopped _⟩

theorem emptied_headed {emptied : Streaming} (headed : Headed viewers streaming)
    (sent : emptied.sent = streaming.sent) (empty : emptied.firstCount = 0)
    (noHeader : emptied.header = []) (stopped : emptied.encoder.stopped = true) :
    Headed viewers emptied := by
  constructor
  · intro ws
    unfold PacketsAnnounced inbox
    rw [sent]
    exact headed.announced ws
  · rw [empty, noHeader]
    rfl
  · exact fun writing => absurd writing (stopped_not_writing stopped)
  · exact fun writing => absurd writing (stopped_not_writing stopped)
  · intro complete
    rw [empty] at complete
    cases complete

/-- A restart that fails leaves the header of the session it stopped. -/
theorem restart_headed (headed : Headed viewers streaming) {width height : Int} {lib : Libav}
    (refused : lib.opens { streaming.encoder.eCtx with width := width, height := height } = false) :
    Headed viewers (restartEncoder viewers streaming width height lib) := by
  have resized : Headed viewers
      { streaming with
        encoder := { streaming.encoder with
          eCtx := { streaming.encoder.eCtx with width := width, height := height } } } :=
    ⟨headed.announced, headed.counted, headed.collected, headed.sized, headed.shown⟩
  unfold restartEncoder
  dsimp only
  rw [stop_encoder_context]
  exact initialize_refused_headed (stop_encoder_headed resized lib) (stop_stopped _) refused

theorem image_has_no_video (lib : Libav) (clbCtx : ClbContext) :
    lib.hasVideo (encoderContext .image clbCtx) = false := by
  unfold Libav.hasVideo
  cases lib.outputContext with
  | none => rfl
  | some format => simp [wantsVideo, encoderContext]

theorem starts_headed (headed : Headed viewers streaming)
    (stopped : streaming.encoder.stopped = true) (host : ClbContext) (lib : Libav) :
    Headed viewers (stateCallback viewers host lib streaming .startStreaming) := by
  unfold stateCallback startStreaming
  dsimp only
  cases streaming.mode with
  | video =>
      apply initialize_headed
      · exact emptied_headed headed rfl rfl rfl stopped
      · exact stopped
      · rfl
      · exact fun _ => ⟨rfl, rfl⟩
  | image =>
      apply initialize_headed
      · exact emptied_headed headed rfl rfl rfl stopped
      · exact stopped
      · rfl
      · intro video
        rw [image_has_no_video] at video
        cases video

end Sessions

section Viewers

variable {server following : Server} {client : Client} {dbCall : DbCall} {lib : Libav}

theorem viewers_of_labels (clientList : ClientList) :
    viewers clientList =
      ((clientList.entries.map fun client => (client.role, client.ws)).filter
        fun label => label.1 ≠ -1).map Prod.snd := by
  unfold viewers
  rw [List.filter_map, List.map_map]
  rfl

/-- The privileges of an entry decide nothing about what it is sent. -/
theorem modify_viewers (clientList : ClientList) (change : Client → Client)
    (mcode : ∀ client, (change client).mcode = client.mcode)
    (label : ∀ client, ((change client).role, (change client).ws) = (client.role, client.ws))
    (changed : ByteString) : viewers (clientList.modify changed change) = viewers clientList := by
  rw [viewers_of_labels, viewers_of_labels]
  have labels : ((clientList.modify changed change).entries.map fun client =>
      (client.role, client.ws)) = clientList.entries.map fun client => (client.role, client.ws) :=
    modify_keeps_label (fun client : Client => (client.role, client.ws)) change mcode label changed
  rw [labels]

theorem change_auth_viewers (clientList : ClientList) (newAuth : Bool) (mcode : ByteString) :
    viewers (clientList.modify mcode (ClientTable.changeAuth newAuth)) = viewers clientList :=
  modify_viewers clientList (ClientTable.changeAuth newAuth) (fun _ => rfl) (fun _ => rfl) mcode

theorem change_chief_viewers (clientList : ClientList) (newChief : Bool) (mcode : ByteString) :
    viewers (clientList.modify mcode (ClientTable.changeChief newChief)) = viewers clientList :=
  modify_viewers clientList (ClientTable.changeChief newChief) (fun _ => rfl) (fun _ => rfl) mcode

theorem hand_over_viewers (server : Server) (src dst : ByteString) :
    viewers (handOver server src dst).clientList = viewers server.clientList := by
  unfold handOver modifyClient
  dsimp only
  rw [change_auth_viewers, change_chief_viewers, change_chief_viewers]

theorem insert_connected_viewers (clientList : ClientList) (ws : WebSocket) :
    viewers (clientList.insert (ClientTable.connected ws)) = viewers clientList := by
  by_cases taken : (ClientTable.connected ws).mcode ∈ clientList.entries.map Client.mcode
  · rw [insert_taken taken]
  · unfold viewers
    rw [insert_fresh_entries taken, List.filter_append]
    simp [ClientTable.connected]

theorem mem_viewers {clientList : ClientList} {ws : WebSocket} :
    ws ∈ viewers clientList ↔ ∃ client ∈ clientList.entries, client.role ≠ -1 ∧ client.ws = ws := by
  simp [viewers, and_assoc]

theorem closed_viewers {gone : WebSocket} (listed : Listed server)
    (closed : Closed server gone lib following) {ws : WebSocket}
    (member : ws ∈ viewers following.clientList) : ws ∈ viewers server.clientList := by
  rcases mem_viewers.mp member with ⟨client, clientMember, hasRole, same⟩
  exact mem_viewers.mpr
    ⟨client, ((closed_entries listed closed).mp clientMember).1, hasRole, same⟩

theorem logged_in_viewers {info : Client} {cleared : Server} (listed : Listed server)
    (member : client ∈ server.clientList.entries)
    (accepts : Accepted server client info dbCall lib cleared) {ws : WebSocket}
    (viewing : ws ∈ viewers (loggedIn client info cleared).clientList) :
    ws ∈ [info.ws] ++ viewers cleared.clientList := by
  rcases accepted_cleared listed member accepts with ⟨-, -, -, clearedEntries⟩
  rcases mem_viewers.mp viewing with ⟨other, otherMember, hasRole, same⟩
  rcases (logged_in_entries listed member accepts).mp otherMember with rfl |
    ⟨before, different, _⟩
  · rw [← same]
    exact List.mem_cons_self
  · apply List.mem_append_right
    exact mem_viewers.mpr ⟨other, (clearedEntries other).mpr ⟨before, different⟩, hasRole, same⟩

end Viewers

section Steps

variable {server following : Server} {client : Client} {json : Json} {dbCall : DbCall} {lib : Libav}

structure Shown (server : Server) : Prop where
  listed : Listed server
  headed : Headed (viewers server.clientList) server.streaming

/-- No restart of the encoder's threads opens a session, and the streams are
started only while the encoder is stopped. -/
def SessionsStartStreaming (server : Server) : ServerEvent → Prop
  | .opens ws _ =>
      (server.clientList.insert (ClientTable.connected ws)).size = 1 →
        server.streaming.encoder.stopped = true
  | .messages _ _ _ _ => True
  | .closes _ _ => True
  | .packet _ => True
  | .resizes width height lib =>
      lib.opens { server.streaming.encoder.eCtx with width := width, height := height } = false
  | .hostChanges _ => True
  | .databaseChanges _ => True

theorem connection_opens_inbox_self (server : Server) (ws : WebSocket) :
    inbox (connectionOpens server ws).streaming ws = [] :=
  Deliveries.received_forget_self

theorem connection_opens_inbox_other (server : Server) {ws other : WebSocket}
    (different : other ≠ ws) :
    inbox (connectionOpens server ws).streaming other = inbox server.streaming other :=
  Deliveries.received_forget_other different

theorem viewer_not_fresh {ws other : WebSocket} (listed : Listed server)
    (fresh : ws ∉ server.sockets) (member : other ∈ viewers server.clientList) : other ≠ ws := by
  intro reused
  rcases mem_viewers.mp member with ⟨client, clientMember, _, same⟩
  apply fresh
  rw [← reused, ← same]
  exact listed.connected client.ws (List.mem_map_of_mem clientMember)

theorem connection_opens_headed {ws : WebSocket} (shown : Shown server)
    (fresh : ws ∉ server.sockets) :
    Headed (viewers server.clientList) (connectionOpens server ws).streaming := by
  constructor
  · intro other
    unfold PacketsAnnounced
    by_cases same : other = ws
    · rw [same, connection_opens_inbox_self]
      exact announced_nil
    · rw [connection_opens_inbox_other server same]
      exact shown.headed.announced other
  · exact shown.headed.counted
  · exact shown.headed.collected
  · exact shown.headed.sized
  · intro complete other member
    unfold lastInit
    rw [connection_opens_inbox_other server (viewer_not_fresh shown.listed fresh member)]
    exact shown.headed.shown complete other member

theorem opened_headed {ws : WebSocket} (shown : Shown server) (fresh : ws ∉ server.sockets)
    (meets : (server.clientList.insert (ClientTable.connected ws)).size = 1 →
      server.streaming.encoder.stopped = true) (lib : Libav) :
    Headed (viewers (onOpenPtr server ws lib).clientList) (onOpenPtr server ws lib).streaming := by
  have opened := connection_opens_headed shown fresh
  rw [← insert_connected_viewers server.clientList ws] at opened
  have joined := on_open_joined server ws lib
  rw [← joined.clientList] at opened meets
  rcases joined.streaming with ⟨_, same⟩ | ⟨first, started⟩
  · rw [same]
    exact opened
  · rw [started]
    exact starts_headed opened (meets first) server.host lib

theorem closed_headed {ws : WebSocket} (shown : Shown server)
    (closed : Closed server ws lib following) :
    Headed (viewers following.clientList) following.streaming := by
  have fewer := headed_fewer shown.headed
    (fun _ member => closed_viewers shown.listed closed member)
  rcases closed.streaming with ⟨_, same⟩ | ⟨_, stopped⟩
  · rw [same]
    exact fewer
  · rw [stopped]
    exact (stops_headed fewer server.host lib).1

theorem broadcast_headed {clients : List WebSocket} (headed : Headed clients server.streaming)
    {msg : StcMsg} (noInit : initOf msg = none) (noPacket : packetOf msg = none) :
    Headed clients (broadcast server msg).streaming :=
  headed_sends headed _ noInit noPacket

theorem announce_headed (info : Client) {clients : List WebSocket}
    (headed : Headed clients server.streaming) :
    Headed ([info.ws] ++ clients) (announce server info).streaming := by
  have noInit : initOf (.connectedMemberInfoProcess (connectedMembers server.clientList)
      server.clientList.size) = none := rfl
  have alerted : Headed clients
      (sendAll server.streaming server.sockets (.accessMemberProcess (memberOf info))) :=
    headed_sends headed server.sockets rfl rfl
  have listed := headed_sends alerted [info.ws] noInit rfl
  have unviewed := headed_fewer listed (fun ws member => absurd member (List.not_mem_nil (a := ws)))
  unfold announce
  dsimp only
  split_ifs with complete image image
  · have started := headed_shows listed [info.ws]
    exact ⟨started.announced, started.counted, started.collected, started.sized, started.shown⟩
  · exact headed_shows listed [info.ws]
  · have alone := headed_incomplete unviewed complete ([info.ws] ++ clients)
    exact ⟨alone.announced, alone.counted, alone.collected, alone.sized, alone.shown⟩
  · exact headed_incomplete unviewed complete ([info.ws] ++ clients)

theorem logged_in_headed {info : Client} {cleared : Server} (shown : Shown server)
    (member : client ∈ server.clientList.entries)
    (accepts : Accepted server client info dbCall lib cleared) :
    Headed (viewers (loggedIn client info cleared).clientList)
      (loggedIn client info cleared).streaming := by
  have before : Headed (viewers cleared.clientList) cleared.streaming :=
    cleared_of_closed (fun state => Headed (viewers state.clientList) state.streaming) accepts
      shown.headed (fun _ _ closed => closed_headed shown closed)
  have modified : Headed (viewers cleared.clientList)
      (modifyClient cleared client.mcode (settingInfo info)).streaming := before
  unfold loggedIn
  apply headed_fewer (announce_headed info modified)
  intro ws viewing
  exact logged_in_viewers shown.listed member accepts viewing

theorem switched_headed (headed : Headed (viewers server.clientList) server.streaming)
    (mode : Mode) (lib : Libav) :
    Headed (viewers (switchMode server mode lib).clientList)
      (switchMode server mode lib).streaming := by
  rcases stops_headed headed server.host lib with ⟨stopped, isStopped⟩
  have between : Headed (viewers server.clientList)
      { (clbStateCallback server .stopStreaming lib).streaming with mode := mode } :=
    ⟨stopped.announced, stopped.counted, stopped.collected, stopped.sized, stopped.shown⟩
  exact starts_headed between isStopped server.host lib

theorem msg_headed (shown : Shown server) (member : client ∈ server.clientList.entries)
    (done : MsgDone server client json dbCall lib following) :
    Headed (viewers following.clientList) following.streaming := by
  cases done with
  | idle => exact shown.headed
  | input input granted => exact shown.headed
  | @authority dst db addresses granted found updated =>
      apply broadcast_headed _ rfl rfl
      have same := change_auth_viewers server.clientList (!dst.authority) dst.mcode
      exact same ▸ shown.headed
  | @chief dst db addresses granted found updated =>
      apply broadcast_headed _ rfl rfl
      have same := hand_over_viewers server client.mcode dst.mcode
      exact same ▸ shown.headed
  | accepted presents accepts => exact logged_in_headed shown member accepts
  | rejected isSetting closed => exact closed_headed shown closed
  | mode isLoggedIn granted changed => exact switched_headed shown.headed _ lib

theorem step_shown {event : ServerEvent} (shown : Shown server)
    (meets : SessionsStartStreaming server event) (stepped : step server event = some following) :
    Shown following := by
  refine ⟨step_listed shown.listed stepped, ?_⟩
  cases step_done stepped with
  | opens fresh => exact opened_headed shown fresh meets _
  | messages isOpen found parsed done => exact msg_headed shown (find_ws_some found).1 done
  | closes isOpen closed => exact closed_headed shown closed
  | packet running written => exact (mux_write_headed shown.headed ⟨running, written⟩ _).1
  | resizes running => exact restart_headed shown.headed meets
  | hostChanges => exact shown.headed
  | databaseChanges => exact shown.headed

theorem start_shown (db : Database) (host : ClbContext) (eCtx : EncoderContext)
    (audioBytes : Int) : Shown (startServer db host eCtx audioBytes) := by
  refine ⟨start_listed db host eCtx audioBytes, ?_⟩
  have stopped : (startServer db host eCtx audioBytes).streaming.encoder.stopped = true := rfl
  constructor
  · intro ws
    exact announced_nil
  · rfl
  · exact fun writing => absurd writing (stopped_not_writing stopped)
  · exact fun writing => absurd writing (stopped_not_writing stopped)
  · intro complete
    cases complete

end Steps

/-- In every run whose events meet the condition, every packet that a client was
sent belongs to the session of the last INITVIDEO before it, the header is that
of the open session, and once it is complete every logged-in client has it. -/
theorem packets_follow_their_header (db : Database) (host : ClbContext) (eCtx : EncoderContext)
    (audioBytes : Int) (server : Server)
    (reached :
      Reaches step SessionsStartStreaming (startServer db host eCtx audioBytes) server) :
    (∀ ws, PacketsAnnounced server.streaming ws) ∧
      (Writing server.streaming → server.streaming.header.map place =
        firstPlaces server.streaming.encoder.session server.streaming.encoder.written) ∧
      (server.streaming.firstCount = 2 → ∀ ws ∈ viewers server.clientList,
        lastInit server.streaming ws = some (videoInit server.streaming)) := by
  have shown : Shown server := by
    apply invariant_of_step Shown (start_shown db host eCtx audioBytes) _ reached
    intro state event following held meets stepped
    exact step_shown held meets stepped
  exact ⟨shown.headed.announced, shown.headed.collected, shown.headed.shown⟩

def videoWatched : List ServerEvent :=
  [opensEvent 1, settingEvent 1 "a", modeEvent 1 "video", .packet [5]]

theorem packets_follow_their_header_watched :
    (∀ ws, PacketsAnnounced (after step sampleServer videoWatched).streaming ws) ∧
      (Writing (after step sampleServer videoWatched).streaming →
        (after step sampleServer videoWatched).streaming.header.map place =
          firstPlaces (after step sampleServer videoWatched).streaming.encoder.session
            (after step sampleServer videoWatched).streaming.encoder.written) ∧
      ((after step sampleServer videoWatched).streaming.firstCount = 2 →
        ∀ ws ∈ viewers (after step sampleServer videoWatched).clientList,
          lastInit (after step sampleServer videoWatched).streaming ws =
            some (videoInit (after step sampleServer videoWatched).streaming)) := by
  apply packets_follow_their_header sampleDatabase sampleHost (encoderContext .image sampleHost) 0
  apply reaches_after
  · apply along_cons rfl (fun _ => rfl)
    apply along_cons rfl trivial
    apply along_cons rfl trivial
    exact along_cons rfl trivial trivial
  · rfl

def videoResized : List ServerEvent :=
  [opensEvent 1, settingEvent 1 "a", modeEvent 1 "video", .resizes 800 600 sampleLib]

/-- The first packets of the new session are sent as any other, after the
INITVIDEO of the old session with the old size. -/
theorem resized_session_not_announced :
    Reaches step (fun _ _ => True) sampleServer (after step sampleServer videoResized) ∧
      ((inbox (after step sampleServer videoResized).streaming 1).filterMap packetOf).map place =
        [(1, 2), (2, 2), (3, 0), (3, 1)] ∧
      (lastInit (after step sampleServer videoResized).streaming 1).map
          (fun init => (init.width, init.height, init.header.map place)) =
        some (1920, 1080, [(2, 0), (2, 1)]) ∧
      ¬PacketsAnnounced (after step sampleServer videoResized).streaming 1 := by
  refine ⟨reaches_after (along_of_forall (fun _ _ => trivial) _) rfl, rfl, rfl, ?_⟩
  intro announced
  let messages := inbox (after step sampleServer videoResized).streaming 1
  let packet : Packet :=
    { session := 3, index := 1, video := true, width := 800, height := 600, bytes := [2] }
  obtain ⟨init, last, announces⟩ :=
    announced (messages.take 7) (.decodeVideo packet) [] packet rfl rfl
  have isOld : (lastHeader initOf (messages.take 7)).map (fun init => init.header.map place) =
      some [(2, 0), (2, 1)] := rfl
  rw [last, Option.map_some, announces.header] at isOld
  exact absurd isOld (by decide)

end Collabo.VideoHeader
