import Collabo.LoginSteps
import Collabo.StreamingCallbacks

/-!
# One INITVIDEO for each client of a session

The second packet of the session sends INITVIDEO to every client that has a role,
and an announcement sends it once the header is complete. A client whose join is
between its steps has the role and not the INITVIDEO.
-/

namespace Collabo.SessionHeaders

open UniqueTable PartialRuns Deliveries SingleHeader Collabo.CString Collabo.MySQLConnector
  Collabo.ClientTable Collabo.EncoderSession Collabo.MediaStream Collabo.CollaboServer
  Collabo.ServerSteps Collabo.ListedConnections Collabo.VideoHeader Collabo.LoginSteps
  Collabo.StreamingCallbacks

set_option autoImplicit false

/-- `startStreaming` has reset the statics, and the session has sent nothing. -/
def sessionStart (server : Server) : Joins where
  server := { server with
    streaming := { server.streaming with firstCount := 0, header := [], sent := [] } }
  joining := []

/-- The session ends where the streams are started or stopped. -/
def sessionStep (state : Joins) (event : JoinEvent) : Option Joins :=
  match LoginSteps.step state event with
  | none => none
  | some following =>
      if following.server.streaming.callbacks = state.server.streaming.callbacks then
        some following
      else none

/-- The client has one INITVIDEO if it has a DECODEVIDEO, before the first of
them. -/
def InitialisedOnce (state : Joins) (ws : WebSocket) : Prop :=
  HeaderFirst initOf packetOf (inbox state.server.streaming ws)

/-- From its second packet on, no packet of the session falls between the steps of
a join, and once the header is complete no client joins that has joined before. -/
def JoinsApart (state : Joins) : JoinEvent → Prop
  | .packet _ =>
      state.server.streaming.firstCount ≠ 0 →
        ∀ ws ∈ joiningSockets state, ws ∉ viewers state.server.clientList
  | .rekeys ws _ _ _ => state.server.streaming.firstCount = 2 → ws ∉ state.server.accepted
  | .opens _ _ => True
  | .closes _ _ => True
  | .announces _ => True
  | .hostChanges _ => True
  | .databaseChanges _ => True

def Complete (state : Joins) : Prop := state.server.streaming.firstCount = 2

def Unannounced (state : Joins) (ws : WebSocket) : Prop :=
  ¬Complete state ∨ ws ∈ joiningSockets state ∨
    ws ∈ state.server.sockets ∧ ws ∉ state.server.accepted

structure Served (state : Joins) (ws : WebSocket) : Prop where
  once : InitialisedOnce state ws
  quiet : Unannounced state ws → Quiet initOf packetOf (inbox state.server.streaming ws)
  shown : Complete state → ws ∈ viewers state.server.clientList → ws ∉ joiningSockets state →
    Opened initOf packetOf (inbox state.server.streaming ws)

structure InSession (state : Joins) : Prop where
  viewed : Viewed state.server
  counted : state.server.streaming.firstCount ≤ 2
  accepted : ∀ ws ∈ joiningSockets state, ws ∈ state.server.accepted
  served : ∀ ws, Served state ws

section Steps

variable {state following : Joins}

theorem session_step_some {event : JoinEvent} (stepped : sessionStep state event = some following) :
    LoginSteps.step state event = some following ∧
      following.server.streaming.callbacks = state.server.streaming.callbacks := by
  unfold sessionStep at stepped
  split at stepped
  · cases stepped
  · next next taken =>
      split_ifs at stepped with same
      rw [← Option.some.inj stepped]
      exact ⟨taken, same⟩

theorem callbacks_grow (viewers : List WebSocket) (host : ClbContext) (lib : Libav)
    (streaming : Streaming) (call : ClbState) :
    (stateCallback viewers host lib streaming call).callbacks ≠ streaming.callbacks := by
  have grown : (stateCallback viewers host lib streaming call).callbacks =
      streaming.callbacks ++ [call] := by
    cases call with
    | startStreaming => exact (start_streaming_controls viewers host lib streaming).2.1
    | stopStreaming => exact (stop_streaming_controls viewers host lib streaming).2.1
  rw [grown]
  simp

theorem opened_streaming {server : Server} {ws : WebSocket} {lib : Libav}
    (same : (onOpenPtr server ws lib).streaming.callbacks = server.streaming.callbacks) :
    (onOpenPtr server ws lib).streaming = (connectionOpens server ws).streaming := by
  rcases (on_open_joined server ws lib).streaming with ⟨_, kept⟩ | ⟨_, started⟩
  · exact kept
  · rw [started] at same
    exact absurd same (callbacks_grow _ _ _ _ _)

theorem closed_streaming {server closed : Server} {ws : WebSocket} {lib : Libav}
    (closing : Closed server ws lib closed)
    (same : closed.streaming.callbacks = server.streaming.callbacks) :
    closed.streaming = server.streaming := by
  rcases closing.streaming with ⟨_, kept⟩ | ⟨_, stopped⟩
  · exact kept
  · rw [stopped] at same
    exact absurd same (callbacks_grow _ _ _ _ _)

theorem viewers_nodup {server : Server} (listed : Listed server) :
    (viewers server.clientList).Nodup :=
  listed.distinct.sublist (List.filter_sublist.map Client.ws)

theorem joining_nil (isAlone : state.joining = []) : joiningSockets state = [] := by
  unfold joiningSockets
  rw [isAlone]
  rfl

theorem served_empty {ws : WebSocket} (empty : inbox state.server.streaming ws = [])
    (notViewing : ws ∉ viewers state.server.clientList) : Served state ws := by
  constructor
  · unfold InitialisedOnce
    rw [empty]
    exact header_first_of_quiet quiet_nil
  · rw [empty]
    exact fun _ => quiet_nil
  · exact fun _ viewing => absurd viewing notViewing

/-- A client waits for its INITVIDEO after a step only for a reason it had before it. -/
theorem unannounced_before {ws : WebSocket}
    (count : following.server.streaming.firstCount = state.server.streaming.firstCount)
    (joining : ws ∈ joiningSockets following → Unannounced state ws)
    (outside : ws ∈ following.server.sockets → ws ∉ following.server.accepted →
      ws ∈ state.server.sockets ∧ ws ∉ state.server.accepted)
    (unannounced : Unannounced following ws) : Unannounced state ws := by
  rcases unannounced with incomplete | listed | ⟨isOpen, unaccepted⟩
  · apply Or.inl
    intro held
    exact incomplete (count.trans held)
  · exact joining listed
  · exact .inr (.inr (outside isOpen unaccepted))

theorem served_more {ws : WebSocket} {more : List StcMsg} (served : Served state ws)
    (added : Quiet initOf packetOf more)
    (sent : inbox following.server.streaming ws = inbox state.server.streaming ws ++ more)
    (complete : Complete following ↔ Complete state)
    (quiet : Unannounced following ws → Unannounced state ws)
    (shown : Complete state → ws ∈ viewers following.server.clientList →
      ws ∉ joiningSockets following →
        ws ∈ viewers state.server.clientList ∧ ws ∉ joiningSockets state) :
    Served following ws := by
  constructor
  · unfold InitialisedOnce
    rw [sent]
    exact header_first_append served.once added
  · rw [sent]
    exact fun unannounced => quiet_append (served.quiet (quiet unannounced)) added
  · rw [sent]
    intro held viewing notJoining
    have before := complete.mp held
    rcases shown before viewing notJoining with ⟨wasViewing, wasNotJoining⟩
    apply opened_append (served.shown before wasViewing wasNotJoining)
    exact fun msg member => (added msg member).1

theorem served_kept {ws : WebSocket} (served : Served state ws)
    (same : inbox following.server.streaming ws = inbox state.server.streaming ws)
    (complete : Complete following ↔ Complete state)
    (quiet : Unannounced following ws → Unannounced state ws)
    (shown : ws ∈ viewers following.server.clientList → ws ∉ joiningSockets following →
      ws ∈ viewers state.server.clientList ∧ ws ∉ joiningSockets state) : Served following ws := by
  apply served_more served quiet_nil _ complete quiet (fun _ => shown)
  rw [same, List.append_nil]

theorem opens_in_session {ws : WebSocket} {lib : Libav} (session : InSession state)
    (fresh : ws ∉ state.server.sockets)
    (same : (onOpenPtr state.server ws lib).streaming.callbacks =
      state.server.streaming.callbacks) :
    InSession { state with server := onOpenPtr state.server ws lib } := by
  have joined := on_open_joined state.server ws lib
  have streaming := opened_streaming same
  have clients : viewers (onOpenPtr state.server ws lib).clientList =
      viewers state.server.clientList := by
    rw [joined.clientList, insert_connected_viewers]
  have count : (onOpenPtr state.server ws lib).streaming.firstCount =
      state.server.streaming.firstCount := by
    rw [streaming]
    rfl
  constructor
  · exact opened_viewed session.viewed fresh lib
  · rw [count]
    exact session.counted
  · dsimp only
    rw [joined.accepted]
    exact session.accepted
  · intro other
    by_cases own : other = ws
    · rw [own]
      apply served_empty
      · dsimp only
        rw [streaming, connection_opens_inbox_self]
      · dsimp only
        rw [clients]
        intro viewing
        exact viewer_not_fresh session.viewed.listed fresh viewing rfl
    · apply served_kept (session.served other)
      · dsimp only
        rw [streaming, connection_opens_inbox_other state.server own]
      · unfold Complete
        rw [count]
      · refine unannounced_before count (fun joining => .inr (.inl joining)) ?_
        intro isOpen unaccepted
        dsimp only at isOpen unaccepted
        rw [joined.sockets, List.mem_append] at isOpen
        rw [joined.accepted] at unaccepted
        refine ⟨isOpen.resolve_right ?_, unaccepted⟩
        intro added
        exact own (List.mem_singleton.mp added)
      · dsimp only
        rw [clients]
        exact fun viewing notJoining => ⟨viewing, notJoining⟩

/-- Who is open without an accepted SETTING was so before a connection closed. -/
theorem closed_outside {server closed : Server} {gone ws : WebSocket} {lib : Libav}
    (closing : Closed server gone lib closed) (isOpen : ws ∈ closed.sockets)
    (unaccepted : ws ∉ closed.accepted) : ws ∈ server.sockets ∧ ws ∉ server.accepted := by
  rw [closing.sockets, List.mem_filter] at isOpen
  rw [closing.accepted, List.mem_filter] at unaccepted
  refine ⟨isOpen.1, ?_⟩
  intro accepted
  exact unaccepted ⟨accepted, isOpen.2⟩

theorem closes_in_session {ws : WebSocket} {lib : Libav} {closed : Server}
    (session : InSession state) (isAlone : state.joining = [])
    (closing : Closed state.server ws lib closed)
    (same : closed.streaming.callbacks = state.server.streaming.callbacks) :
    InSession { state with server := closed } := by
  have streaming := closed_streaming closing same
  have count : closed.streaming.firstCount = state.server.streaming.firstCount := by
    rw [streaming]
  constructor
  · exact closed_viewed session.viewed closing
  · rw [count]
    exact session.counted
  · intro other joining
    have none : joiningSockets state = [] := joining_nil isAlone
    have member : other ∈ joiningSockets state := joining
    rw [none] at member
    cases member
  · intro other
    apply served_kept (session.served other)
    · dsimp only
      rw [streaming]
    · unfold Complete
      rw [count]
    · exact unannounced_before count (fun joining => .inr (.inl joining)) (closed_outside closing)
    · intro viewing notJoining
      exact ⟨closed_viewers session.viewed.listed closing viewing, notJoining⟩

theorem rekeys_in_session {ws : WebSocket} {json : Json} {dbCall : DbCall} {lib : Libav}
    {client info : Client} {cleared : Server} (session : InSession state)
    (meets : JoinsApart state (.rekeys ws json dbCall lib))
    (found : findWs state.server.clientList ws = some client) (presents : Presents json info)
    (accepts : Accepted state.server client info dbCall lib cleared)
    (waited : cleared = state.server ∨ state.joining = []) :
    InSession
      { server := rekeyed client info cleared
        joining := state.joining ++ [{ client := client, info := info }] } := by
  rcases find_ws_some found with ⟨member, same⟩
  have socket : info.ws = ws := accepts.socket.trans same
  have isOpen : ws ∈ state.server.sockets := by
    rw [← same]
    exact session.viewed.listed.connected client.ws (List.mem_map_of_mem member)
  have kept : cleared.streaming = state.server.streaming := cleared_streaming accepts
  have streaming : (rekeyed client info cleared).streaming = state.server.streaming := kept
  have joining : ∀ other, other ∈ joiningSockets
      { server := rekeyed client info cleared
        joining := state.joining ++ [{ client := client, info := info }] } ↔
      other ∈ joiningSockets state ∨ other = ws := by
    intro other
    unfold joiningSockets
    rw [List.map_append, List.mem_append, ← socket]
    exact or_congr_right List.mem_singleton
  constructor
  · exact rekeyed_viewed session.viewed member presents accepts
  · dsimp only
    rw [streaming]
    exact session.counted
  · intro other otherJoining
    apply List.mem_append.mpr
    rcases (joining other).mp otherJoining with before | own
    · rcases waited with unchanged | isAlone
      · rw [unchanged]
        exact .inl (session.accepted other before)
      · rw [joining_nil isAlone] at before
        cases before
    · rw [own, ← socket]
      exact .inr List.mem_cons_self
  · intro other
    apply served_kept (session.served other)
    · dsimp only
      rw [streaming]
    · unfold Complete
      dsimp only
      rw [streaming]
    · apply unannounced_before (congrArg Streaming.firstCount streaming)
      · intro otherJoining
        rcases (joining other).mp otherJoining with before | own
        · exact .inr (.inl before)
        · by_cases complete : Complete state
          · rw [own]
            exact .inr (.inr ⟨isOpen, meets complete⟩)
          · exact .inl complete
      · intro otherOpen unaccepted
        have cleared_unaccepted : other ∉ cleared.accepted :=
          fun accepted => unaccepted (List.mem_append_left _ accepted)
        exact cleared_of_closed
          (fun server => other ∈ server.sockets → other ∉ server.accepted →
            other ∈ state.server.sockets ∧ other ∉ state.server.accepted)
          accepts (fun isOpen unaccepted => ⟨isOpen, unaccepted⟩)
          (fun _ _ closed => closed_outside closed) otherOpen cleared_unaccepted
    · intro viewing notJoining
      rcases List.mem_append.mp
        (logged_in_viewers session.viewed.listed member accepts viewing) with own | kept
      · rw [List.mem_singleton.mp own, socket] at notJoining
        exact absurd ((joining ws).mpr (.inr rfl)) notJoining
      · refine ⟨?_, fun before => notJoining ((joining other).mpr (.inl before))⟩
        exact cleared_of_closed
          (fun server => other ∈ viewers server.clientList →
            other ∈ viewers state.server.clientList)
          accepts id (fun _ _ closed => closed_viewers session.viewed.listed closed) kept

theorem announces_in_session {join : Join} (session : InSession state)
    (member : join ∈ state.joining) :
    InSession
      { server := announce state.server join.info
        joining := state.joining.filter fun other => other.info.ws ≠ join.info.ws } := by
  rcases announce_keeps state.server join.info with ⟨count, -, -, -⟩
  have ownJoining : join.info.ws ∈ joiningSockets state := List.mem_map_of_mem member
  have joining : ∀ ws, ws ∈ joiningSockets
      { server := announce state.server join.info
        joining := state.joining.filter fun other => other.info.ws ≠ join.info.ws } ↔
      ws ∈ joiningSockets state ∧ ws ≠ join.info.ws := by
    intro ws
    unfold joiningSockets
    constructor
    · intro listed
      rcases List.mem_map.mp listed with ⟨other, otherMember, rfl⟩
      rcases List.mem_filter.mp otherMember with ⟨before, different⟩
      exact ⟨List.mem_map_of_mem before, by simpa using different⟩
    · rintro ⟨listed, different⟩
      rcases List.mem_map.mp listed with ⟨other, before, rfl⟩
      exact List.mem_map_of_mem (List.mem_filter.mpr ⟨before, by simpa using different⟩)
  constructor
  · exact viewed_of_same session.viewed rfl rfl rfl
  · dsimp only
    rw [count]
    exact session.counted
  · intro ws listed
    exact session.accepted ws ((joining ws).mp listed).1
  · intro ws
    rcases announce_inbox state.server join.info ws with ⟨more, added, sent⟩
    by_cases shown : state.server.streaming.firstCount = 2 ∧ join.info.ws = ws
    · -- the INITVIDEO of the join, the first that the client is sent
      rcases shown with ⟨complete, own⟩
      rw [if_pos ⟨complete, own⟩, ← List.append_assoc] at sent
      rw [own] at ownJoining
      have before := (session.served ws).quiet (.inr (.inl ownJoining))
      have opened :
          Opened initOf packetOf (inbox (announce state.server join.info).streaming ws) := by
        rw [sent]
        exact opened_of_quiet (quiet_append before added) (by simp [initOf])
      constructor
      · exact header_first_of_opened opened
      · intro unannounced
        rcases unannounced with incomplete | listed | ⟨_, unaccepted⟩
        · exact absurd (count.trans complete) incomplete
        · exact absurd own.symm ((joining ws).mp listed).2
        · exact absurd (session.accepted ws ownJoining) unaccepted
      · exact fun _ _ _ => opened
    · rw [if_neg shown, List.append_nil] at sent
      apply served_more (session.served ws) added sent
      · unfold Complete
        rw [count]
      · apply unannounced_before count
        · exact fun listed => .inr (.inl ((joining ws).mp listed).1)
        · exact fun isOpen unaccepted => ⟨isOpen, unaccepted⟩
      · intro complete viewing notJoining
        refine ⟨viewing, ?_⟩
        intro listed
        apply notJoining
        exact (joining ws).mpr ⟨listed, fun own => shown ⟨complete, own.symm⟩⟩

theorem in_session_elsewhere (session : InSession state)
    (joining : following.joining = state.joining)
    (clientList : following.server.clientList = state.server.clientList)
    (sockets : following.server.sockets = state.server.sockets)
    (accepted : following.server.accepted = state.server.accepted)
    (streaming : following.server.streaming = state.server.streaming) : InSession following := by
  obtain ⟨⟨_, _, _, _, _, _, _⟩, _⟩ := following
  cases joining
  cases clientList
  cases sockets
  cases accepted
  cases streaming
  exact ⟨viewed_of_same session.viewed rfl rfl rfl, session.counted, session.accepted,
    fun ws => ⟨(session.served ws).once, (session.served ws).quiet, (session.served ws).shown⟩⟩

def streams (state : Joins) (streaming : Streaming) : Joins :=
  { state with server := { state.server with streaming := streaming } }

theorem streams_in_session {streaming : Streaming} (session : InSession state)
    (counted : streaming.firstCount ≤ 2) (served : ∀ ws, Served (streams state streaming) ws) :
    InSession (streams state streaming) where
  viewed := viewed_of_same session.viewed rfl rfl rfl
  counted := counted
  accepted := session.accepted
  served := served

theorem first_packet_in_session (session : InSession state) (packet : Packet)
    (empty : state.server.streaming.firstCount = 0) :
    InSession (streams state
      (readPacket (viewers state.server.clientList) state.server.streaming packet)) := by
  rw [read_packet_first _ packet empty]
  apply streams_in_session session (Nat.le_succ 1)
  intro ws
  have incomplete : ¬Complete state := by
    unfold Complete
    omega
  apply served_kept (session.served ws)
  · rfl
  · constructor
    · intro complete
      cases complete
    · exact fun complete => absurd complete incomplete
  · exact fun _ => .inl incomplete
  · exact fun viewing notJoining => ⟨viewing, notJoining⟩

/-- Whoever is without an INITVIDEO as the header is completed is no viewer. -/
theorem unannounced_not_viewer {streaming : Streaming} {ws : WebSocket} (session : InSession state)
    (apart : ∀ ws ∈ joiningSockets state, ws ∉ viewers state.server.clientList)
    (complete : streaming.firstCount = 2) (unannounced : Unannounced (streams state streaming) ws) :
    ws ∉ viewers state.server.clientList := by
  rcases unannounced with incomplete | joining | ⟨_, unaccepted⟩
  · exact absurd complete incomplete
  · exact apart ws joining
  · exact fun viewing => unaccepted (session.viewed.accepted ws viewing)

/-- The second packet is an INITVIDEO to every viewer, and none of them has had
one before. -/
theorem second_packet_in_session (session : InSession state) (packet : Packet)
    (half : state.server.streaming.firstCount = 1)
    (apart : ∀ ws ∈ joiningSockets state, ws ∉ viewers state.server.clientList) :
    InSession (streams state
      (readPacket (viewers state.server.clientList) state.server.streaming packet)) := by
  rw [read_packet_second _ packet half]
  apply streams_in_session session (Nat.le_refl 2)
  intro ws
  have incomplete : ¬Complete state := by
    unfold Complete
    omega
  have before := (session.served ws).quiet (.inl incomplete)
  let collected : Streaming := { state.server.streaming with
    header := state.server.streaming.header ++ [packet], firstCount := 2 }
  have sent : inbox (sendVideoInitMsgAll (viewers state.server.clientList) collected) ws =
      inbox state.server.streaming ws ++ List.replicate
        ((viewers state.server.clientList).count ws) (.initVideo (videoInit collected)) :=
    inbox_send_all collected _ _ ws
  by_cases viewing : ws ∈ viewers state.server.clientList
  · rw [List.count_eq_one_of_mem (viewers_nodup session.viewed.listed) viewing] at sent
    have opened : Opened initOf packetOf
        (inbox (sendVideoInitMsgAll (viewers state.server.clientList) collected) ws) := by
      rw [sent]
      exact opened_of_quiet before (by simp [initOf])
    constructor
    · exact header_first_of_opened opened
    · intro unannounced
      exact absurd viewing (unannounced_not_viewer session apart rfl unannounced)
    · exact fun _ _ _ => opened
  · rw [List.count_eq_zero.mpr viewing, List.replicate_zero, List.append_nil] at sent
    constructor
    · unfold InitialisedOnce
      exact header_first_of_quiet (sent ▸ before)
    · exact fun _ => sent ▸ before
    · exact fun _ isViewer => absurd isViewer viewing

theorem later_packet_in_session (session : InSession state) (packet : Packet)
    (complete : state.server.streaming.firstCount = 2)
    (apart : ∀ ws ∈ joiningSockets state, ws ∉ viewers state.server.clientList) :
    InSession (streams state
      (readPacket (viewers state.server.clientList) state.server.streaming packet)) := by
  rw [read_packet_later _ packet (Nat.le_of_eq complete.symm)]
  have counted : (sendVideoPktAll (viewers state.server.clientList) state.server.streaming
      packet).firstCount ≤ 2 := Nat.le_of_eq complete
  apply streams_in_session session counted
  intro ws
  have sent :
      inbox (sendVideoPktAll (viewers state.server.clientList) state.server.streaming packet) ws =
        inbox state.server.streaming ws ++ List.replicate
          ((viewers state.server.clientList).count ws) (.decodeVideo packet) :=
    inbox_send_all state.server.streaming _ _ ws
  by_cases viewing : ws ∈ viewers state.server.clientList
  · have notJoining : ws ∉ joiningSockets state := fun listed => apart ws listed viewing
    have opened : Opened initOf packetOf (inbox
        (sendVideoPktAll (viewers state.server.clientList) state.server.streaming packet) ws) := by
      rw [sent]
      apply opened_append ((session.served ws).shown complete viewing notJoining)
      intro msg member
      rw [List.eq_of_mem_replicate member]
      rfl
    constructor
    · exact header_first_of_opened opened
    · intro unannounced
      exact absurd viewing (unannounced_not_viewer session apart complete unannounced)
    · exact fun _ _ _ => opened
  · rw [List.count_eq_zero.mpr viewing, List.replicate_zero, List.append_nil] at sent
    apply served_kept (session.served ws)
    · exact sent
    · exact Iff.rfl
    · exact id
    · exact fun isViewer => absurd isViewer viewing

theorem step_in_session {event : JoinEvent} (session : InSession state)
    (meets : JoinsApart state event) (stepped : sessionStep state event = some following) :
    InSession following := by
  rcases session_step_some stepped with ⟨taken, same⟩
  cases step_join_done taken with
  | opens isAlone fresh => exact opens_in_session session fresh same
  | closes isAlone closing => exact closes_in_session session isAlone closing same
  | rekeys found notJoining presents accepts waited =>
      exact rekeys_in_session session meets found presents accepts waited
  | @announces ws join member own =>
      rw [← own]
      exact announces_in_session session member
  | @packet packet =>
      have counted := session.counted
      by_cases empty : state.server.streaming.firstCount = 0
      · exact first_packet_in_session session packet empty
      · by_cases half : state.server.streaming.firstCount = 1
        · exact second_packet_in_session session packet half (meets empty)
        · exact later_packet_in_session session packet (by omega) (meets empty)
  | hostChanges => exact in_session_elsewhere session rfl rfl rfl rfl rfl
  | databaseChanges => exact in_session_elsewhere session rfl rfl rfl rfl rfl

theorem session_start_in_session {server : Server} (viewed : Viewed server) :
    InSession (sessionStart server) := by
  constructor
  · exact viewed_of_same viewed rfl rfl rfl
  · exact Nat.zero_le 2
  · intro ws joining
    cases joining
  · intro ws
    constructor
    · exact header_first_of_quiet quiet_nil
    · exact fun _ => quiet_nil
    · intro complete
      cases complete

end Steps

/-- In every session whose events meet the condition, each client that was sent a
DECODEVIDEO was sent one INITVIDEO before it and no other. -/
theorem initialised_once_in_session (db : Database) (host : ClbContext) (eCtx : EncoderContext)
    (audioBytes : Int) (server : Server) (state : Joins)
    (reached : Reaches ServerSteps.step (fun _ _ => True) (startServer db host eCtx audioBytes)
      server)
    (ran : Reaches sessionStep JoinsApart (sessionStart server) state) :
    ∀ ws, InitialisedOnce state ws := by
  have session : InSession state := by
    apply invariant_of_step InSession _ _ ran
    · exact session_start_in_session (reached_viewed reached)
    · intro state event following session meets stepped
      exact step_in_session session meets stepped
  exact fun ws => (session.served ws).once

def sessionServer : Server := after ServerSteps.step sampleServer [opensEvent 1]

theorem session_server_reached :
    Reaches ServerSteps.step (fun _ _ => True) sampleServer sessionServer :=
  reaches_after (along_of_forall (fun _ _ => trivial) _) rfl

def samplePacket (index : Nat) : Packet where
  session := 1
  index := index
  video := false
  width := 0
  height := 0
  bytes := []

def joinedApart : List JoinEvent :=
  [rekeysEvent 1 "a", .announces 1, .packet (samplePacket 0), .packet (samplePacket 1),
    .opens 2 sampleLib, rekeysEvent 2 "b", .announces 2, .packet (samplePacket 2)]

def messagesTo (events : List JoinEvent) (ws : WebSocket) : List StcMsg :=
  inbox (after sessionStep (sessionStart sessionServer) events).server.streaming ws

theorem initialised_once_in_session_apart :
    ((messagesTo joinedApart 1).filterMap packetOf).length = 1 ∧
      ((messagesTo joinedApart 2).filterMap packetOf).length = 1 ∧
      ∀ ws, InitialisedOnce (after sessionStep (sessionStart sessionServer) joinedApart) ws := by
  refine ⟨rfl, rfl, ?_⟩
  apply initialised_once_in_session sampleDatabase sampleHost (encoderContext .image sampleHost) 0
    sessionServer _ session_server_reached
  apply reaches_after
  · apply along_cons rfl (fun complete => by cases complete)
    apply along_cons rfl trivial
    apply along_cons rfl (fun _ _ joining => by cases joining)
    apply along_cons rfl (fun _ _ joining => by cases joining)
    apply along_cons rfl trivial
    apply along_cons rfl (fun _ => by decide)
    apply along_cons rfl trivial
    exact along_cons rfl (fun _ _ joining => by cases joining) trivial
  · rfl

def packetInJoin : List JoinEvent :=
  [.packet (samplePacket 0), .packet (samplePacket 1), rekeysEvent 1 "a",
    .packet (samplePacket 2)]

def headerInJoin : List JoinEvent :=
  [.packet (samplePacket 0), rekeysEvent 1 "a", .packet (samplePacket 1), .announces 1,
    .packet (samplePacket 2)]

def joinedAgain : List JoinEvent :=
  [rekeysEvent 1 "a", .announces 1, .packet (samplePacket 0), .packet (samplePacket 1),
    rekeysEvent 1 "b", .announces 1, .packet (samplePacket 2)]

theorem not_initialised_once {state : Joins} {ws : WebSocket} {count : Nat}
    (sent : (inbox state.server.streaming ws).any (fun msg => packetOf msg ≠ none) = true)
    (inits : ((inbox state.server.streaming ws).filterMap initOf).length = count)
    (other : count ≠ 1) : ¬InitialisedOnce state ws := by
  intro once
  have opened : Opened initOf packetOf (inbox state.server.streaming ws) :=
    once (by simpa using sent)
  exact other (inits.symm.trans (opened_single opened))

/-- The session sends the first connection a DECODEVIDEO without one INITVIDEO
before it. -/
def BreaksInitialisation (events : List JoinEvent) : Prop :=
  Reaches sessionStep (fun _ _ => True) (sessionStart sessionServer)
      (after sessionStep (sessionStart sessionServer) events) ∧
    ¬InitialisedOnce (after sessionStep (sessionStart sessionServer) events) 1

/-- The client gets the packet before the INITVIDEO of its join, or a second
INITVIDEO. -/
theorem joins_break_initialisation :
    Reaches ServerSteps.step (fun _ _ => True) sampleServer sessionServer ∧
      BreaksInitialisation packetInJoin ∧ BreaksInitialisation headerInJoin ∧
      BreaksInitialisation joinedAgain := by
  have all : ∀ events start, Along sessionStep (fun _ _ => True) start events :=
    fun events _ => along_of_forall (fun _ _ => trivial) events
  refine ⟨session_server_reached, ?_, ?_, ?_⟩
  · exact ⟨reaches_after (all _ _) rfl, not_initialised_once rfl rfl (by decide)⟩
  · exact ⟨reaches_after (all _ _) rfl, not_initialised_once rfl rfl (by decide)⟩
  · exact ⟨reaches_after (all _ _) rfl, not_initialised_once rfl rfl (by decide)⟩

end Collabo.SessionHeaders
