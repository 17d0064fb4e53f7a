import Collabo.LoginSteps
import Collabo.MediaDeliveries
import Collabo.StreamingCallbacks

/-!
# What an accepted SETTING opens

A connection is sent the streams and the list of members only after its SETTING was
accepted. While the database accepts no SETTING at all, nobody is sent anything, the
host gets no input, and the database and the mode are left as they are.
-/

namespace Collabo.AcceptedOnly

open UniqueTable PartialRuns Deliveries Collabo.CString Collabo.MySQLConnector
  Collabo.ClientTable Collabo.EncoderSession Collabo.MediaStream Collabo.CollaboServer
  Collabo.ServerSteps Collabo.ListedConnections Collabo.VideoHeader Collabo.LoginSteps
  Collabo.MediaDeliveries Collabo.StreamingCallbacks

set_option autoImplicit false

/-- The messages that also go to connections without an accepted SETTING. -/
def IsNotice : StcMsg → Prop
  | .initVideo _ => False
  | .decodeVideo _ => False
  | .authProcess _ _ => True
  | .chiefProcess _ _ => True
  | .accessMemberProcess _ => True
  | .connectedMemberInfoProcess _ _ => False

/-- The event is a SETTING with these codes that the database accepts. -/
inductive Admitted (server : Server) : ServerEvent → ByteString → ByteString → Prop where
  | setting {ws : WebSocket} {dbCall : DbCall} {lib : Libav} {client : Client} {json : Json}
      {mcode mscode : ByteString} {suited : Suited}
      (found : findWs server.clientList ws = some client)
      (identifier : json.int "identifier" = some 4)
      (mcodeField : json.text "mcode" = some mcode)
      (mscodeField : json.text "mscode" = some mscode)
      (answer : isSuited server.db dbCall (cStr mcode) (cStr mscode) client.authority client.chief
        client.role = .done suited)
      (result : suited.result = true) :
      Admitted server (.messages ws (some json) dbCall lib) mcode mscode

theorem accepted_admitted {server cleared : Server} {ws : WebSocket} {client info : Client}
    {json : Json} {dbCall : DbCall} {lib : Libav}
    (found : findWs server.clientList ws = some client) (presents : Presents json info)
    (accepts : Accepted server client info dbCall lib cleared) :
    Admitted server (.messages ws (some json) dbCall lib) info.mcode info.mscode :=
  .setting found presents.identifier presents.mcode presents.mscode accepts.suited rfl

/-- What was sent in between went to receivers with an accepted SETTING, or are
notices. -/
def Sends (accepted : List WebSocket) (before after : List (WebSocket × StcMsg)) : Prop :=
  ∃ added, after = before ++ added ∧
    ∀ delivery ∈ added, delivery.1 ∈ accepted ∨ IsNotice delivery.2

section Sending

variable {server following : Server} {client info : Client} {json : Json} {dbCall : DbCall}
  {lib : Libav} {accepted receivers : List WebSocket}

theorem streams_sends {before after : Streaming} (streams : Streams receivers before after)
    (viewed : ∀ ws ∈ receivers, ws ∈ accepted) : Sends accepted before.sent after.sent := by
  obtain ⟨added, sent, toReceivers⟩ := streams
  refine ⟨added, sent, ?_⟩
  intro delivery member
  exact .inl (viewed delivery.1 (toReceivers delivery member).1)

theorem notice_sends (streaming : Streaming) (sockets : List WebSocket) {msg : StcMsg}
    (notice : IsNotice msg) :
    Sends accepted streaming.sent (sendAll streaming sockets msg).sent := by
  refine ⟨_, rfl, ?_⟩
  intro delivery member
  obtain ⟨ws, _, same⟩ := List.mem_map.mp member
  rw [← same]
  exact .inr notice

theorem announce_sends (server : Server) (isAccepted : info.ws ∈ accepted) :
    Sends accepted server.streaming.sent (announce server info).streaming.sent := by
  refine ⟨_, announce_sent server info, ?_⟩
  intro delivery member
  have own : ∀ msg, delivery ∈ Deliveries.broadcast [info.ws] msg → delivery.1 ∈ accepted := by
    intro msg sent
    obtain ⟨ws, listed, same⟩ := List.mem_map.mp sent
    rw [← same, List.mem_singleton.mp listed]
    exact isAccepted
  rcases List.mem_append.mp member with alert | rest
  · obtain ⟨ws, _, same⟩ := List.mem_map.mp alert
    rw [← same]
    exact .inr trivial
  · rcases List.mem_append.mp rest with list | init
    · exact .inl (own _ list)
    · split_ifs at init
      · exact .inl (own _ init)
      · cases init

theorem received_permitted {added : List (WebSocket × StcMsg)} {ws : WebSocket} {msg : StcMsg}
    (permitted : ∀ delivery ∈ added, delivery.1 ∈ accepted ∨ IsNotice delivery.2)
    (stranger : ws ∉ accepted) (member : msg ∈ received added ws) : IsNotice msg := by
  obtain ⟨delivery, kept, same⟩ := List.mem_map.mp member
  obtain ⟨isAdded, addressed⟩ := List.mem_filter.mp kept
  rw [← same]
  rcases permitted delivery isAdded with isAccepted | notice
  · rw [of_decide_eq_true addressed] at isAccepted
    exact absurd isAccepted stranger
  · exact notice

end Sending

/-- An open connection without an accepted SETTING has been sent notices only. -/
structure Gated (server : Server) : Prop where
  viewed : Viewed server
  notices : ∀ ws ∈ server.sockets, ws ∉ server.accepted →
    ∀ msg ∈ inbox server.streaming ws, IsNotice msg

section Gate

variable {server following : Server} {client info : Client} {json : Json} {dbCall : DbCall}
  {lib : Libav}

def Strangers (server following : Server) : Prop :=
  ∀ ws ∈ following.sockets, ws ∉ following.accepted → ws ∈ server.sockets ∧ ws ∉ server.accepted

theorem gated_sends (gated : Gated server) (viewed : Viewed following)
    (strangers : Strangers server following)
    (sends : Sends following.accepted server.streaming.sent following.streaming.sent) :
    Gated following := by
  refine ⟨viewed, ?_⟩
  intro ws isOpen stranger msg member
  obtain ⟨added, sent, permitted⟩ := sends
  obtain ⟨wasOpen, wasStranger⟩ := strangers ws isOpen stranger
  have inboxes : inbox following.streaming ws =
      inbox server.streaming ws ++ received added ws := by
    change received following.streaming.sent ws =
      received server.streaming.sent ws ++ received added ws
    rw [sent, received_append]
  rw [inboxes] at member
  rcases List.mem_append.mp member with before | new
  · exact gated.notices ws wasOpen wasStranger msg before
  · exact received_permitted permitted stranger new

theorem closed_strangers {gone : WebSocket} (closed : Closed server gone lib following) :
    Strangers server following := by
  intro ws isOpen stranger
  rw [closed.sockets] at isOpen
  rw [closed.accepted] at stranger
  obtain ⟨wasOpen, different⟩ := List.mem_filter.mp isOpen
  refine ⟨wasOpen, ?_⟩
  intro accepted
  exact stranger (List.mem_filter.mpr ⟨accepted, different⟩)

theorem closed_gated {gone : WebSocket} (gated : Gated server)
    (closed : Closed server gone lib following) : Gated following := by
  have viewed := closed_viewed gated.viewed closed
  exact gated_sends gated viewed (closed_strangers closed)
    (streams_sends (closed_streams closed) viewed.accepted)

theorem streams_gated (gated : Gated server) (viewed : Viewed following)
    (sockets : following.sockets = server.sockets) (accepted : following.accepted = server.accepted)
    (streams : Streams (viewers following.clientList) server.streaming following.streaming) :
    Gated following := by
  apply gated_sends gated viewed
  · intro ws isOpen stranger
    rw [sockets] at isOpen
    rw [accepted] at stranger
    exact ⟨isOpen, stranger⟩
  · exact streams_sends streams viewed.accepted

theorem accepted_gated {cleared : Server} (gated : Gated server)
    (member : client ∈ server.clientList.entries) (presents : Presents json info)
    (accepts : Accepted server client info dbCall lib cleared) :
    Gated (loggedIn client info cleared) := by
  have clearedGated := cleared_of_closed Gated accepts gated fun _ _ closed =>
    closed_gated gated closed
  have viewed := msg_viewed gated.viewed member (.accepted presents accepts)
  apply gated_sends clearedGated viewed
  · intro ws isOpen stranger
    exact ⟨isOpen, fun accepted => stranger (List.mem_append_left _ accepted)⟩
  · exact announce_sends (rekeyed client info cleared)
      (List.mem_append_right cleared.accepted (List.mem_singleton_self info.ws))

theorem opened_gated {ws : WebSocket} (gated : Gated server) (fresh : ws ∉ server.sockets)
    (lib : Libav) : Gated (onOpenPtr server ws lib) := by
  have joined := on_open_joined server ws lib
  have viewed := opened_viewed gated.viewed fresh lib
  refine ⟨viewed, ?_⟩
  intro other isOpen stranger msg member
  obtain ⟨added, sent, permitted⟩ := streams_sends (joined_streams joined) viewed.accepted
  have inboxes : inbox (onOpenPtr server ws lib).streaming other =
      received (forget server.streaming.sent ws) other ++ received added other := by
    change received (onOpenPtr server ws lib).streaming.sent other = _
    rw [sent, received_append]
    rfl
  rw [inboxes] at member
  rcases List.mem_append.mp member with before | new
  · by_cases own : other = ws
    · rw [own, received_forget_self] at before
      cases before
    · rw [received_forget_other own] at before
      rw [joined.sockets] at isOpen
      rw [joined.accepted] at stranger
      have wasOpen := (List.mem_append.mp isOpen).resolve_right fun opened =>
        own (List.mem_singleton.mp opened)
      exact gated.notices other wasOpen stranger msg before
  · exact received_permitted permitted stranger new

theorem msg_gated (gated : Gated server) (member : client ∈ server.clientList.entries)
    (done : MsgDone server client json dbCall lib following) : Gated following := by
  have viewed := msg_viewed gated.viewed member done
  cases done with
  | idle => exact gated
  | input input granted => exact ⟨viewed, gated.notices⟩
  | authority addresses granted found updated =>
      apply gated_sends gated viewed
      · exact fun _ isOpen stranger => ⟨isOpen, stranger⟩
      · exact notice_sends server.streaming _ trivial
  | chief addresses granted found updated =>
      apply gated_sends gated viewed
      · exact fun _ isOpen stranger => ⟨isOpen, stranger⟩
      · exact notice_sends server.streaming _ trivial
  | accepted presents accepts => exact accepted_gated gated member presents accepts
  | rejected isSetting closed => exact closed_gated gated closed
  | mode isLoggedIn granted changed =>
      exact streams_gated gated viewed rfl rfl (switch_mode_streams server _ lib)

theorem step_gated {event : ServerEvent} (gated : Gated server)
    (stepped : ServerSteps.step server event = some following) : Gated following := by
  have viewed := step_viewed gated.viewed stepped
  cases step_done stepped with
  | opens fresh => exact opened_gated gated fresh _
  | messages isOpen found parsed done => exact msg_gated gated (find_ws_some found).1 done
  | closes isOpen closed => exact closed_gated gated closed
  | packet running written =>
      exact streams_gated gated viewed rfl rfl (mux_write_streams server.streaming _)
  | resizes running =>
      exact streams_gated gated viewed rfl rfl (restart_streams server.streaming _ _ _)
  | hostChanges => exact ⟨viewed, gated.notices⟩
  | databaseChanges => exact ⟨viewed, gated.notices⟩

theorem start_gated (db : Database) (host : ClbContext) (eCtx : EncoderContext)
    (audioBytes : Int) : Gated (startServer db host eCtx audioBytes) := by
  refine ⟨start_viewed db host eCtx audioBytes, ?_⟩
  intro ws isOpen
  cases isOpen

/-- The streams and the list of members are only sent to connections whose SETTING
has been accepted. -/
theorem streams_only_accepted {db : Database} {host : ClbContext} {eCtx : EncoderContext}
    {audioBytes : Int} {ws : WebSocket} {msg : StcMsg}
    (reached : Reaches ServerSteps.step (fun _ _ => True)
      (startServer db host eCtx audioBytes) server)
    (isOpen : ws ∈ server.sockets) (sent : msg ∈ inbox server.streaming ws)
    (private_msg : ¬IsNotice msg) : ws ∈ server.accepted := by
  have gated := invariant_of_step Gated (start_gated db host eCtx audioBytes)
    (fun _ _ _ gated _ stepped => step_gated gated stepped) reached
  by_contra stranger
  exact private_msg (gated.notices ws isOpen stranger msg sent)

end Gate

/-- The list of members goes to the first client, which has logged in. -/
theorem list_only_accepted :
    1 ∈ (after ServerSteps.step sampleServer [opensEvent 1, settingEvent 1 "a"]).accepted := by
  have reached : Reaches ServerSteps.step (fun _ _ => True) sampleServer
      (after ServerSteps.step sampleServer [opensEvent 1, settingEvent 1 "a"]) :=
    reaches_after (along_of_forall (fun _ _ => trivial) _) rfl
  have sent : .connectedMemberInfoProcess [⟨true, true, ascii "a", [], []⟩] 1 ∈
      inbox (after ServerSteps.step sampleServer
        [opensEvent 1, settingEvent 1 "a"]).streaming 1 := by decide
  exact streams_only_accepted reached (by decide) sent id

def Refuses (server : Server) (event : ServerEvent) : Prop :=
  ∀ mcode mscode, ¬Admitted server event mcode mscode

/-- The table knows of nobody more than the connection, and nothing has happened. -/
structure Inert (server : Server) : Prop where
  listed : Listed server
  nobody : ∀ client ∈ server.clientList.entries, client = ClientTable.connected client.ws
  accepted : server.accepted = []
  inputs : server.inputs = []
  sent : server.streaming.sent = []
  mode : server.streaming.mode = .image

section Refusing

variable {server following : Server} {client : Client} {json : Json} {dbCall : DbCall}
  {lib : Libav}

theorem nobody_views {clientList : ClientList}
    (nobody : ∀ client ∈ clientList.entries, client = ClientTable.connected client.ws) :
    viewers clientList = [] := by
  apply List.eq_nil_iff_forall_not_mem.mpr
  intro ws viewing
  obtain ⟨client, member, hasRole, _⟩ := mem_viewers.mp viewing
  rw [nobody client member] at hasRole
  exact hasRole rfl

theorem unseen_streams {before after : Streaming} (streams : Streams [] before after) :
    after.sent = before.sent := by
  obtain ⟨added, sent, toReceivers⟩ := streams
  have nothing : added = [] := by
    apply List.eq_nil_iff_forall_not_mem.mpr
    intro delivery member
    cases (toReceivers delivery member).1
  rw [sent, nothing, List.append_nil]

theorem callback_mode (receivers : List WebSocket) (host : ClbContext) (lib : Libav)
    (streaming : Streaming) (state : ClbState) :
    (stateCallback receivers host lib streaming state).mode = streaming.mode := by
  cases state with
  | startStreaming => exact (start_streaming_controls receivers host lib streaming).1
  | stopStreaming => exact (stop_streaming_controls receivers host lib streaming).1

theorem inert_streams (inert : Inert server) (listed : Listed following)
    (clientList : following.clientList = server.clientList)
    (accepted : following.accepted = server.accepted) (inputs : following.inputs = server.inputs)
    (mode : following.streaming.mode = server.streaming.mode)
    (streams : Streams (viewers server.clientList) server.streaming following.streaming) :
    Inert following := by
  rw [nobody_views inert.nobody] at streams
  constructor
  · exact listed
  · rw [clientList]
    exact inert.nobody
  · rw [accepted]
    exact inert.accepted
  · rw [inputs]
    exact inert.inputs
  · rw [unseen_streams streams]
    exact inert.sent
  · rw [mode]
    exact inert.mode

theorem closed_inert {gone : WebSocket} (inert : Inert server)
    (closed : Closed server gone lib following) : Inert following := by
  have nobody : ∀ client ∈ following.clientList.entries,
      client = ClientTable.connected client.ws := by
    intro client member
    exact inert.nobody client ((closed_entries inert.listed closed).mp member).1
  have streams := closed_streams closed
  rw [nobody_views nobody] at streams
  constructor
  · exact closed_listed inert.listed closed
  · exact nobody
  · rw [closed.accepted, inert.accepted]
    rfl
  · rw [closed.inputs]
    exact inert.inputs
  · rw [unseen_streams streams]
    exact inert.sent
  · rcases closed.streaming with ⟨_, same⟩ | ⟨_, stopped⟩
    · rw [same]
      exact inert.mode
    · rw [stopped, callback_mode]
      exact inert.mode

theorem opened_inert {ws : WebSocket} (inert : Inert server) (fresh : ws ∉ server.sockets)
    (lib : Libav) : Inert (onOpenPtr server ws lib) := by
  have joined := on_open_joined server ws lib
  have nobody : ∀ client ∈ (onOpenPtr server ws lib).clientList.entries,
      client = ClientTable.connected client.ws := by
    intro client member
    rw [joined.clientList] at member
    by_cases taken : (ClientTable.connected ws).mcode ∈
        server.clientList.entries.map Client.mcode
    · rw [insert_taken taken] at member
      exact inert.nobody client member
    · rw [insert_fresh_entries taken] at member
      rcases List.mem_append.mp member with before | added
      · exact inert.nobody client before
      · rw [List.mem_singleton.mp added]
        rfl
  have streams := joined_streams joined
  rw [nobody_views nobody] at streams
  have forgotten : (connectionOpens server ws).streaming.sent = [] := by
    change server.streaming.sent.filter _ = []
    rw [inert.sent]
    rfl
  constructor
  · exact opened_listed inert.listed fresh lib
  · exact nobody
  · rw [joined.accepted]
    exact inert.accepted
  · rw [joined.inputs]
    exact inert.inputs
  · rw [unseen_streams streams]
    exact forgotten
  · rcases joined.streaming with ⟨_, same⟩ | ⟨_, started⟩
    · rw [same]
      exact inert.mode
    · rw [started, callback_mode]
      exact inert.mode

theorem unprivileged (inert : Inert server) (member : client ∈ server.clientList.entries) :
    client.chief = false ∧ client.authority = false := by
  rw [inert.nobody client member]
  exact ⟨rfl, rfl⟩

theorem refused_done {ws : WebSocket} (inert : Inert server)
    (found : findWs server.clientList ws = some client)
    (refused : Refuses server (.messages ws (some json) dbCall lib))
    (done : MsgDone server client json dbCall lib following) :
    following = server ∨ Closed server client.ws lib following := by
  obtain ⟨notChief, notGranted⟩ := unprivileged inert (find_ws_some found).1
  cases done with
  | idle => exact .inl rfl
  | input input granted =>
      rw [notGranted] at granted
      cases granted
  | authority addresses granted found updated =>
      rw [notChief] at granted
      cases granted
  | chief addresses granted found updated =>
      rw [notChief] at granted
      cases granted
  | accepted presents accepts =>
      exact absurd (accepted_admitted found presents accepts) (refused _ _)
  | rejected isSetting closed => exact .inr closed
  | mode isLoggedIn granted changed =>
      rw [notChief] at granted
      cases granted

theorem step_inert {event : ServerEvent} (inert : Inert server) (refused : Refuses server event)
    (stepped : ServerSteps.step server event = some following) :
    Inert following ∧ (following.db = server.db ∨ ∃ db, event = .databaseChanges db) := by
  have listed := step_listed inert.listed stepped
  cases step_done stepped with
  | opens fresh => exact ⟨opened_inert inert fresh _, .inl (on_open_joined _ _ _).db⟩
  | messages isOpen found parsed done =>
      rw [parsed] at refused
      rcases refused_done inert found refused done with same | closed
      · rw [same]
        exact ⟨inert, .inl rfl⟩
      · exact ⟨closed_inert inert closed, .inl closed.db⟩
  | closes isOpen closed => exact ⟨closed_inert inert closed, .inl closed.db⟩
  | packet running written =>
      have wrote := mux_write_wrote (viewers server.clientList) server.streaming
      refine ⟨inert_streams inert listed rfl rfl rfl (wrote _).mode ?_, .inl rfl⟩
      exact mux_write_streams server.streaming _
  | resizes running =>
      have controls := restart_encoder_controls (viewers server.clientList) server.streaming
      refine ⟨inert_streams inert listed rfl rfl rfl (controls _ _ _).1.mode ?_, .inl rfl⟩
      exact restart_streams server.streaming _ _ _
  | hostChanges =>
      exact ⟨⟨listed, inert.nobody, inert.accepted, inert.inputs, inert.sent, inert.mode⟩, .inl rfl⟩
  | databaseChanges =>
      exact ⟨⟨listed, inert.nobody, inert.accepted, inert.inputs, inert.sent, inert.mode⟩,
        .inr ⟨_, rfl⟩⟩

theorem start_inert (db : Database) (host : ClbContext) (eCtx : EncoderContext)
    (audioBytes : Int) : Inert (startServer db host eCtx audioBytes) := by
  refine ⟨start_listed db host eCtx audioBytes, ?_, rfl, rfl, rfl, rfl⟩
  intro client member
  cases member

/-- While the database accepts nobody, whatever connects and whatever it sends, nobody
is sent anything, the host gets no input, and the server changes neither the mode nor
the database. -/
theorem refused_run_inert {db : Database} {host : ClbContext} {eCtx : EncoderContext}
    {audioBytes : Int}
    (reached : Reaches ServerSteps.step Refuses (startServer db host eCtx audioBytes) server) :
    Inert server ∧ ∀ event following, Refuses server event →
      ServerSteps.step server event = some following →
      following.db = server.db ∨ ∃ db, event = .databaseChanges db := by
  have inert := invariant_of_step Inert (start_inert db host eCtx audioBytes)
    (fun _ _ _ inert refused stepped => (step_inert inert refused stepped).1) reached
  refine ⟨inert, ?_⟩
  intro event following refused stepped
  exact (step_inert inert refused stepped).2

theorem sample_stranger_refused (ws : WebSocket) {stranger : Server}
    (same : stranger.db = sampleDatabase) : Refuses stranger (settingEvent ws "z") := by
  intro mcode mscode admitted
  cases admitted with
  | setting found identifier mcodeField mscodeField answer result =>
      rw [← Option.some.inj mcodeField, same] at answer
      cases answer
      cases result

def turnedAway : List ServerEvent := [opensEvent 1, settingEvent 1 "z"]

theorem turned_away_inert : Inert (after ServerSteps.step sampleServer turnedAway) := by
  have refused : Along ServerSteps.step Refuses sampleServer turnedAway := by
    apply along_cons rfl
    · intro mcode mscode admitted
      cases admitted
    · apply along_cons rfl (sample_stranger_refused 1 rfl)
      trivial
  have reached := reaches_after refused rfl
  exact (refused_run_inert reached).1

end Refusing

end Collabo.AcceptedOnly
