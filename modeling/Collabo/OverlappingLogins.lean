import Collabo.MemberViews

/-!
# Logins that overlap

While a SETTING is between its two steps, the entry of its sender has its new record
and nobody has been sent it. What is sent in the end is the copy that the handler
made, so an AUTHORITY or a CHIEF in between may have made the record another one.
-/

namespace Collabo.OverlappingLogins

open UniqueTable PartialRuns KeyedReplica Collabo.CString Collabo.MySQLConnector
  Collabo.ClientTable Collabo.EncoderSession Collabo.MediaStream Collabo.CollaboServer
  Collabo.ServerSteps Collabo.ListedConnections Collabo.VideoHeader Collabo.LoginSteps
  Collabo.MediaDeliveries Collabo.MemberViews

set_option autoImplicit false

def startJoins (db : Database) (host : ClbContext) (eCtx : EncoderContext) (audioBytes : Int) :
    Joins where
  server := startServer db host eCtx audioBytes
  joining := []

/-- Beside what is between the steps of a SETTING, the messages that are handled in
one step. -/
inductive OverlapEvent where
  | joins (event : JoinEvent)
  | messages (ws : WebSocket) (json : Json) (dbCall : DbCall) (lib : Libav)

/-- A MODE that is let through waits for the handlers in progress. -/
def waits (client : Client) (json : Json) : Bool :=
  json.int "identifier" = some 5 ∧ client.role ≠ -1 ∧ client.chief

def handles (state : Joins) (ws : WebSocket) (json : Json) (dbCall : DbCall) (lib : Libav) :
    Option Joins :=
  if json.int "identifier" ≠ some 4 ∧ ws ∈ state.server.sockets ∧ ws ∉ joiningSockets state then
    (findWs state.server.clientList ws).bind fun client =>
      if waits client json ∧ ¬alone state then none
      else
        (settled (onMsgPtr state.server ws (some json) dbCall lib)).map fun server =>
          { state with server := server }
  else none

def step (state : Joins) : OverlapEvent → Option Joins
  | .joins event => LoginSteps.step state event
  | .messages ws json dbCall lib => handles state ws json dbCall lib

def IsAnnounced (state : Joins) : Member → Prop :=
  Records (fun client => client.role ≠ -1 ∧ client.ws ∉ joiningSockets state)
    state.server.clientList

/-- Whoever is through with its own SETTING can tell the others that are. -/
def AnnouncedShown (state : Joins) : Prop :=
  ∀ ws ∈ viewers state.server.clientList, ws ∉ joiningSockets state →
    Shows Member.mcode (viewOf state.server.streaming ws) (IsAnnounced state)

def ShownNext (state : Joins) (event : OverlapEvent) : Prop :=
  ∀ following, step state event = some following → AnnouncedShown following

/-- The entry has other privileges by now than the copy that is announced. -/
def Overtaken (state : Joins) (join : Join) : Prop :=
  ∃ client ∈ state.server.clientList.entries,
    client.ws = join.info.ws ∧ client.role ≠ -1 ∧ memberOf client ≠ memberOf join.info

/-- Another client that is through with its own SETTING hears of this one. -/
def Heard (state : Joins) (ws : WebSocket) : Prop :=
  ∃ viewer ∈ viewers state.server.clientList, viewer ≠ ws ∧ viewer ∉ joiningSockets state

def AnnouncesCurrent (state : Joins) (event : OverlapEvent) : Prop :=
  ∀ ws join, event = .joins (.announces ws) →
    state.joining.find? (fun join => join.info.ws = ws) = some join →
      Heard state ws → ¬Overtaken state join

/-- What happens while no other handler is in progress. -/
inductive SerialEvent where
  | opens (ws : WebSocket) (lib : Libav)
  | closes (ws : WebSocket) (lib : Libav)
  | logsIn (ws : WebSocket) (json : Json) (dbCall : DbCall) (lib : Libav)
  | messages (ws : WebSocket) (json : Json) (dbCall : DbCall) (lib : Libav)
  | hostChanges (host : ClbContext)
  | databaseChanges (db : Database)

/-- The steps of a SETTING, with nothing between them. -/
def SerialEvent.steps : SerialEvent → List OverlapEvent
  | .opens ws lib => [.joins (.opens ws lib)]
  | .closes ws lib => [.joins (.closes ws lib)]
  | .logsIn ws json dbCall lib => [.joins (.rekeys ws json dbCall lib), .joins (.announces ws)]
  | .messages ws json dbCall lib => [.messages ws json dbCall lib]
  | .hostChanges host => [.joins (.hostChanges host)]
  | .databaseChanges db => [.joins (.databaseChanges db)]

def SerialEvent.event : SerialEvent → ServerEvent
  | .opens ws lib => .opens ws lib
  | .closes ws lib => .closes ws lib
  | .logsIn ws json dbCall lib => .messages ws (some json) dbCall lib
  | .messages ws json dbCall lib => .messages ws (some json) dbCall lib
  | .hostChanges host => .hostChanges host
  | .databaseChanges db => .databaseChanges db

/-- Each client between its steps has an entry under the `mcode` of its copy. -/
structure Seated (state : Joins) : Prop where
  connected : Connected state.server
  entered : ∀ join ∈ state.joining, ∃ client ∈ state.server.clientList.entries,
    client.ws = join.info.ws ∧ client.mcode = join.info.mcode

structure Overlapping (state : Joins) : Prop where
  seated : Seated state
  shown : AnnouncedShown state

section Serial

variable {server : Server} {following : Joins}

theorem one_step {event : OverlapEvent}
    (ran : [event].foldlM step { server := server, joining := [] } = some following) :
    step { server := server, joining := [] } event = some following := by
  rw [List.foldlM_cons] at ran
  obtain ⟨next, stepped, same⟩ := Option.bind_eq_some_iff.mp ran
  cases same
  exact stepped

theorem handles_some {state : Joins} {ws : WebSocket} {json : Json} {dbCall : DbCall} {lib : Libav}
    (handled : handles state ws json dbCall lib = some following) :
    json.int "identifier" ≠ some 4 ∧ ws ∈ state.server.sockets ∧ ws ∉ joiningSockets state ∧
      onMsgPtr state.server ws (some json) dbCall lib = .returns following.server ∧
      following.joining = state.joining := by
  unfold handles at handled
  split_ifs at handled with ready
  obtain ⟨client, found, handled⟩ := Option.bind_eq_some_iff.mp handled
  split_ifs at handled
  obtain ⟨server, returned, rfl⟩ := Option.map_eq_some_iff.mp handled
  exact ⟨ready.1, ready.2.1, ready.2.2, settled_returns returned, rfl⟩

theorem logs_in_atomic {ws : WebSocket} {json : Json} {dbCall : DbCall} {lib : Libav}
    (ran : (SerialEvent.logsIn ws json dbCall lib).steps.foldlM step
      { server := server, joining := [] } = some following) :
    ServerSteps.step server (.messages ws (some json) dbCall lib) = some following.server ∧
      following.joining = [] := by
  obtain ⟨between, rekeyed, rest⟩ := Option.bind_eq_some_iff.mp (List.foldlM_cons.symm.trans ran)
  have announced : announcesJoin between ws = some following := by
    obtain ⟨last, stepped, same⟩ := Option.bind_eq_some_iff.mp (List.foldlM_cons.symm.trans rest)
    cases same
    exact stepped
  change rekeysJoin _ ws json dbCall lib = some between at rekeyed
  unfold rekeysJoin at rekeyed
  split_ifs at rekeyed with ready
  obtain ⟨isSetting, isOpen, _⟩ := ready
  obtain ⟨client, found, mapped⟩ := Option.bind_eq_some_iff.mp rekeyed
  obtain ⟨result, done, same⟩ := Option.map_eq_some_iff.mp mapped
  obtain ⟨info, cleared, rekeys⟩ := setting_rekeys_some isSetting done
  have own : result.1.info.ws = ws := by
    rw [rekeys.result_eq]
    exact rekeys.accepts.socket.trans (find_ws_some found).2
  rw [← same] at announced
  have last : some { server := announce result.2 result.1.info, joining := [] } =
      some following := by
    rw [← announced]
    simp [announcesJoin, own]
  cases last
  have handled : onMsgPtr server ws (some json) dbCall lib =
      .returns (announce result.2 result.1.info) := by
    simp only [onMsgPtr, found, isSetting, onIdentifier]
    exact rekeys.handled
  refine ⟨?_, rfl⟩
  have stepped : ServerSteps.step server (.messages ws (some json) dbCall lib) =
      settled (onMsgPtr server ws (some json) dbCall lib) := if_pos isOpen
  rw [stepped, handled]
  rfl

theorem serial_atomic {event : SerialEvent}
    (ran : event.steps.foldlM step { server := server, joining := [] } = some following) :
    ServerSteps.step server event.event = some following.server ∧ following.joining = [] := by
  cases event with
  | opens ws lib =>
      have stepped := one_step ran
      simp only [step, LoginSteps.step] at stepped
      split_ifs at stepped with ready
      cases stepped
      exact ⟨if_neg ready.2, rfl⟩
  | closes ws lib =>
      have stepped := one_step ran
      simp only [step, LoginSteps.step] at stepped
      split_ifs at stepped with ready
      obtain ⟨closed, handled, same⟩ := Option.map_eq_some_iff.mp stepped
      cases same
      exact ⟨(if_pos ready.2).trans handled, rfl⟩
  | logsIn ws json dbCall lib => exact logs_in_atomic ran
  | messages ws json dbCall lib =>
      obtain ⟨_, isOpen, _, returned, joining⟩ := handles_some (one_step ran)
      refine ⟨(if_pos isOpen).trans ?_, joining⟩
      rw [returned]
      rfl
  | hostChanges host =>
      cases one_step ran
      exact ⟨rfl, rfl⟩
  | databaseChanges db =>
      cases one_step ran
      exact ⟨rfl, rfl⟩

/-- A run in which no handler is interrupted is a run of the server whose handlers are one
step each. -/
theorem serial_run_atomic {events : List SerialEvent}
    (ran : (events.flatMap SerialEvent.steps).foldlM step { server := server, joining := [] } =
      some following) :
    (events.map SerialEvent.event).foldlM ServerSteps.step server = some following.server ∧
      following.joining = [] := by
  induction events generalizing server with
  | nil =>
      cases ran
      exact ⟨rfl, rfl⟩
  | cons event rest induction =>
      rw [List.flatMap_cons, List.foldlM_append] at ran
      obtain ⟨between, first, later⟩ := Option.bind_eq_some_iff.mp ran
      obtain ⟨stepped, alone⟩ := serial_atomic first
      have same : between = { server := between.server, joining := [] } := by
        rw [← alone]
      rw [same] at later
      obtain ⟨ranLater, still⟩ := induction later
      refine ⟨?_, still⟩
      rw [List.map_cons, List.foldlM_cons, stepped]
      exact ranLater

end Serial

section Steps

variable {state following : Joins}

theorem informed_of_overlapping (overlapping : Overlapping state) (alone : state.joining = []) :
    Informed state.server := by
  refine ⟨overlapping.seated.connected, ?_⟩
  intro ws viewing
  have nobody : ∀ other, other ∉ joiningSockets state := by
    intro other
    unfold joiningSockets
    rw [alone]
    exact List.not_mem_nil
  apply shows_fewer (overlapping.shown ws viewing (nobody ws))
  intro member isMember
  obtain ⟨client, present, hasRole, same⟩ := isMember
  exact ⟨client, present, ⟨hasRole, nobody client.ws⟩, same⟩

theorem overlapping_of_informed (informed : Informed state.server) (alone : state.joining = []) :
    Overlapping state := by
  refine ⟨⟨informed.connected, ?_⟩, ?_⟩
  · intro join member
    rw [alone] at member
    cases member
  · intro ws viewing _
    apply shows_fewer (informed.shown ws viewing)
    intro member announced
    obtain ⟨client, present, ⟨hasRole, _⟩, same⟩ := announced
    exact ⟨client, present, hasRole, same⟩

theorem announced_flagless (state : Joins) :
    Flagless fun client => client.role ≠ -1 ∧ client.ws ∉ joiningSockets state :=
  ⟨fun _ _ => Iff.rfl, fun _ _ => Iff.rfl⟩

theorem overlapping_told {server : Server} (overlapping : Overlapping state)
    (connected : Connected server)
    (entered : ∀ client ∈ state.server.clientList.entries, ∃ other ∈ server.clientList.entries,
      other.ws = client.ws ∧ other.mcode = client.mcode)
    (told : ∀ ws ∈ viewers server.clientList, ws ∈ viewers state.server.clientList ∧
      Tells Member.mcode (viewOf state.server.streaming ws) (viewOf server.streaming ws)
        (IsAnnounced state) (IsAnnounced { state with server := server })) :
    Overlapping { state with server := server } := by
  refine ⟨⟨connected, ?_⟩, ?_⟩
  · intro join member
    obtain ⟨client, present, socket, key⟩ := overlapping.seated.entered join member
    obtain ⟨other, later, sameSocket, sameKey⟩ := entered client present
    exact ⟨other, later, sameSocket.trans socket, sameKey.trans key⟩
  · intro ws viewing finished
    obtain ⟨before, tells⟩ := told ws viewing
    exact tells.shows (overlapping.shown ws before finished)

theorem overlapping_same {server : Server} (overlapping : Overlapping state)
    (clientList : server.clientList = state.server.clientList)
    (sockets : server.sockets = state.server.sockets)
    (views : ∀ ws, viewOf server.streaming ws = viewOf state.server.streaming ws) :
    Overlapping { state with server := server } := by
  have connected := overlapping.seated.connected
  apply overlapping_told overlapping
  · refine ⟨⟨?_, ?_⟩, ?_⟩
    · rw [clientList]
      exact connected.listed.distinct
    · rw [clientList, sockets]
      exact connected.listed.connected
    · rw [sockets]
      exact connected.distinct
  · intro client present
    rw [clientList]
    exact ⟨client, present, rfl, rfl⟩
  · intro ws viewing
    rw [clientList] at viewing
    refine ⟨viewing, ?_⟩
    rw [views ws]
    apply tells_same tells_nothing
    intro member
    unfold IsAnnounced
    rw [clientList]
    exact Iff.rfl

theorem modify_entered {clientList : ClientList} {change : Client → Client}
    (keepsKey : ∀ client, (change client).mcode = client.mcode)
    (keepsSocket : ∀ client, (change client).ws = client.ws) (mcode : ByteString)
    {client : Client} (present : client ∈ clientList.entries) :
    ∃ other ∈ (clientList.modify mcode change).entries,
      other.ws = client.ws ∧ other.mcode = client.mcode := by
  by_cases wanted : client.mcode = mcode
  · have changed := (mem_modify change keepsKey).mpr (.inl ⟨client, present, wanted, rfl⟩)
    exact ⟨_, changed, keepsSocket client, keepsKey client⟩
  · exact ⟨client, (mem_modify change keepsKey).mpr (.inr ⟨present, wanted⟩), rfl, rfl⟩

theorem hand_over_entered {server : Server} {client : Client} (src dst : ByteString)
    (present : client ∈ server.clientList.entries) :
    ∃ other ∈ (handOver server src dst).clientList.entries,
      other.ws = client.ws ∧ other.mcode = client.mcode := by
  obtain ⟨released, first, socket, key⟩ := @modify_entered server.clientList
    (ClientTable.changeChief false) (fun _ => rfl) (fun _ => rfl) src client present
  obtain ⟨granted, second, socket', key'⟩ := @modify_entered _
    (ClientTable.changeChief true) (fun _ => rfl) (fun _ => rfl) dst released first
  obtain ⟨given, third, socket'', key''⟩ := @modify_entered _
    (ClientTable.changeAuth true) (fun _ => rfl) (fun _ => rfl) dst granted second
  exact ⟨given, third, (socket''.trans socket').trans socket, (key''.trans key').trans key⟩

theorem handles_overlapping {ws : WebSocket} {json : Json} {dbCall : DbCall} {lib : Libav}
    (overlapping : Overlapping state)
    (handled : handles state ws json dbCall lib = some following) : Overlapping following := by
  obtain ⟨notSetting, _, _, returned, joining⟩ := handles_some handled
  obtain ⟨sender, parsed, found, same, done⟩ := on_msg_done returned
  cases same
  have member := (find_ws_some found).1
  have connected := overlapping.seated.connected
  have after := msg_connected connected member done
  have shape : following = { state with server := following.server } := by
    rw [← joining]
  rw [shape]
  generalize following.server = server at done after
  cases done with
  | idle => exact overlapping
  | input input granted => exact overlapping_same overlapping rfl rfl fun _ => rfl
  | @authority dst db addresses granted found updated =>
      apply overlapping_told overlapping after
      · exact fun client present => @modify_entered _ (ClientTable.changeAuth !dst.authority)
          (fun _ => rfl) (fun _ => rfl) dst.mcode client present
      · intro viewer viewing
        have distinct := connected.listed.distinct
        rw [← change_auth_sockets state.server dst.mcode (!dst.authority)] at distinct
        refine ⟨change_auth_viewers state.server.clientList (!dst.authority) dst.mcode ▸ viewing,
          broadcast_tells distinct viewing db ?_⟩
        exact change_auth_tells (announced_flagless state) (viewOf state.server.streaming viewer)
          state.server.clientList (!dst.authority) dst.mcode
  | @chief dst db addresses granted found updated =>
      apply overlapping_told overlapping after
      · exact fun client present => hand_over_entered sender.mcode dst.mcode present
      · intro viewer viewing
        have distinct := connected.listed.distinct
        rw [← hand_over_sockets state.server sender.mcode dst.mcode] at distinct
        refine ⟨hand_over_viewers state.server sender.mcode dst.mcode ▸ viewing,
          broadcast_tells distinct viewing db ?_⟩
        exact hand_over_tells (announced_flagless state) (viewOf state.server.streaming viewer)
          state.server sender.mcode dst.mcode
  | accepted presents accepts => exact absurd presents.identifier notSetting
  | rejected isSetting closed => exact absurd isSetting notSetting
  | mode isLoggedIn granted changed =>
      exact overlapping_same overlapping rfl rfl
        fun _ => streams_view (switch_mode_streams state.server _ lib) _

theorem rekeyed_other {server cleared : Server} {client info other : Client} {dbCall : DbCall}
    {lib : Libav} (listed : Listed server) (member : client ∈ server.clientList.entries)
    (accepts : Accepted server client info dbCall lib cleared)
    (present : other ∈ (rekeyed client info cleared).clientList.entries)
    (different : other.ws ≠ info.ws) : other ∈ server.clientList.entries := by
  rcases (logged_in_entries listed member accepts).mp present with same | ⟨before, _, _⟩
  · rw [same] at different
    exact absurd rfl different
  · exact before

/-- Nothing is closed while another handler is in progress. -/
theorem nothing_cleared {server : Server} {client info : Client} {dbCall : DbCall} {lib : Libav}
    (listed : Listed server) (accepts : Accepted server client info dbCall lib server) :
    server.clientList.find info.mcode = none := by
  rcases accepts.freed with ⟨free, _⟩ | ⟨other, taken, closed⟩
  · exact free
  · have present := (find_some taken).1
    exact absurd rfl ((closed_entries listed closed).mp present).2

theorem rekeys_entered {client info : Client} {dbCall : DbCall} {lib : Libav} {cleared : Server}
    (seated : Seated state) (member : client ∈ state.server.clientList.entries)
    (notJoining : client.ws ∉ joiningSockets state)
    (accepts : Accepted state.server client info dbCall lib cleared)
    (waited : cleared = state.server ∨ state.joining = []) :
    ∀ join ∈ state.joining ++ [{ client := client, info := info }],
      ∃ entry ∈ (rekeyed client info cleared).clientList.entries,
        entry.ws = join.info.ws ∧ entry.mcode = join.info.mcode := by
  have listed := seated.connected.listed
  have entries := @logged_in_entries state.server cleared client info dbCall lib listed member
    accepts
  intro join isJoin
  rcases List.mem_append.mp isJoin with earlier | latest
  · obtain ⟨entry, held, socket, joinKey⟩ := seated.entered join earlier
    rcases waited with same | none
    · subst same
      have free := find_none (nothing_cleared listed accepts)
      refine ⟨entry, entries.mpr (.inr ⟨held, ?_, ?_⟩), socket, joinKey⟩
      · exact fun key => free (key ▸ List.mem_map_of_mem held)
      · intro key
        have own : entry = client := item_eq_of_key held member key
        apply notJoining
        rw [← own, socket]
        exact List.mem_map_of_mem earlier
    · rw [none] at earlier
      cases earlier
  · rw [List.mem_singleton.mp latest]
    exact ⟨info, entries.mpr (.inl rfl), rfl, rfl⟩

theorem outside_before {server : Server} {join : Join} {ws : WebSocket}
    (outside : ws ∉ joiningSockets { server := server, joining := state.joining ++ [join] }) :
    ws ∉ joiningSockets state ∧ ws ≠ join.info.ws := by
  unfold joiningSockets at outside ⊢
  rw [List.map_append, List.mem_append, not_or] at outside
  exact ⟨outside.1, fun same => outside.2 (same ▸ List.mem_singleton_self _)⟩

theorem rekeys_overlapping {ws : WebSocket} {json : Json} {dbCall : DbCall} {lib : Libav}
    {client info : Client} {cleared : Server} (overlapping : Overlapping state)
    (found : findWs state.server.clientList ws = some client)
    (notJoining : ws ∉ joiningSockets state) (presents : Presents json info)
    (accepts : Accepted state.server client info dbCall lib cleared)
    (waited : cleared = state.server ∨ state.joining = []) :
    Overlapping { server := rekeyed client info cleared,
                  joining := state.joining ++ [{ client := client, info := info }] } := by
  obtain ⟨member, sends⟩ := find_ws_some found
  rw [← sends] at notJoining
  have connected := overlapping.seated.connected
  refine ⟨⟨rekeyed_connected connected member presents accepts,
    rekeys_entered overlapping.seated member notJoining accepts waited⟩, ?_⟩
  intro viewer viewing finished
  obtain ⟨before, different⟩ := outside_before finished
  have viewed := rekeyed_viewers connected member accepts viewing different
  have streaming : (rekeyed client info cleared).streaming = state.server.streaming := by
    have same : (rekeyed client info cleared).streaming = cleared.streaming := rfl
    rw [same, cleared_streaming accepts]
  have shown := overlapping.shown viewer viewed before
  rw [← streaming] at shown
  apply shows_fewer shown
  intro known announced
  obtain ⟨entry, present, ⟨hasRole, outside⟩, same⟩ := announced
  obtain ⟨outsideBefore, other⟩ := outside_before outside
  exact ⟨entry, rekeyed_other connected.listed member accepts present other,
    ⟨hasRole, outsideBefore⟩, same⟩

def announced (state : Joins) (join : Join) : Joins where
  server := announce state.server join.info
  joining := state.joining.filter fun other => other.info.ws ≠ join.info.ws

theorem joining_before {join : Join} {other : WebSocket} (different : other ≠ join.info.ws)
    (outside : other ∉ joiningSockets (announced state join)) :
    other ∉ joiningSockets state := by
  intro joining
  obtain ⟨held, isJoin, own⟩ := List.mem_map.mp joining
  apply outside
  rw [← own] at different ⊢
  exact List.mem_map_of_mem (List.mem_filter.mpr ⟨isJoin, by simpa using different⟩)

theorem announced_seated {join : Join} (seated : Seated state) :
    Seated (announced state join) := by
  obtain ⟨⟨⟨distinct, listed⟩, sockets⟩, entered⟩ := seated
  exact ⟨⟨⟨distinct, listed⟩, sockets⟩,
    fun other isJoin => entered other (List.mem_filter.mp isJoin).1⟩

/-- The others hear of the copy, and the sender of the whole table. -/
theorem announced_shown {join : Join} (overlapping : Overlapping state)
    (member : join ∈ state.joining)
    (current : Heard state join.info.ws → ¬Overtaken state join) :
    AnnouncedShown (announced state join) := by
  have connected := overlapping.seated.connected
  obtain ⟨held, isHeld, heldSocket, heldKey⟩ := overlapping.seated.entered join member
  intro viewer viewing finished
  have isOpen := connected.listed.connected viewer (viewer_listed viewing)
  by_cases own : viewer = join.info.ws
  · rw [own] at isOpen ⊢
    apply shows_fewer (announce_mirrors connected isOpen).shows
    intro known announced
    obtain ⟨entry, present, ⟨hasRole, _⟩, record⟩ := announced
    exact ⟨entry, present, hasRole, record⟩
  · have before := joining_before own finished
    have heard : Heard state join.info.ws := ⟨viewer, viewing, own, before⟩
    have view : viewOf (announced state join).server.streaming viewer = _ :=
      announce_puts connected isOpen own
    rw [view]
    apply shows_fewer (puts_shows (overlapping.shown viewer viewing before) (memberOf join.info))
    intro known announced
    obtain ⟨entry, present, ⟨hasRole, outside⟩, record⟩ := announced
    rw [← record]
    by_cases socket : entry.ws = join.info.ws
    · left
      by_contra changed
      exact current heard ⟨entry, present, socket, hasRole, changed⟩
    · refine .inr ⟨⟨entry, present, ⟨hasRole, joining_before socket outside⟩, rfl⟩, ?_⟩
      intro key
      apply socket
      rw [item_eq_of_key present isHeld (key.trans heldKey.symm)]
      exact heldSocket

theorem announced_current {join : Join} (overlapping : Overlapping state)
    (member : join ∈ state.joining) (shown : AnnouncedShown (announced state join))
    (heard : Heard state join.info.ws) : ¬Overtaken state join := by
  have connected := overlapping.seated.connected
  rintro ⟨entry, present, socket, hasRole, changed⟩
  obtain ⟨viewer, viewing, other, through⟩ := heard
  obtain ⟨held, isHeld, heldSocket, heldKey⟩ := overlapping.seated.entered join member
  have key : entry.mcode = join.info.mcode := by
    rw [List.inj_on_of_nodup_map connected.listed.distinct present isHeld
      (socket.trans heldSocket.symm)]
    exact heldKey
  have finished : ∀ ws, ws ∉ joiningSockets state → ws ∉ joiningSockets (announced state join) := by
    intro ws before joining
    obtain ⟨later, isJoin, own⟩ := List.mem_map.mp joining
    exact before (own ▸ List.mem_map_of_mem (List.mem_filter.mp isJoin).1)
  have done : entry.ws ∉ joiningSockets (announced state join) := by
    intro joining
    obtain ⟨later, isJoin, own⟩ := List.mem_map.mp joining
    have different := (List.mem_filter.mp isJoin).2
    rw [own, socket] at different
    simp at different
  have isOpen := connected.listed.connected viewer (viewer_listed viewing)
  have known := shown viewer viewing (finished viewer through) (memberOf entry)
    ⟨entry, present, ⟨hasRole, done⟩, rfl⟩
  have view : viewOf (announced state join).server.streaming viewer = _ :=
    announce_puts connected isOpen other
  have same : (memberOf entry).mcode = (memberOf join.info).mcode := key
  rw [view, same] at known
  simp only [learn, Function.update_self] at known
  exact changed (Option.some.inj known).symm

/-- While nobody is in between, a connection opens and closes as it does elsewhere. -/
theorem opens_overlapping {ws : WebSocket} {lib : Libav} (overlapping : Overlapping state)
    (isAlone : state.joining = []) (fresh : ws ∉ state.server.sockets) :
    Overlapping { state with server := onOpenPtr state.server ws lib } := by
  have stepped : ServerSteps.step state.server (.opens ws lib) =
      some (onOpenPtr state.server ws lib) := if_neg fresh
  exact overlapping_of_informed
    (step_informed (informed_of_overlapping overlapping isAlone) stepped) isAlone

theorem closes_overlapping {ws : WebSocket} {lib : Libav} {server : Server}
    (overlapping : Overlapping state) (isAlone : state.joining = [])
    (closed : Closed state.server ws lib server) :
    Overlapping { state with server := server } := by
  have informed := informed_of_overlapping overlapping isAlone
  refine overlapping_of_informed ⟨closed_connected informed.connected closed, ?_⟩ isAlone
  intro viewer viewing
  have viewed := closed_viewers informed.connected.listed closed viewing
  rw [streams_view (closed_streams closed)]
  apply shows_fewer (informed.shown viewer viewed)
  intro member isMember
  obtain ⟨client, present, hasRole, same⟩ := isMember
  exact ⟨client, ((closed_entries informed.connected.listed closed).mp present).1, hasRole, same⟩

theorem announces_some {ws : WebSocket} (stepped : announcesJoin state ws = some following) :
    ∃ join, state.joining.find? (fun join => join.info.ws = ws) = some join ∧
      join ∈ state.joining ∧ join.info.ws = ws ∧ following = announced state join := by
  obtain ⟨join, found, same⟩ := Option.map_eq_some_iff.mp stepped
  have own : join.info.ws = ws := by simpa using List.find?_some found
  refine ⟨join, found, List.mem_of_find?_eq_some found, own, ?_⟩
  rw [← same, ← own]
  rfl

theorem step_overlapping {event : OverlapEvent} (overlapping : Overlapping state)
    (current : AnnouncesCurrent state event) (stepped : step state event = some following) :
    Overlapping following := by
  cases event with
  | messages ws json dbCall lib => exact handles_overlapping overlapping stepped
  | joins event =>
      cases step_join_done stepped with
      | opens isAlone fresh => exact opens_overlapping overlapping isAlone fresh
      | closes isAlone closed => exact closes_overlapping overlapping isAlone closed
      | rekeys found notJoining presents accepts waited =>
          exact rekeys_overlapping overlapping found notJoining presents accepts waited
      | announces _ _ =>
          obtain ⟨join, found, member, own, same⟩ := announces_some stepped
          rw [same]
          refine ⟨announced_seated overlapping.seated, ?_⟩
          exact announced_shown overlapping member
            fun heard => current _ join rfl found (own ▸ heard)
      | packet =>
          exact overlapping_same overlapping rfl rfl
            fun _ => streams_view (read_packet_streams _ _) _
      | hostChanges => exact overlapping_same overlapping rfl rfl fun _ => rfl
      | databaseChanges => exact overlapping_same overlapping rfl rfl fun _ => rfl

theorem shown_next_iff {event : OverlapEvent} (overlapping : Overlapping state) :
    ShownNext state event ↔ AnnouncesCurrent state event := by
  constructor
  · intro shown ws join isAnnouncement found heard
    cases isAnnouncement
    have own : join.info.ws = ws := by simpa using List.find?_some found
    have stepped : step state (.joins (.announces ws)) = some (announced state join) := by
      change (state.joining.find? fun join => join.info.ws = ws).map _ = _
      rw [found, ← own]
      rfl
    exact announced_current overlapping (List.mem_of_find?_eq_some found) (shown _ stepped)
      (own ▸ heard)
  · intro current following stepped
    exact (step_overlapping overlapping current stepped).shown

theorem start_overlapping (db : Database) (host : ClbContext) (eCtx : EncoderContext)
    (audioBytes : Int) : Overlapping (startJoins db host eCtx audioBytes) :=
  overlapping_of_informed (start_informed db host eCtx audioBytes) rfl

end Steps

/-- However the handlers overlap, a client whose SETTING is through can tell every member
whose own SETTING is through just as long as no copy is announced to another client that
the table has other privileges for by then. -/
theorem announced_shown_iff (db : Database) (host : ClbContext) (eCtx : EncoderContext)
    (audioBytes : Int) (events : List OverlapEvent) :
    Along step ShownNext (startJoins db host eCtx audioBytes) events ↔
      Along step AnnouncesCurrent (startJoins db host eCtx audioBytes) events := by
  apply along_iff_of_invariant (fun _ _ => True) Overlapping
  · exact fun state event overlapping _ => shown_next_iff overlapping
  · exact fun state event following overlapping _ shown stepped =>
      step_overlapping overlapping ((shown_next_iff overlapping).mp shown) stepped
  · exact start_overlapping db host eCtx audioBytes
  · exact along_of_forall (fun _ _ => trivial) events

/-- The chief gives the authority to a member whose SETTING is between its steps. -/
def overtaken : List OverlapEvent :=
  [.joins (.opens 1 sampleLib), .joins (rekeysEvent 1 "a"), .joins (.announces 1),
    .joins (.opens 2 sampleLib), .joins (rekeysEvent 2 "c"),
    .messages 1 { fields := [("identifier", .number 2), ("dst", .text (ascii "c"))] } .succeeds
      sampleLib]

theorem overtaken_not_shown :
    ¬Along step ShownNext
      (startJoins sampleDatabase sampleHost (encoderContext .image sampleHost) 0)
      (overtaken ++ [.joins (.announces 2)]) := by
  rw [announced_shown_iff]
  intro along
  obtain ⟨state, ran⟩ : ∃ state, overtaken.foldlM step
      (startJoins sampleDatabase sampleHost (encoderContext .image sampleHost) 0) = some state :=
    ⟨_, rfl⟩
  have current := (along_rest along ran).1
  cases ran
  exact current 2 _ rfl rfl ⟨1, by decide, by decide, by decide⟩ (by unfold Overtaken; decide)

end Collabo.OverlappingLogins
