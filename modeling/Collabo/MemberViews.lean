import Collabo.LoginSteps
import Collabo.MediaDeliveries
import Collabo.RoleAgreement
import Collabo.Library.KeyedReplica

/-!
# What the clients know of one another

A client learns of the members from the messages only: CONNECTEDMEMBERINFO lists
them, ACCESSMEMBER brings one, and AUTHPROCESS and CHIEFPROCESS change privileges.
What a viewer makes of all it has been sent shows each logged-in member with the
privileges that the table has. Nothing tells of a member that leaves.
-/

namespace Collabo.MemberViews

open UniqueTable PartialRuns Deliveries KeyedReplica Collabo.CString Collabo.MySQLConnector
  Collabo.ClientTable Collabo.EncoderSession Collabo.MediaStream Collabo.CollaboServer
  Collabo.ServerSteps Collabo.ListedConnections Collabo.VideoHeader Collabo.LoginSteps
  Collabo.MediaDeliveries

set_option autoImplicit false

/-- The records of the entries that are `kept`. -/
def Records (kept : Client → Prop) (clientList : ClientList) (member : Member) : Prop :=
  ∃ client ∈ clientList.entries, kept client ∧ memberOf client = member

/-- Which entries those are does not depend on the flags. -/
structure Flagless (kept : Client → Prop) : Prop where
  authority : ∀ newAuth client, kept (ClientTable.changeAuth newAuth client) ↔ kept client
  chief : ∀ newChief client, kept (ClientTable.changeChief newChief client) ↔ kept client

/-- The record of an entry that has logged in. -/
def IsMember (clientList : ClientList) (member : Member) : Prop :=
  ∃ client ∈ clientList.entries, client.role ≠ -1 ∧ memberOf client = member

def withAuthority (authority : Bool) (member : Member) : Member :=
  { member with authority := authority }

def withChief (chief : Bool) (member : Member) : Member := { member with chief := chief }

/-- What a message says of the members. CHIEFPROCESS names the old chief and the
new one, which has the authority as well. -/
def updatesOf : StcMsg → List (Update Member ByteString)
  | .initVideo _ => []
  | .decodeVideo _ => []
  | .authProcess authority mcode => [.changes mcode (withAuthority authority)]
  | .chiefProcess src dst =>
      [.changes src (withChief false), .changes dst (withChief true),
        .changes dst (withAuthority true)]
  | .accessMemberProcess member => [.puts member]
  | .connectedMemberInfoProcess members _ => [.lists members]

def memberView (messages : List StcMsg) : ByteString → Option Member :=
  replay Member.mcode (messages.flatMap updatesOf)

def viewOf (streaming : Streaming) (ws : WebSocket) : ByteString → Option Member :=
  memberView (inbox streaming ws)

def learns (view : ByteString → Option Member) (msg : StcMsg) : ByteString → Option Member :=
  (updatesOf msg).foldl (learn Member.mcode) view

section Views

variable {streaming : Streaming} {receivers : List WebSocket} {ws : WebSocket}

theorem member_view_append (messages more : List StcMsg) :
    memberView (messages ++ more) = more.foldl learns (memberView messages) := by
  unfold memberView
  rw [List.flatMap_append, replay_append, List.foldl_flatMap]
  rfl

theorem media_untold {msg : StcMsg} (media : IsMedia msg) : updatesOf msg = [] := by
  cases msg with
  | initVideo init => rfl
  | decodeVideo packet => rfl
  | authProcess authority mcode => cases media
  | chiefProcess src dst => cases media
  | accessMemberProcess member => cases media
  | connectedMemberInfoProcess members size => cases media

theorem media_view {messages : List StcMsg} (media : ∀ msg ∈ messages, IsMedia msg)
    (view : ByteString → Option Member) : messages.foldl learns view = view := by
  induction messages generalizing view with
  | nil => rfl
  | cons msg rest induction =>
      have head : learns view msg = view := by
        unfold learns
        rw [media_untold (media msg List.mem_cons_self)]
        rfl
      rw [List.foldl_cons, head]
      exact induction (fun other member => media other (List.mem_cons_of_mem msg member)) view

/-- The streams leave what everyone knows of the members. -/
theorem streams_view {after : Streaming} (streams : Streams receivers streaming after)
    (ws : WebSocket) : viewOf after ws = viewOf streaming ws := by
  obtain ⟨added, sent, media⟩ := streams
  have inboxes : inbox after ws = inbox streaming ws ++ received added ws := by
    change received after.sent ws = received streaming.sent ws ++ received added ws
    rw [sent, received_append]
  unfold viewOf
  rw [inboxes, member_view_append]
  apply media_view
  intro msg member
  obtain ⟨delivery, kept, same⟩ := List.mem_map.mp member
  rw [← same]
  exact (media delivery (List.mem_filter.mp kept).1).2

theorem sent_view {sockets : List WebSocket} (distinct : sockets.Nodup) (member : ws ∈ sockets)
    (streaming : Streaming) (msg : StcMsg) :
    viewOf (sendAll streaming sockets msg) ws = learns (viewOf streaming ws) msg := by
  unfold viewOf
  rw [inbox_send_all, List.count_eq_one_of_mem distinct member, member_view_append]
  rfl

end Views

section Table

variable {clientList : ClientList} {member : Member}

theorem is_member_mem {client : Client} (listed : client ∈ clientList.entries)
    (hasRole : client.role ≠ -1) : IsMember clientList (memberOf client) :=
  ⟨client, listed, hasRole, rfl⟩

theorem mem_connected_members : member ∈ connectedMembers clientList ↔
    IsMember clientList member := by
  have order := List.perm_insertionSort (fun left right : Client => left.mcode ≤ right.mcode)
    clientList.entries
  unfold connectedMembers IsMember
  simp only [List.mem_map, List.mem_filter, order.mem_iff, decide_eq_true_iff, and_assoc]

theorem connected_members_unique (clientList : ClientList) :
    ((connectedMembers clientList).map Member.mcode).Nodup := by
  have order := List.perm_insertionSort (fun left right : Client => left.mcode ≤ right.mcode)
    clientList.entries
  have keys : (connectedMembers clientList).map Member.mcode =
      ((clientList.entries.insertionSort fun left right => left.mcode ≤ right.mcode).filter
        fun client => client.role ≠ -1).map Client.mcode := by
    unfold connectedMembers
    rw [List.map_map]
    rfl
  have sorted := (order.map Client.mcode).nodup_iff.mpr clientList.unique
  rw [keys]
  exact sorted.sublist (List.filter_sublist.map Client.mcode)

theorem records_modify {kept : Client → Prop} (change : Client → Client)
    (changeMember : Member → Member)
    (keepsKey : ∀ client, (change client).mcode = client.mcode)
    (keeps : ∀ client, kept (change client) ↔ kept client)
    (follows : ∀ client, memberOf (change client) = changeMember (memberOf client))
    (mcode : ByteString) :
    Records kept (clientList.modify mcode change) member ↔
      Changed Member.mcode (Records kept clientList) mcode changeMember member := by
  constructor
  · intro recorded
    obtain ⟨client, listed, isKept, same⟩ := recorded
    rcases (mem_modify change keepsKey).mp listed with
      ⟨held, before, key, changed⟩ | ⟨before, other⟩
    · rw [changed, keeps] at isKept
      rw [changed, follows] at same
      exact .inl ⟨memberOf held, ⟨held, before, isKept, rfl⟩, key, same.symm⟩
    · apply Or.inr
      rw [← same]
      exact ⟨⟨client, before, isKept, rfl⟩, other⟩
  · intro changed
    rcases changed with ⟨held, recorded, key, same⟩ | ⟨recorded, other⟩
    · obtain ⟨client, before, isKept, own⟩ := recorded
      rw [← own] at key same
      refine ⟨change client, (mem_modify change keepsKey).mpr (.inl ⟨client, before, key, rfl⟩),
        (keeps client).mpr isKept, ?_⟩
      rw [follows, same]
    · obtain ⟨client, before, isKept, own⟩ := recorded
      rw [← own] at other
      exact ⟨client, (mem_modify change keepsKey).mpr (.inr ⟨before, other⟩), isKept, own⟩

theorem change_auth_tells {kept : Client → Prop} (flagless : Flagless kept)
    (view : ByteString → Option Member) (clientList : ClientList) (newAuth : Bool)
    (mcode : ByteString) :
    Tells Member.mcode view (learn Member.mcode view (.changes mcode (withAuthority newAuth)))
      (Records kept clientList)
      (Records kept (clientList.modify mcode (ClientTable.changeAuth newAuth))) :=
  tells_same (tells_changes mcode fun _ => rfl) fun _ =>
    records_modify (ClientTable.changeAuth newAuth) (withAuthority newAuth) (fun _ => rfl)
      (flagless.authority newAuth) (fun _ => rfl) mcode

theorem change_chief_tells {kept : Client → Prop} (flagless : Flagless kept)
    (view : ByteString → Option Member) (clientList : ClientList) (newChief : Bool)
    (mcode : ByteString) :
    Tells Member.mcode view (learn Member.mcode view (.changes mcode (withChief newChief)))
      (Records kept clientList)
      (Records kept (clientList.modify mcode (ClientTable.changeChief newChief))) :=
  tells_same (tells_changes mcode fun _ => rfl) fun _ =>
    records_modify (ClientTable.changeChief newChief) (withChief newChief) (fun _ => rfl)
      (flagless.chief newChief) (fun _ => rfl) mcode

theorem hand_over_tells {kept : Client → Prop} (flagless : Flagless kept)
    (view : ByteString → Option Member) (server : Server) (src dst : ByteString) :
    Tells Member.mcode view (learns view (.chiefProcess src dst))
      (Records kept server.clientList) (Records kept (handOver server src dst).clientList) := by
  have released := change_chief_tells flagless view server.clientList false src
  have granted := tells_then released (change_chief_tells flagless _ _ true dst)
  exact tells_then granted (change_auth_tells flagless _ _ true dst)

theorem roles_flagless : Flagless fun client => client.role ≠ -1 :=
  ⟨fun _ _ => Iff.rfl, fun _ _ => Iff.rfl⟩

theorem insert_connected_member (ws : WebSocket) :
    IsMember (clientList.insert (ClientTable.connected ws)) member ↔
      IsMember clientList member := by
  by_cases taken : (ClientTable.connected ws).mcode ∈ clientList.entries.map Client.mcode
  · rw [insert_taken taken]
  · unfold IsMember
    rw [insert_fresh_entries taken]
    constructor
    · intro isMember
      obtain ⟨client, listed, hasRole, same⟩ := isMember
      rcases List.mem_append.mp listed with before | added
      · exact ⟨client, before, hasRole, same⟩
      · rw [List.mem_singleton.mp added] at hasRole
        exact absurd rfl hasRole
    · intro isMember
      obtain ⟨client, listed, hasRole, same⟩ := isMember
      exact ⟨client, List.mem_append_left _ listed, hasRole, same⟩

theorem viewer_listed {ws : WebSocket} (viewing : ws ∈ viewers clientList) :
    ws ∈ clientSockets clientList := by
  obtain ⟨client, present, _, same⟩ := mem_viewers.mp viewing
  exact same ▸ List.mem_map_of_mem present

end Table

/-- A message to all the entries tells each viewer of what it tells a client. -/
theorem broadcast_tells {modified : Server} {ws : WebSocket} {msg : StcMsg}
    {view : ByteString → Option Member} {present expected : Member → Prop}
    (distinct : (clientSockets modified.clientList).Nodup)
    (viewing : ws ∈ viewers modified.clientList) (db : Database)
    (tells : Tells Member.mcode view (learns (viewOf modified.streaming ws) msg) present expected) :
    Tells Member.mcode view
      (viewOf (CollaboServer.broadcast { modified with db := db } msg).streaming ws)
      present expected := by
  rw [← sent_view distinct (viewer_listed viewing)] at tells
  exact tells

theorem init_view {ws : WebSocket} {sockets : List WebSocket} (streaming : Streaming)
    (complete : Prop) [Decidable complete] (view : ByteString → Option Member) :
    (received (if complete then Deliveries.broadcast sockets (.initVideo (videoInit streaming))
      else []) ws).foldl learns view = view := by
  apply media_view
  intro msg member
  obtain ⟨delivery, kept, same⟩ := List.mem_map.mp member
  have sent := (List.mem_filter.mp kept).1
  split_ifs at sent
  · obtain ⟨_, _, addressed⟩ := List.mem_map.mp sent
    rw [← same, ← addressed]
    trivial
  · cases sent

theorem announce_view {server : Server} {info : Client} {ws : WebSocket}
    (distinct : server.sockets.Nodup) (isOpen : ws ∈ server.sockets) :
    viewOf (announce server info).streaming ws =
      (List.replicate ([info.ws].count ws) (StcMsg.connectedMemberInfoProcess
        (connectedMembers server.clientList) server.clientList.size)).foldl learns
        (learns (viewOf server.streaming ws) (.accessMemberProcess (memberOf info))) := by
  have announced : inbox (announce server info).streaming ws =
      received (announce server info).streaming.sent ws := rfl
  unfold viewOf
  rw [announced, announce_sent, received_append, received_append, received_append,
    received_broadcast, received_broadcast, List.count_eq_one_of_mem distinct isOpen,
    member_view_append, List.foldl_append, List.foldl_append, init_view]
  rfl

def senderOf : ServerEvent → Option WebSocket
  | .messages ws _ _ _ => some ws
  | .opens _ _ => none
  | .closes _ _ => none
  | .packet _ => none
  | .resizes _ _ _ => none
  | .hostChanges _ => none
  | .databaseChanges _ => none

/-- No participant has the role that stands for a client without one. -/
def RolesGiven (db : Database) : Prop :=
  ∀ meet mnum text, db.role meet mnum = some (some text) → roleNumber text ≠ -1

def Keeps (clientList later : ClientList) : Prop :=
  ∀ member, IsMember clientList member →
    ∃ other, IsMember later other ∧ other.mcode = member.mcode

section Keeping

variable {clientList : ClientList}

theorem keeps_same (clientList : ClientList) : Keeps clientList clientList :=
  fun member isMember => ⟨member, isMember, rfl⟩

theorem keeps_then {later last : ClientList} (first : Keeps clientList later)
    (second : Keeps later last) : Keeps clientList last := by
  intro member isMember
  obtain ⟨other, isLater, same⟩ := first member isMember
  obtain ⟨final, isLast, key⟩ := second other isLater
  exact ⟨final, isLast, key.trans same⟩

theorem modify_keeps (change : Client → Client)
    (keepsKey : ∀ client, (change client).mcode = client.mcode)
    (keepsRole : ∀ client, (change client).role = client.role) (mcode : ByteString) :
    Keeps clientList (clientList.modify mcode change) := by
  intro member isMember
  obtain ⟨client, present, hasRole, same⟩ := isMember
  rw [← same]
  by_cases wanted : client.mcode = mcode
  · have changed := (mem_modify change keepsKey).mpr (.inl ⟨client, present, wanted, rfl⟩)
    exact ⟨_, is_member_mem changed ((keepsRole client).symm ▸ hasRole), keepsKey client⟩
  · have kept := (mem_modify change keepsKey).mpr (.inr ⟨present, wanted⟩)
    exact ⟨_, is_member_mem kept hasRole, rfl⟩

theorem change_auth_keeps (newAuth : Bool) (mcode : ByteString) :
    Keeps clientList (clientList.modify mcode (ClientTable.changeAuth newAuth)) :=
  modify_keeps (ClientTable.changeAuth newAuth) (fun _ => rfl) (fun _ => rfl) mcode

theorem change_chief_keeps (newChief : Bool) (mcode : ByteString) :
    Keeps clientList (clientList.modify mcode (ClientTable.changeChief newChief)) :=
  modify_keeps (ClientTable.changeChief newChief) (fun _ => rfl) (fun _ => rfl) mcode

theorem hand_over_keeps (server : Server) (src dst : ByteString) :
    Keeps server.clientList (handOver server src dst).clientList :=
  keeps_then (change_chief_keeps false src)
    (keeps_then (change_chief_keeps true dst) (change_auth_keeps true dst))

end Keeping

/-- How what a viewer knows goes on. After its own SETTING it has the list. The last
case is that of another client's SETTING, and of an end of a connection. -/
inductive Learned (server following : Server) (ws : WebSocket) (own : Prop) : Prop where
  | lists (isOwn : own)
      (mirrors : Mirrors Member.mcode (viewOf following.streaming ws)
        (IsMember following.clientList))
  | follows (viewing : ws ∈ viewers server.clientList)
      (tells : Tells Member.mcode (viewOf server.streaming ws) (viewOf following.streaming ws)
        (IsMember server.clientList) (IsMember following.clientList))
      (kept : Keeps server.clientList following.clientList)
  | departs (foreign : ¬own) (viewing : ws ∈ viewers server.clientList)
      (expected : Member → Prop)
      (tells : Tells Member.mcode (viewOf server.streaming ws) (viewOf following.streaming ws)
        (IsMember server.clientList) expected)
      (told : ∀ member, IsMember following.clientList member → expected member)
      (gone : RolesGiven server.db → Follows Member.mcode (IsMember server.clientList)
        (IsMember following.clientList) expected)

structure Connected (server : Server) : Prop where
  listed : Listed server
  distinct : server.sockets.Nodup

section Steps

variable {server following : Server} {client info : Client} {json : Json} {dbCall : DbCall}
  {lib : Libav} {ws gone : WebSocket} {own : Prop}

theorem closed_connected (connected : Connected server)
    (closed : Closed server gone lib following) : Connected following where
  listed := closed_listed connected.listed closed
  distinct := by
    rw [closed.sockets]
    exact connected.distinct.filter _

theorem msg_connected (connected : Connected server) (member : client ∈ server.clientList.entries)
    (done : MsgDone server client json dbCall lib following) : Connected following := by
  refine ⟨msg_listed connected.listed member done, ?_⟩
  rcases msg_sockets connected.listed member done with ⟨_, sockets⟩ | ⟨_, _, closing, _, sockets⟩
  · rw [sockets]
    exact connected.distinct
  · rw [sockets]
    exact (closed_connected connected closing).distinct

theorem step_connected {event : ServerEvent} (connected : Connected server)
    (stepped : ServerSteps.step server event = some following) : Connected following := by
  refine ⟨step_listed connected.listed stepped, ?_⟩
  cases step_done stepped with
  | opens fresh =>
      rw [(on_open_joined server _ _).sockets]
      exact List.nodup_append_comm.mp (List.nodup_cons.mpr ⟨fresh, connected.distinct⟩)
  | messages isOpen found parsed done =>
      exact (msg_connected connected (find_ws_some found).1 done).distinct
  | closes isOpen closed => exact (closed_connected connected closed).distinct
  | packet running written => exact connected.distinct
  | resizes running => exact connected.distinct
  | hostChanges => exact connected.distinct
  | databaseChanges => exact connected.distinct

theorem streams_learned (clientList : following.clientList = server.clientList)
    {receivers : List WebSocket}
    (streams : Streams receivers server.streaming following.streaming)
    (viewing : ws ∈ viewers following.clientList) : Learned server following ws own := by
  rw [clientList] at viewing
  apply Learned.follows viewing
  · rw [clientList, streams_view streams]
    exact tells_nothing
  · rw [clientList]
    exact keeps_same server.clientList

theorem opened_learned (connected : Connected server) {opening : WebSocket}
    (fresh : opening ∉ server.sockets) (lib : Libav)
    (viewing : ws ∈ viewers (onOpenPtr server opening lib).clientList) :
    Learned server (onOpenPtr server opening lib) ws own := by
  have joined := on_open_joined server opening lib
  rw [joined.clientList, insert_connected_viewers] at viewing
  have different : ws ≠ opening := by
    intro same
    exact fresh (same ▸ connected.listed.connected ws (viewer_listed viewing))
  have kept : viewOf (connectionOpens server opening).streaming ws =
      viewOf server.streaming ws :=
    congrArg memberView (received_forget_other different)
  apply Learned.follows viewing
  · rw [streams_view (joined_streams joined), joined.clientList, kept]
    exact tells_same tells_nothing fun _ => insert_connected_member opening
  · intro member isMember
    rw [joined.clientList]
    exact ⟨member, (insert_connected_member opening).mpr isMember, rfl⟩

theorem authority_learned (connected : Connected server) (mcode : ByteString) (newAuth : Bool)
    (db : Database) (viewing : ws ∈ viewers
      (modifyClient server mcode (ClientTable.changeAuth newAuth)).clientList) :
    Learned server (CollaboServer.broadcast
      { modifyClient server mcode (ClientTable.changeAuth newAuth) with db := db }
      (.authProcess newAuth mcode)) ws own := by
  have distinct := connected.listed.distinct
  rw [← change_auth_sockets server mcode newAuth] at distinct
  apply Learned.follows ((change_auth_viewers server.clientList newAuth mcode) ▸ viewing)
  · exact broadcast_tells distinct viewing db
      (change_auth_tells roles_flagless (viewOf server.streaming ws) server.clientList newAuth
        mcode)
  · exact change_auth_keeps newAuth mcode

theorem chief_learned (connected : Connected server) (src dst : ByteString) (db : Database)
    (viewing : ws ∈ viewers (handOver server src dst).clientList) :
    Learned server (CollaboServer.broadcast { handOver server src dst with db := db }
      (.chiefProcess src dst)) ws own := by
  have distinct := connected.listed.distinct
  rw [← hand_over_sockets server src dst] at distinct
  apply Learned.follows ((hand_over_viewers server src dst) ▸ viewing)
  · exact broadcast_tells distinct viewing db
      (hand_over_tells roles_flagless (viewOf server.streaming ws) server src dst)
  · exact hand_over_keeps server src dst

theorem announce_mirrors (connected : Connected server) (isOpen : info.ws ∈ server.sockets) :
    Mirrors Member.mcode (viewOf (announce server info).streaming info.ws)
      (IsMember server.clientList) := by
  have view := @announce_view server info _ connected.distinct isOpen
  rw [List.count_singleton_self] at view
  have same : viewOf (announce server info).streaming info.ws =
      learn Member.mcode (learns (viewOf server.streaming info.ws)
        (.accessMemberProcess (memberOf info)))
        (.lists (connectedMembers server.clientList)) := view
  rw [same]
  constructor
  · exact shows_fewer (lists_shows (connected_members_unique _)) fun _ =>
      mem_connected_members.mpr
  · exact knows_only_more (lists_only _) fun _ => mem_connected_members.mp

theorem announce_puts (connected : Connected server) (isOpen : ws ∈ server.sockets)
    (other : ws ≠ info.ws) :
    viewOf (announce server info).streaming ws =
      learn Member.mcode (viewOf server.streaming ws) (.puts (memberOf info)) := by
  have view := @announce_view server info _ connected.distinct isOpen
  rw [List.count_eq_zero.mpr fun present => other (List.mem_singleton.mp present)] at view
  exact view

theorem closed_learned (connected : Connected server)
    (closed : Closed server gone lib following) (foreign : ws ≠ gone → ¬own)
    (viewing : ws ∈ viewers following.clientList) : Learned server following ws own := by
  have different := ((closed_sockets connected.listed closed).mp (viewer_listed viewing)).2
  have told : ∀ member, IsMember following.clientList member →
      IsMember server.clientList member := by
    intro member isMember
    obtain ⟨client, present, hasRole, same⟩ := isMember
    exact ⟨client, ((closed_entries connected.listed closed).mp present).1, hasRole, same⟩
  apply Learned.departs (foreign different) (closed_viewers connected.listed closed viewing)
    (IsMember server.clientList)
  · rw [streams_view (closed_streams closed)]
    exact tells_nothing
  · exact told
  · intro _
    refine ⟨told, ?_, ?_⟩
    · intro member isMember
      exact ⟨member, isMember, rfl⟩
    · intro member isMember
      exact .inr ⟨member, isMember, rfl⟩

theorem rekeyed_connected {cleared : Server} (connected : Connected server)
    (member : client ∈ server.clientList.entries) (presents : Presents json info)
    (accepts : Accepted server client info dbCall lib cleared) :
    Connected (rekeyed client info cleared) := by
  have after := msg_connected connected member (.accepted presents accepts)
  exact ⟨⟨after.listed.distinct, after.listed.connected⟩, after.distinct⟩

theorem rekeyed_viewers {cleared : Server} (connected : Connected server)
    (member : client ∈ server.clientList.entries)
    (accepts : Accepted server client info dbCall lib cleared)
    (viewing : ws ∈ viewers (rekeyed client info cleared).clientList) (other : ws ≠ info.ws) :
    ws ∈ viewers server.clientList := by
  rcases List.mem_append.mp (logged_in_viewers connected.listed member accepts viewing) with
    sender | kept
  · exact absurd (List.mem_singleton.mp sender) other
  · rcases accepts.freed with ⟨_, same⟩ | ⟨_, _, closed⟩
    · exact same ▸ kept
    · exact closed_viewers connected.listed closed kept

/-- The others hear of the sender's new record, and of nothing that is gone. -/
theorem accepted_learned {cleared : Server} (connected : Connected server)
    (member : client ∈ server.clientList.entries) (presents : Presents json info)
    (accepts : Accepted server client info dbCall lib cleared) (isOwn : ws = client.ws → own)
    (foreign : ws ≠ client.ws → ¬own)
    (viewing : ws ∈ viewers (loggedIn client info cleared).clientList) :
    Learned server (loggedIn client info cleared) ws own := by
  have joined := rekeyed_connected connected member presents accepts
  have isOpen := joined.listed.connected ws (viewer_listed viewing)
  have entries := @logged_in_entries server cleared client info dbCall lib connected.listed member
    accepts
  by_cases self : ws = info.ws
  · rw [self] at isOpen ⊢
    exact .lists (isOwn (self.trans accepts.socket)) (announce_mirrors joined isOpen)
  · have told : ∀ later, IsMember (loggedIn client info cleared).clientList later →
        Put Member.mcode (IsMember server.clientList) (memberOf info) later := by
      intro later isMember
      obtain ⟨entry, present, hasRole, same⟩ := isMember
      rw [← same]
      rcases entries.mp present with isInfo | ⟨before, different, _⟩
      · rw [isInfo]
        exact .inl rfl
      · exact .inr ⟨is_member_mem before hasRole, different⟩
    have viewed := rekeyed_viewers connected member accepts viewing self
    have view := announce_puts joined isOpen self
    have streaming : (rekeyed client info cleared).streaming = cleared.streaming := rfl
    rw [streaming, cleared_streaming accepts] at view
    apply Learned.departs (foreign fun same => self (same.trans accepts.socket.symm)) viewed
      (Put Member.mcode (IsMember server.clientList) (memberOf info))
    · have same : viewOf (loggedIn client info cleared).streaming ws =
          learn Member.mcode (viewOf server.streaming ws) (.puts (memberOf info)) := view
      rw [same]
      exact tells_puts (memberOf info)
    · exact told
    · intro given
      obtain ⟨meet, mnum, text, _, stored, role, _⟩ := is_suited_accepts accepts.suited rfl
      have hasRole : info.role ≠ -1 :=
        fun none => given meet mnum text stored (role.symm.trans none)
      refine ⟨told, ?_, ?_⟩
      · intro held isMember
        by_cases same : held.mcode = info.mcode
        · exact ⟨memberOf info, .inl rfl, same.symm⟩
        · exact ⟨held, .inr ⟨isMember, same⟩, rfl⟩
      · intro held expected
        rcases expected with isNew | ⟨isMember, _⟩
        · rw [isNew]
          exact .inl (is_member_mem (entries.mpr (.inl rfl)) hasRole)
        · exact .inr ⟨held, isMember, rfl⟩

end Steps

section Runs

variable {server following : Server}

theorem msg_learned {client : Client} {json : Json} {dbCall : DbCall} {lib : Libav}
    {ws : WebSocket} {own : Prop} (connected : Connected server)
    (member : client ∈ server.clientList.entries)
    (done : MsgDone server client json dbCall lib following) (isOwn : ws = client.ws → own)
    (foreign : ws ≠ client.ws → ¬own) (viewing : ws ∈ viewers following.clientList) :
    Learned server following ws own := by
  cases done with
  | idle => exact .follows viewing tells_nothing (keeps_same server.clientList)
  | input input granted => exact .follows viewing tells_nothing (keeps_same server.clientList)
  | authority addresses granted found updated =>
      exact authority_learned connected _ _ _ viewing
  | chief addresses granted found updated => exact chief_learned connected _ _ _ viewing
  | accepted presents accepts =>
      exact accepted_learned connected member presents accepts isOwn foreign viewing
  | rejected isSetting closed => exact closed_learned connected closed foreign viewing
  | mode isLoggedIn granted changed =>
      exact streams_learned rfl (switch_mode_streams server _ lib) viewing

theorem step_learned {event : ServerEvent} {ws : WebSocket} (connected : Connected server)
    (stepped : ServerSteps.step server event = some following)
    (viewing : ws ∈ viewers following.clientList) :
    Learned server following ws (senderOf event = some ws) := by
  cases step_done stepped with
  | opens fresh => exact opened_learned connected fresh _ viewing
  | @messages sender message dbCall lib following client json isOpen found parsed done =>
      obtain ⟨member, sends⟩ := find_ws_some found
      apply msg_learned connected member done
      · intro same
        rw [same, sends]
        rfl
      · intro different same
        exact different ((Option.some.inj same).symm.trans sends.symm)
      · exact viewing
  | closes isOpen closed =>
      exact closed_learned connected closed (fun _ none => by cases none) viewing
  | packet running written => exact streams_learned rfl (mux_write_streams _ _) viewing
  | resizes running => exact streams_learned rfl (restart_streams _ _ _ _) viewing
  | hostChanges => exact .follows viewing tells_nothing (keeps_same server.clientList)
  | databaseChanges => exact .follows viewing tells_nothing (keeps_same server.clientList)

/-- What each viewer makes of its messages shows the members that are logged in. -/
structure Informed (server : Server) : Prop where
  connected : Connected server
  shown : ∀ ws ∈ viewers server.clientList,
    Shows Member.mcode (viewOf server.streaming ws) (IsMember server.clientList)

theorem step_informed {event : ServerEvent} (informed : Informed server)
    (stepped : ServerSteps.step server event = some following) : Informed following := by
  refine ⟨step_connected informed.connected stepped, ?_⟩
  intro ws viewing
  cases step_learned informed.connected stepped viewing with
  | lists isOwn mirrors => exact mirrors.shows
  | follows before tells kept => exact tells.shows (informed.shown ws before)
  | departs foreign before expected tells told gone =>
      exact shows_fewer (tells.shows (informed.shown ws before)) told

theorem start_informed (db : Database) (host : ClbContext) (eCtx : EncoderContext)
    (audioBytes : Int) : Informed (startServer db host eCtx audioBytes) := by
  refine ⟨⟨start_listed db host eCtx audioBytes, List.nodup_nil⟩, ?_⟩
  intro ws viewing
  cases viewing

/-- In every run each viewer can tell every logged-in member, with the privileges
that the table has, from the messages that it was sent. -/
theorem logged_in_shown {db : Database} {host : ClbContext} {eCtx : EncoderContext}
    {audioBytes : Int} {ws : WebSocket}
    (reached : Reaches ServerSteps.step (fun _ _ => True)
      (startServer db host eCtx audioBytes) server)
    (viewing : ws ∈ viewers server.clientList) :
    Shows Member.mcode (viewOf server.streaming ws) (IsMember server.clientList) := by
  have informed := invariant_of_step Informed (start_informed db host eCtx audioBytes)
    (fun _ _ _ informed _ stepped => step_informed informed stepped) reached
  exact informed.shown ws viewing

def handedOver : List ServerEvent :=
  [opensEvent 1, settingEvent 1 "a", opensEvent 2, settingEvent 2 "b", dstEvent 1 3 "b"]

theorem handed_over_shown :
    Shows Member.mcode (viewOf (after ServerSteps.step sampleServer handedOver).streaming 1)
      (IsMember (after ServerSteps.step sampleServer handedOver).clientList) := by
  have reached : Reaches ServerSteps.step (fun _ _ => True) sampleServer
      (after ServerSteps.step sampleServer handedOver) :=
    reaches_after (along_of_forall (fun _ _ => trivial) _) rfl
  exact logged_in_shown reached (by decide)

def ViewsMirror (server : Server) : Prop :=
  ∀ ws ∈ viewers server.clientList,
    Mirrors Member.mcode (viewOf server.streaming ws) (IsMember server.clientList)

def MirrorsNext (server : Server) (event : ServerEvent) : Prop :=
  ∀ following, ServerSteps.step server event = some following → ViewsMirror following

/-- Unless nobody but the sender watches afterwards, no `mcode` is gone. -/
def NobodyDeparts (server : Server) (event : ServerEvent) : Prop :=
  ∀ following, ServerSteps.step server event = some following →
    ∀ ws ∈ viewers following.clientList, senderOf event ≠ some ws →
      Keeps server.clientList following.clientList

theorem sample_roles_given : RolesGiven sampleDatabase := by
  intro meet mnum text stored none
  have known := RoleAgreement.sample_roles_known meet mnum text stored
  omega

structure Mirrored (server : Server) : Prop where
  informed : Informed server
  mirror : ViewsMirror server

theorem mirrors_next_iff {event : ServerEvent} (mirrored : Mirrored server)
    (given : RolesGiven server.db) : MirrorsNext server event ↔ NobodyDeparts server event := by
  constructor
  · intro mirrors following stepped ws viewing notOwn
    have mirror := mirrors following stepped ws viewing
    cases step_learned mirrored.informed.connected stepped viewing with
    | lists isOwn _ => exact absurd isOwn notOwn
    | follows before tells kept => exact kept
    | departs foreign before expected tells told gone =>
        have known := mirrors_of_tells tells (mirrored.mirror ws before)
        exact (knows_only_iff known (gone given)).mp mirror.only
  · intro stays following stepped ws viewing
    cases step_learned mirrored.informed.connected stepped viewing with
    | lists isOwn mirrors => exact mirrors
    | follows before tells kept => exact mirrors_of_tells tells (mirrored.mirror ws before)
    | departs foreign before expected tells told gone =>
        have known := mirrors_of_tells tells (mirrored.mirror ws before)
        have kept := stays following stepped ws viewing foreign
        exact ⟨shows_fewer known.shows told, (knows_only_iff known (gone given)).mpr kept⟩

/-- Along a run every viewer has the list of the table just as long as no logged-in
`mcode` goes while others watch: nothing tells of a member that leaves. -/
theorem views_mirror_iff (db : Database) (host : ClbContext) (eCtx : EncoderContext)
    (audioBytes : Int) (events : List ServerEvent)
    (given : Along ServerSteps.step (fun server _ => RolesGiven server.db)
      (startServer db host eCtx audioBytes) events) :
    Along ServerSteps.step MirrorsNext (startServer db host eCtx audioBytes) events ↔
      Along ServerSteps.step NobodyDeparts (startServer db host eCtx audioBytes) events := by
  have initial : Mirrored (startServer db host eCtx audioBytes) := by
    refine ⟨start_informed db host eCtx audioBytes, ?_⟩
    intro ws viewing
    cases viewing
  apply along_iff_of_invariant (fun server _ => RolesGiven server.db) Mirrored
  · intro server event mirrored roles
    exact mirrors_next_iff mirrored roles
  · intro server event following mirrored _ mirrors stepped
    exact ⟨step_informed mirrored.informed stepped, mirrors following stepped⟩
  · exact initial
  · exact given

def secondLeaves : List ServerEvent :=
  [opensEvent 1, settingEvent 1 "a", opensEvent 2, settingEvent 2 "b", .closes 2 sampleLib]

theorem second_leaves_mirror_iff :
    Along ServerSteps.step MirrorsNext sampleServer secondLeaves ↔
      Along ServerSteps.step NobodyDeparts sampleServer secondLeaves := by
  have given := sample_roles_given
  apply views_mirror_iff sampleDatabase sampleHost (encoderContext .image sampleHost) 0
  apply along_cons rfl given
  apply along_cons rfl given
  apply along_cons rfl given
  apply along_cons rfl given
  apply along_cons rfl given
  trivial

end Runs

end Collabo.MemberViews
