import Collabo.ServerSteps

/-!
# Entries and open connections

In every run no two entries share a connection and each belongs to an open one.
An accepted SETTING re-keys the sender's entry after the one under the new
`mcode` is gone.
-/

namespace Collabo.ListedConnections

open UniqueTable PartialRuns Collabo.CString Collabo.MySQLConnector Collabo.ClientTable
  Collabo.EncoderSession Collabo.MediaStream Collabo.CollaboServer Collabo.ServerSteps

set_option autoImplicit false

structure Listed (server : Server) : Prop where
  distinct : (clientSockets server.clientList).Nodup
  connected : ∀ ws ∈ clientSockets server.clientList, ws ∈ server.sockets

section Find

theorem find_ws_some {clientList : ClientList} {ws : WebSocket} {client : Client}
    (found : findWs clientList ws = some client) :
    client ∈ clientList.entries ∧ client.ws = ws := by
  refine ⟨List.mem_of_find?_eq_some found, ?_⟩
  simpa using List.find?_some found

theorem find_ws_exists {clientList : ClientList} {ws : WebSocket}
    (member : ws ∈ clientSockets clientList) : ∃ client, findWs clientList ws = some client := by
  obtain ⟨client, clientMember, same⟩ := List.mem_map.mp member
  cases found : findWs clientList ws with
  | some other => exact ⟨other, rfl⟩
  | none =>
      have refused := List.find?_eq_none.mp found client clientMember
      simp [same] at refused

theorem find_ws_of_mem {clientList : ClientList} (distinct : (clientSockets clientList).Nodup)
    {client : Client} (member : client ∈ clientList.entries) :
    findWs clientList client.ws = some client := by
  obtain ⟨other, found⟩ := find_ws_exists (List.mem_map_of_mem (f := Client.ws) member)
  obtain ⟨otherMember, same⟩ := find_ws_some found
  rw [found, List.inj_on_of_nodup_map distinct otherMember member same]

end Find

section Closing

variable {server following : Server} {ws : WebSocket} {lib : Libav}

theorem closed_entries (listed : Listed server) (closed : Closed server ws lib following)
    {client : Client} :
    client ∈ following.clientList.entries ↔
      client ∈ server.clientList.entries ∧ client.ws ≠ ws := by
  obtain ⟨gone, found, erased⟩ := closed.clientList
  obtain ⟨goneMember, goneWs⟩ := find_ws_some found
  rw [erased, mem_erase]
  constructor
  · rintro ⟨member, different⟩
    refine ⟨member, ?_⟩
    intro same
    apply different
    rw [List.inj_on_of_nodup_map listed.distinct member goneMember (same.trans goneWs.symm)]
  · rintro ⟨member, different⟩
    refine ⟨member, ?_⟩
    intro same
    apply different
    rw [item_eq_of_key member goneMember same, goneWs]

theorem closed_sockets (listed : Listed server) (closed : Closed server ws lib following)
    {other : WebSocket} :
    other ∈ clientSockets following.clientList ↔
      other ∈ clientSockets server.clientList ∧ other ≠ ws := by
  constructor
  · intro member
    obtain ⟨client, clientMember, rfl⟩ := List.mem_map.mp member
    obtain ⟨before, different⟩ := (closed_entries listed closed).mp clientMember
    exact ⟨List.mem_map_of_mem before, different⟩
  · rintro ⟨member, different⟩
    obtain ⟨client, clientMember, rfl⟩ := List.mem_map.mp member
    exact List.mem_map_of_mem ((closed_entries listed closed).mpr ⟨clientMember, different⟩)

theorem closed_listed (listed : Listed server) (closed : Closed server ws lib following) :
    Listed following := by
  constructor
  · obtain ⟨client, _, erased⟩ := closed.clientList
    rw [erased]
    exact erase_label_nodup Client.ws client.mcode listed.distinct
  · intro other member
    obtain ⟨before, different⟩ := (closed_sockets listed closed).mp member
    rw [closed.sockets]
    exact List.mem_filter.mpr ⟨listed.connected other before, by simpa using different⟩

end Closing

section Accepting

variable {server cleared : Server} {client info : Client} {dbCall : DbCall} {lib : Libav}

theorem accepted_cleared (listed : Listed server) (member : client ∈ server.clientList.entries)
    (accepts : Accepted server client info dbCall lib cleared) :
    Listed cleared ∧ client ∈ cleared.clientList.entries ∧ info.mcode ≠ client.mcode ∧
      ∀ other, other ∈ cleared.clientList.entries ↔
        other ∈ server.clientList.entries ∧ other.mcode ≠ info.mcode := by
  rcases accepts.freed with ⟨free, same⟩ | ⟨taken, found, closed⟩
  · have absent := find_none free
    rw [same]
    refine ⟨listed, member, ?_, ?_⟩
    · intro own
      exact absent (own ▸ List.mem_map_of_mem member)
    · intro other
      constructor
      · intro otherMember
        refine ⟨otherMember, ?_⟩
        intro own
        exact absent (own ▸ List.mem_map_of_mem otherMember)
      · exact And.left
  · obtain ⟨takenMember, takenMcode⟩ := find_some found
    have entries : ∀ other, other ∈ cleared.clientList.entries ↔
        other ∈ server.clientList.entries ∧ other.mcode ≠ info.mcode := by
      intro other
      obtain ⟨gone, goneFound, erased⟩ := closed.clientList
      rw [find_ws_of_mem listed.distinct takenMember] at goneFound
      rw [erased, mem_erase, ← Option.some.inj goneFound, takenMcode]
    obtain ⟨entry, present⟩ := accepts.present
    obtain ⟨entryMember, sameMcode⟩ := find_some present
    have kept := (entries entry).mp entryMember
    have own : entry = client := item_eq_of_key kept.1 member sameMcode
    rw [own] at entryMember kept
    exact ⟨closed_listed listed closed, entryMember, kept.2.symm, entries⟩

theorem setting_info_eq (accepts : Accepted server client info dbCall lib cleared) :
    settingInfo info client = info := by
  rw [settingInfo, ← accepts.socket]

theorem new_mcode_free (listed : Listed server) (member : client ∈ server.clientList.entries)
    (accepts : Accepted server client info dbCall lib cleared) :
    info.mcode ∉ cleared.clientList.entries.map Client.mcode := by
  obtain ⟨-, -, -, entries⟩ := accepted_cleared listed member accepts
  intro taken
  obtain ⟨other, otherMember, same⟩ := List.mem_map.mp taken
  exact ((entries other).mp otherMember).2 same

/-- After an accepted SETTING the table has the sender's new entry and those of
the others but the one that had its `mcode`. -/
theorem logged_in_entries (listed : Listed server) (member : client ∈ server.clientList.entries)
    (accepts : Accepted server client info dbCall lib cleared) {other : Client} :
    other ∈ (loggedIn client info cleared).clientList.entries ↔
      other = info ∨ other ∈ server.clientList.entries ∧ other.mcode ≠ info.mcode ∧
        other.mcode ≠ client.mcode := by
  obtain ⟨-, kept, -, entries⟩ := accepted_cleared listed member accepts
  have same := setting_info_eq accepts
  have free : (settingInfo info client).mcode = client.mcode ∨
      (settingInfo info client).mcode ∉ cleared.clientList.entries.map Client.mcode := by
    apply Or.inr
    rw [same]
    exact new_mcode_free listed member accepts
  have changed : other ∈ (cleared.clientList.modify client.mcode (settingInfo info)).entries ↔
      other = settingInfo info client ∨
        other ∈ cleared.clientList.entries ∧ other.mcode ≠ client.mcode :=
    mem_modify_free kept free
  rw [same, entries other, and_assoc] at changed
  exact changed

theorem logged_in_sockets (listed : Listed server) (member : client ∈ server.clientList.entries)
    (accepts : Accepted server client info dbCall lib cleared) :
    clientSockets (loggedIn client info cleared).clientList = clientSockets cleared.clientList := by
  obtain ⟨-, kept, -, -⟩ := accepted_cleared listed member accepts
  have same := setting_info_eq accepts
  have free : (settingInfo info client).mcode = client.mcode ∨
      (settingInfo info client).mcode ∉ cleared.clientList.entries.map Client.mcode := by
    apply Or.inr
    rw [same]
    exact new_mcode_free listed member accepts
  exact modify_label Client.ws kept free rfl

end Accepting

section Runs

variable {server following : Server}

theorem change_auth_sockets (server : Server) (mcode : ByteString) (newAuth : Bool) :
    clientSockets (modifyClient server mcode (ClientTable.changeAuth newAuth)).clientList =
      clientSockets server.clientList :=
  modify_keeps_label Client.ws (ClientTable.changeAuth newAuth) (fun _ => rfl) (fun _ => rfl) mcode

theorem change_chief_sockets (server : Server) (mcode : ByteString) (newChief : Bool) :
    clientSockets (modifyClient server mcode (ClientTable.changeChief newChief)).clientList =
      clientSockets server.clientList :=
  modify_keeps_label Client.ws (ClientTable.changeChief newChief) (fun _ => rfl) (fun _ => rfl)
    mcode

theorem hand_over_sockets (server : Server) (src dst : ByteString) :
    clientSockets (handOver server src dst).clientList = clientSockets server.clientList := by
  unfold handOver
  dsimp only
  rw [change_auth_sockets, change_chief_sockets, change_chief_sockets]

/-- The connections of the entries and the open connections after a message,
which may have closed one. -/
theorem msg_sockets {client : Client} {json : Json} {dbCall : DbCall} {lib : Libav}
    (listed : Listed server) (member : client ∈ server.clientList.entries)
    (done : MsgDone server client json dbCall lib following) :
    (clientSockets following.clientList = clientSockets server.clientList ∧
        following.sockets = server.sockets) ∨
      ∃ ws closed, Closed server ws lib closed ∧
        clientSockets following.clientList = clientSockets closed.clientList ∧
        following.sockets = closed.sockets := by
  cases done with
  | idle => exact .inl ⟨rfl, rfl⟩
  | input input granted => exact .inl ⟨rfl, rfl⟩
  | authority addresses granted found updated =>
      exact .inl ⟨change_auth_sockets server _ _, rfl⟩
  | chief addresses granted found updated => exact .inl ⟨hand_over_sockets _ _ _, rfl⟩
  | accepted presents accepts =>
      have sockets := logged_in_sockets listed member accepts
      rcases accepts.freed with ⟨_, same⟩ | ⟨other, _, closed⟩
      · apply Or.inl
        rw [sockets, same]
        exact ⟨rfl, rfl⟩
      · exact .inr ⟨other.ws, _, closed, sockets, rfl⟩
  | rejected isSetting closed => exact .inr ⟨client.ws, following, closed, rfl, rfl⟩
  | mode isLoggedIn granted changed => exact .inl ⟨rfl, rfl⟩

theorem msg_listed {client : Client} {json : Json} {dbCall : DbCall} {lib : Libav}
    (listed : Listed server) (member : client ∈ server.clientList.entries)
    (done : MsgDone server client json dbCall lib following) : Listed following := by
  rcases msg_sockets listed member done with
    ⟨entries, sockets⟩ | ⟨ws, closed, closing, entries, sockets⟩
  · constructor
    · rw [entries]
      exact listed.distinct
    · rw [entries, sockets]
      exact listed.connected
  · have after := closed_listed listed closing
    constructor
    · rw [entries]
      exact after.distinct
    · rw [entries, sockets]
      exact after.connected

theorem insert_fresh_sockets {clientList : ClientList} {client : Client}
    (fresh : client.mcode ∉ clientList.entries.map Client.mcode) :
    clientSockets (clientList.insert client) = clientSockets clientList ++ [client.ws] := by
  rw [clientSockets, insert_fresh_entries fresh, List.map_append]
  rfl

theorem opened_listed {ws : WebSocket} (listed : Listed server) (fresh : ws ∉ server.sockets)
    (lib : Libav) : Listed (onOpenPtr server ws lib) := by
  have entries := (on_open_joined server ws lib).clientList
  have sockets := (on_open_joined server ws lib).sockets
  by_cases taken : (ClientTable.connected ws).mcode ∈ server.clientList.entries.map Client.mcode
  · rw [insert_taken taken] at entries
    constructor
    · rw [entries]
      exact listed.distinct
    · intro other member
      rw [entries] at member
      rw [sockets]
      exact List.mem_append_left _ (listed.connected other member)
  · constructor
    · rw [entries, insert_fresh_sockets taken, List.nodup_append]
      refine ⟨listed.distinct, List.nodup_singleton _, ?_⟩
      intro other member added addedMember same
      rw [List.mem_singleton.mp addedMember] at same
      apply fresh
      rw [← show other = ws from same]
      exact listed.connected other member
    · intro other member
      rw [entries, insert_fresh_sockets taken] at member
      rw [sockets]
      rcases List.mem_append.mp member with before | added
      · exact List.mem_append_left _ (listed.connected other before)
      · exact List.mem_append_right _ added

theorem step_listed {event : ServerEvent} (listed : Listed server)
    (stepped : step server event = some following) : Listed following := by
  cases step_done stepped with
  | opens fresh => exact opened_listed listed fresh _
  | messages isOpen found parsed done => exact msg_listed listed (find_ws_some found).1 done
  | closes isOpen closed => exact closed_listed listed closed
  | packet running written => exact ⟨listed.distinct, listed.connected⟩
  | resizes running => exact ⟨listed.distinct, listed.connected⟩
  | hostChanges => exact ⟨listed.distinct, listed.connected⟩
  | databaseChanges => exact ⟨listed.distinct, listed.connected⟩

theorem start_listed (db : Database) (host : ClbContext) (eCtx : EncoderContext)
    (audioBytes : Int) : Listed (startServer db host eCtx audioBytes) := by
  constructor
  · exact List.nodup_nil
  · intro ws member
    cases member

end Runs

end Collabo.ListedConnections
