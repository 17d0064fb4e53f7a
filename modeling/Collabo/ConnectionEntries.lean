import Collabo.ListedConnections

/-!
# One entry for every open connection

An insertion is rejected while another connection has not logged in yet, and a
client that logs in again under its own `mcode` is closed before its entry is
modified. Nothing else makes the table and the open connections part.
-/

namespace Collabo.ConnectionEntries

open UniqueTable PartialRuns Collabo.CString Collabo.MySQLConnector Collabo.ClientTable
  Collabo.EncoderSession Collabo.MediaStream Collabo.CollaboServer Collabo.ServerSteps
  Collabo.ListedConnections

set_option autoImplicit false

/-- There is exactly one entry for each open connection, and no other. -/
structure Tracks (server : Server) : Prop where
  listed : Listed server
  complete : ∀ ws ∈ server.sockets, ws ∈ clientSockets server.clientList

/-- A connection opens under a pointer that is not in use, and messages and
closes belong to open connections. -/
def Legal (server : Server) : ServerEvent → Prop
  | .opens ws _ => ws ∉ server.sockets
  | .messages ws _ _ _ => ws ∈ server.sockets
  | .closes ws _ => ws ∈ server.sockets
  | .packet _ => True
  | .resizes _ _ _ => True
  | .hostChanges _ => True
  | .databaseChanges _ => True

instance (server : Server) (event : ServerEvent) : Decidable (Legal server event) :=
  match event with
  | .opens ws _ => inferInstanceAs (Decidable (ws ∉ server.sockets))
  | .messages ws _ _ _ => inferInstanceAs (Decidable (ws ∈ server.sockets))
  | .closes ws _ => inferInstanceAs (Decidable (ws ∈ server.sockets))
  | .packet _ => inferInstanceAs (Decidable True)
  | .resizes _ _ _ => inferInstanceAs (Decidable True)
  | .hostChanges _ => inferInstanceAs (Decidable True)
  | .databaseChanges _ => inferInstanceAs (Decidable True)

def handled (server : Server) : ServerEvent → Handled
  | .opens ws lib => .returns (onOpenPtr server ws lib)
  | .messages ws message dbCall lib => onMsgPtr server ws message dbCall lib
  | .closes ws lib => terminate server ws lib
  | .packet _ => .returns server
  | .resizes _ _ _ => .returns server
  | .hostChanges _ => .returns server
  | .databaseChanges _ => .returns server

/-- The handler uses no entry that is missing, and afterwards the entries are
those of the open connections. -/
def KeepsEntries (server : Server) (event : ServerEvent) : Prop :=
  handled server event ≠ .undefined .noEntry ∧ handled server event ≠ .undefined .erasedEntry ∧
    ∀ following, step server event = some following → Tracks following

/-- The message is a SETTING that the database accepts and that carries the
sender's present `mcode`. -/
def LogsInAgain (server : Server) (ws : WebSocket) (message : Option Json) (dbCall : DbCall) :
    Prop :=
  ∃ client json mscode custom name suited,
    findWs server.clientList ws = some client ∧ message = some json ∧
      json.int "identifier" = some 4 ∧ json.text "mcode" = some client.mcode ∧
      json.text "mscode" = some mscode ∧ json.text "custom" = some custom ∧
      json.text "name" = some name ∧
      isSuited server.db dbCall (cStr client.mcode) (cStr mscode) client.authority client.chief
        client.role = .done suited ∧ suited.result = true

/-- A connection opens only while every other one has a non-empty `mcode`, and no
client logs in again under the `mcode` it has. -/
def OneLoginAtATime (server : Server) : ServerEvent → Prop
  | .opens _ _ => server.clientList.find [] = none
  | .messages ws message dbCall _ => ¬LogsInAgain server ws message dbCall
  | .closes _ _ => True
  | .packet _ => True
  | .resizes _ _ _ => True
  | .hostChanges _ => True
  | .databaseChanges _ => True

section Tracking

variable {server following : Server} {ws : WebSocket} {lib : Libav}

theorem closed_tracks (tracks : Tracks server) (closed : Closed server ws lib following) :
    Tracks following := by
  constructor
  · exact closed_listed tracks.listed closed
  · intro other isOpen
    rw [closed.sockets, List.mem_filter] at isOpen
    apply (closed_sockets tracks.listed closed).mpr
    exact ⟨tracks.complete other isOpen.1, by simpa using isOpen.2⟩

theorem msg_tracks {client : Client} {json : Json} {dbCall : DbCall} (tracks : Tracks server)
    (member : client ∈ server.clientList.entries)
    (done : MsgDone server client json dbCall lib following) : Tracks following := by
  constructor
  · exact msg_listed tracks.listed member done
  · intro other isOpen
    rcases msg_sockets tracks.listed member done with ⟨entries, sockets⟩ |
      ⟨gone, closed, closing, entries, sockets⟩
    · rw [sockets] at isOpen
      rw [entries]
      exact tracks.complete other isOpen
    · rw [sockets] at isOpen
      rw [entries]
      exact (closed_tracks tracks closing).complete other isOpen

theorem opened_tracks_iff (tracks : Tracks server) (fresh : ws ∉ server.sockets) (lib : Libav) :
    Tracks (onOpenPtr server ws lib) ↔ server.clientList.find [] = none := by
  have entries := (on_open_joined server ws lib).clientList
  have sockets := (on_open_joined server ws lib).sockets
  cases pending : server.clientList.find [] with
  | none =>
      have free : (ClientTable.connected ws).mcode ∉ server.clientList.entries.map Client.mcode :=
        find_none pending
      apply iff_of_true _ rfl
      constructor
      · exact opened_listed tracks.listed fresh lib
      · intro other isOpen
        rw [entries, insert_fresh_sockets free]
        rw [sockets] at isOpen
        rcases List.mem_append.mp isOpen with before | added
        · exact List.mem_append_left _ (tracks.complete other before)
        · exact List.mem_append_right _ added
  | some waiting =>
      obtain ⟨member, empty⟩ := find_some pending
      have taken : (ClientTable.connected ws).mcode ∈ server.clientList.entries.map Client.mcode :=
        List.mem_map.mpr ⟨waiting, member, empty⟩
      apply iff_of_false _ (by simp)
      intro after
      have added : ws ∈ (onOpenPtr server ws lib).sockets := by
        rw [sockets]
        exact List.mem_append_right _ (List.mem_singleton.mpr rfl)
      have listedSocket := after.complete ws added
      rw [entries, insert_taken taken] at listedSocket
      exact fresh (tracks.listed.connected ws listedSocket)

end Tracking

section Faults

variable {server : Server} {client : Client} {json : Json} {dbCall : DbCall} {lib : Libav}

/-- The faults that are no matter of the table's own entries. -/
def Elsewhere (fault : Fault) : Prop := fault ≠ .noEntry ∧ fault ≠ .erasedEntry

theorem elsewhere_of_connector {fault : Fault} (member : fault ∈ [Fault.overrun, .noStatement]) :
    Elsewhere fault := by
  rcases List.mem_cons.mp member with rfl | rest
  · exact ⟨by decide, by decide⟩
  · rw [List.mem_singleton.mp rest]
    exact ⟨by decide, by decide⟩

theorem terminate_defined (listed : Listed server) (member : client ∈ server.clientList.entries)
    (fault : Fault) : terminate server client.ws lib ≠ .undefined fault := by
  obtain ⟨following, returned⟩ :=
    terminate_returns (find_ws_of_mem listed.distinct member) lib
  rw [returned]
  intro same
  cases same

theorem on_authority_faults {fault : Fault}
    (undefined : onAuthority server client json dbCall = .undefined fault) : Elsewhere fault := by
  rw [on_authority_eq] at undefined
  rcases to_member_undefined undefined with missing | ⟨name, dst, went⟩
  · rw [missing]
    exact ⟨by decide, by decide⟩
  · have failed := after_update_undefined went
    exact elsewhere_of_connector (change_auth_faults _ _ _ _ _ _ failed)

theorem on_chief_faults {fault : Fault}
    (undefined : onChief server client json dbCall = .undefined fault) : Elsewhere fault := by
  rw [on_chief_eq] at undefined
  rcases to_member_undefined undefined with missing | ⟨name, dst, went⟩
  · rw [missing]
    exact ⟨by decide, by decide⟩
  · have failed := after_update_undefined went
    exact elsewhere_of_connector (change_chief_faults _ _ _ _ _ _ failed)

theorem pass_on_defined (held : Option HostInput) (fault : Fault) :
    passOn server client held ≠ .undefined fault := by
  unfold passOn
  split
  · cases held <;> simp
  · simp

theorem on_mode_defined (fault : Fault) : onMode server client json lib ≠ .undefined fault := by
  unfold onMode
  split
  · simp
  · split
    · split
      · simp
      · split <;> simp
    · simp

/-- The sender's entry is still there once the one under the new `mcode` is gone,
unless that was the sender's own. -/
theorem log_in_faults (lib : Libav) {info : Client} {cleared : Server} {fault : Fault}
    (listed : Listed server)
    (member : client ∈ server.clientList.entries)
    (freed : server.clientList.find info.mcode = none ∧ cleared = server ∨
      ∃ other, server.clientList.find info.mcode = some other ∧
        Closed server other.ws lib cleared)
    (undefined : logIn client info cleared = .undefined fault) : info.mcode = client.mcode := by
  unfold logIn at undefined
  split at undefined
  · rename_i missing
    rcases freed with ⟨_, same⟩ | ⟨other, found, closed⟩
    · rw [same, find_of_mem member] at missing
      cases missing
    · obtain ⟨otherMember, otherMcode⟩ := find_some found
      by_contra different
      apply find_none missing
      apply List.mem_map_of_mem
      apply (closed_entries listed closed).mpr
      refine ⟨member, ?_⟩
      intro sameWs
      apply different
      rw [← otherMcode, List.inj_on_of_nodup_map listed.distinct member otherMember sameWs]
  · cases undefined

theorem on_setting_faults {ws : WebSocket} {fault : Fault} (listed : Listed server)
    (found : findWs server.clientList ws = some client)
    (isSetting : json.int "identifier" = some 4)
    (undefined : onSetting server client json dbCall lib = .undefined fault) :
    Elsewhere fault ∨ LogsInAgain server ws (some json) dbCall := by
  have member := (find_ws_some found).1
  unfold onSetting at undefined
  split at undefined
  · rename_i mcode mscode custom name mcodeField mscodeField customField nameField
    split at undefined
    · cases undefined
    · rename_i cause failed
      cases undefined
      exact .inl (elsewhere_of_connector (is_suited_faults _ _ _ _ _ _ _ _ failed))
    · rename_i suited answer
      cases result : suited.result with
      | false =>
          rw [result, if_neg (by simp)] at undefined
          exact absurd undefined (terminate_defined listed member fault)
      | true =>
          apply Or.inr
          rw [result, if_pos rfl] at undefined
          have own : mcode = client.mcode := by
            dsimp only at undefined
            split at undefined
            · rename_i free
              exact log_in_faults lib listed member (.inl ⟨free, rfl⟩) undefined
            · rename_i other taken
              obtain ⟨cleared, returned⟩ :=
                terminate_returns (find_ws_of_mem listed.distinct (find_some taken).1) lib
              rw [returned] at undefined
              exact log_in_faults lib listed member
                (.inr ⟨other, taken, terminate_closed returned⟩) undefined
          rw [own] at mcodeField answer
          exact ⟨client, json, mscode, custom, name, suited, found, rfl, isSetting, mcodeField,
            mscodeField, customField, nameField, answer, result⟩
  · cases undefined

/-- A message leaves the defined behaviour over an entry only by logging in again. -/
theorem on_msg_faults {ws : WebSocket} {message : Option Json} {fault : Fault}
    (listed : Listed server) (isListed : ws ∈ clientSockets server.clientList)
    (undefined : onMsgPtr server ws message dbCall lib = .undefined fault) :
    Elsewhere fault ∨ LogsInAgain server ws message dbCall := by
  obtain ⟨client, found⟩ := find_ws_exists isListed
  unfold onMsgPtr at undefined
  simp only [found] at undefined
  split at undefined
  · cases undefined
  · split at undefined
    · cases undefined
    · rename_i json identifier field
      unfold onIdentifier at undefined
      split at undefined
      · rw [on_mouse_eq] at undefined
        exact absurd undefined (pass_on_defined _ fault)
      · rw [on_keyboard_eq] at undefined
        exact absurd undefined (pass_on_defined _ fault)
      · exact .inl (on_authority_faults undefined)
      · exact .inl (on_chief_faults undefined)
      · exact on_setting_faults listed found field undefined
      · exact absurd undefined (on_mode_defined fault)
      · cases undefined

theorem own_entry_closed {client : Client} (listed : Listed server)
    (member : client ∈ server.clientList.entries) (lib : Libav) :
    ∃ cleared, terminate server client.ws lib = .returns cleared ∧
      cleared.clientList.find client.mcode = none := by
  have found := find_ws_of_mem listed.distinct member
  obtain ⟨cleared, returned⟩ := terminate_returns found lib
  obtain ⟨gone, goneFound, erased⟩ := (terminate_closed returned).clientList
  rw [found] at goneFound
  refine ⟨cleared, returned, ?_⟩
  cases present : cleared.clientList.find client.mcode with
  | none => rfl
  | some entry =>
      obtain ⟨entryMember, same⟩ := find_some present
      rw [erased, mem_erase, ← Option.some.inj goneFound] at entryMember
      exact absurd same entryMember.2

/-- Logging in again closes the sender and then modifies its erased entry. -/
theorem logs_in_again_undefined {ws : WebSocket} {message : Option Json} (listed : Listed server)
    (again : LogsInAgain server ws message dbCall) :
    onMsgPtr server ws message dbCall lib = .undefined .erasedEntry := by
  obtain ⟨client, json, mscode, custom, name, suited, found, rfl, identifier, mcodeField,
    mscodeField, customField, nameField, answer, result⟩ := again
  have member := (find_ws_some found).1
  obtain ⟨cleared, returned, missing⟩ := own_entry_closed listed member lib
  simp only [onMsgPtr, found, identifier, onIdentifier, onSetting, mcodeField, mscodeField,
    customField, nameField, answer, result, if_true, find_of_mem member, returned,
    Handled.andThen, logIn, missing]

end Faults

theorem quiet_keeps_entries {server : Server} {event : ServerEvent} (tracks : Tracks server)
    (quiet : handled server event = .returns server)
    (same : ∀ following, StepDone server event following →
      following.clientList = server.clientList ∧ following.sockets = server.sockets) :
    KeepsEntries server event := by
  unfold KeepsEntries
  rw [quiet]
  refine ⟨by simp, by simp, ?_⟩
  intro following stepped
  obtain ⟨entries, sockets⟩ := same following (step_done stepped)
  refine ⟨step_listed tracks.listed stepped, ?_⟩
  rw [entries, sockets]
  exact tracks.complete

theorem keeps_entries_iff {server : Server} {event : ServerEvent} (tracks : Tracks server)
    (legal : Legal server event) : KeepsEntries server event ↔ OneLoginAtATime server event := by
  cases event with
  | opens ws lib =>
      have stepped : step server (.opens ws lib) = some (onOpenPtr server ws lib) := if_neg legal
      constructor
      · intro keeps
        exact (opened_tracks_iff tracks legal lib).mp (keeps.2.2 _ stepped)
      · intro free
        refine ⟨by simp [handled], by simp [handled], ?_⟩
        intro following same
        rw [stepped] at same
        rw [← Option.some.inj same]
        exact (opened_tracks_iff tracks legal lib).mpr free
  | messages ws message dbCall lib =>
      constructor
      · intro keeps again
        exact keeps.2.1 (logs_in_again_undefined tracks.listed again)
      · intro once
        have defined : ∀ fault, handled server (.messages ws message dbCall lib) =
            .undefined fault → Elsewhere fault := by
          intro fault undefined
          rcases on_msg_faults tracks.listed (tracks.complete ws legal) undefined with
            elsewhere | again
          · exact elsewhere
          · exact absurd again once
        refine ⟨fun undefined => (defined _ undefined).1 rfl,
          fun undefined => (defined _ undefined).2 rfl, ?_⟩
        intro following stepped
        cases step_done stepped with
        | messages isOpen found parsed done => exact msg_tracks tracks (find_ws_some found).1 done
  | closes ws lib =>
      apply iff_of_true _ trivial
      obtain ⟨client, found⟩ := find_ws_exists (tracks.complete ws legal)
      obtain ⟨following, returned⟩ := terminate_returns found lib
      refine ⟨by simp [handled, returned], by simp [handled, returned], ?_⟩
      intro following stepped
      cases step_done stepped with
      | closes isOpen closed => exact closed_tracks tracks closed
  | packet bytes =>
      apply iff_of_true _ trivial
      apply quiet_keeps_entries tracks rfl
      intro following done
      cases done with
      | packet running written => exact ⟨rfl, rfl⟩
  | resizes width height lib =>
      apply iff_of_true _ trivial
      apply quiet_keeps_entries tracks rfl
      intro following done
      cases done with
      | resizes running => exact ⟨rfl, rfl⟩
  | hostChanges host =>
      apply iff_of_true _ trivial
      apply quiet_keeps_entries tracks rfl
      intro following done
      cases done with
      | hostChanges => exact ⟨rfl, rfl⟩
  | databaseChanges db =>
      apply iff_of_true _ trivial
      apply quiet_keeps_entries tracks rfl
      intro following done
      cases done with
      | databaseChanges => exact ⟨rfl, rfl⟩

theorem step_legal {server following : Server} {event : ServerEvent}
    (stepped : step server event = some following) : Legal server event := by
  cases step_done stepped with
  | opens fresh => exact fresh
  | messages isOpen found parsed done => exact isOpen
  | closes isOpen closed => exact isOpen
  | packet running written => trivial
  | resizes running => trivial
  | hostChanges => trivial
  | databaseChanges => trivial

theorem step_tracks {server following : Server} {event : ServerEvent} (tracks : Tracks server)
    (meets : OneLoginAtATime server event) (stepped : step server event = some following) :
    Tracks following :=
  ((keeps_entries_iff tracks (step_legal stepped)).mpr meets).2.2 following stepped

theorem start_tracks (db : Database) (host : ClbContext) (eCtx : EncoderContext)
    (audioBytes : Int) : Tracks (startServer db host eCtx audioBytes) := by
  constructor
  · exact start_listed db host eCtx audioBytes
  · intro ws isOpen
    cases isOpen

/-- For every legal sequence of events, the table has exactly one entry for each
open connection throughout, and no handler uses an entry that is not there,
exactly when each event meets the condition. -/
theorem entries_track_connections_iff (db : Database) (host : ClbContext) (eCtx : EncoderContext)
    (audioBytes : Int) (events : List ServerEvent)
    (legal : Along step Legal (startServer db host eCtx audioBytes) events) :
    Along step KeepsEntries (startServer db host eCtx audioBytes) events ↔
      Along step OneLoginAtATime (startServer db host eCtx audioBytes) events := by
  apply along_iff_of_invariant Legal Tracks _ _ (start_tracks db host eCtx audioBytes) legal
  · intro server event tracks permitted
    exact keeps_entries_iff tracks permitted
  · intro server event following _ _ keeps stepped
    exact keeps.2.2 following stepped

def oneByOne : List ServerEvent :=
  [opensEvent 1, settingEvent 1 "a", opensEvent 2, .closes 1 sampleLib]

theorem entries_track_connections_one_by_one :
    Along step KeepsEntries sampleServer oneByOne := by
  apply (entries_track_connections_iff _ _ _ _ oneByOne _).mpr
  · apply along_cons rfl
    · rfl
    apply along_cons rfl
    · rintro ⟨client, json, mscode, custom, name, suited, found, same, -, mcode, -⟩
      rw [← Option.some.inj same, ← Option.some.inj found] at mcode
      exact absurd mcode (by decide)
    apply along_cons rfl
    · rfl
    exact along_cons rfl trivial trivial
  · apply along_cons rfl (by decide)
    apply along_cons rfl (by decide)
    apply along_cons rfl (by decide)
    exact along_cons rfl (by decide) trivial

def twoOpen : List ServerEvent := [opensEvent 1, opensEvent 2]

def twoOpenServer : Server :=
  onOpenPtr (onOpenPtr sampleServer 1 sampleLib) 2 sampleLib

/-- The entry of the second connection is rejected, and its first message uses
the end of the index. -/
theorem second_connection_has_no_entry :
    twoOpenServer.sockets = [1, 2] ∧ clientSockets twoOpenServer.clientList = [1] ∧
      onMsgPtr twoOpenServer 2 (settingMessage "b") .succeeds sampleLib = .undefined .noEntry ∧
      ¬Along step KeepsEntries sampleServer twoOpen := by
  refine ⟨rfl, rfl, rfl, ?_⟩
  intro along
  have tracks := (along.2 _ rfl).1.2.2 twoOpenServer rfl
  exact absurd (tracks.complete 2 (by decide)) (by decide)

end Collabo.ConnectionEntries
