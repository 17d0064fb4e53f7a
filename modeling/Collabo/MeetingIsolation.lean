import Collabo.AcceptedOnly

/-!
# Meetings apart

The two updates write where the meeting of an `mscode` takes them that some entry of the
table has, and an entry has the `mscode` of an accepted SETTING. A text such as `2-1` or
`1 OR 1=1` takes them to rows of other meetings. The participants of a meeting that no
accepted text reaches keep their roles.
-/

namespace Collabo.MeetingIsolation

open UniqueTable PartialRuns Collabo.CString Collabo.MySQLConnector Collabo.ClientTable
  Collabo.EncoderSession Collabo.MediaStream Collabo.CollaboServer Collabo.ServerSteps
  Collabo.ListedConnections Collabo.AcceptedOnly

set_option autoImplicit false

/-- The `mscode` has no meeting, or one with which no UPDATE holds of a row of `meet`. -/
def Elsewhere (db : Database) (meet : Int) (mscode : ByteString) : Prop :=
  ∀ meetSeq, meetSeqOf (cStr mscode) = .done meetSeq →
    ∀ quoting number mnum stored, db.matched quoting meetSeq number meet mnum stored = false

/-- The roles of the meeting are as they were, and so is what the database finds with
any roles. -/
structure Untouched (meet : Int) (before after : Database) : Prop where
  members : after.members = before.members
  selected : after.selected = before.selected
  matched : after.matched = before.matched
  roles : ∀ mnum, after.role meet mnum = before.role meet mnum

section Updates

variable {meet : Int} {db following : Database} {call : DbCall} {src dst mscode : ByteString}

theorem untouched_same (db : Database) : Untouched meet db db := ⟨rfl, rfl, rfl, fun _ => rfl⟩

theorem untouched_then {first second third : Database} (left : Untouched meet first second)
    (right : Untouched meet second third) : Untouched meet first third where
  members := right.members.trans left.members
  selected := right.selected.trans left.selected
  matched := right.matched.trans left.matched
  roles mnum := (right.roles mnum).trans (left.roles mnum)

theorem update_untouched {quoting : Quoting} {meetSeq : ByteString} (elsewhere : ∀ quoting number
      mnum stored, db.matched quoting meetSeq number meet mnum stored = false)
    (number : Int) (text : ByteString) :
    Untouched meet db (db.update quoting meetSeq number text) := by
  refine ⟨rfl, rfl, rfl, ?_⟩
  intro mnum
  simp [Database.update, elsewhere]

theorem update_role_untouched {quoting : Quoting} {first : Nat} {meetSeq mcode text : ByteString}
    {updated : Statements} (elsewhere : ∀ quoting number mnum stored,
      db.matched quoting meetSeq number meet mnum stored = false)
    (update : updateRole db call quoting first meetSeq mcode text = .done updated) :
    Untouched meet db updated.db := by
  unfold updateRole at update
  split at update
  · cases update
    exact untouched_same db
  · split at update
    · cases update
      exact untouched_same db
    · obtain ⟨printed, _, rest⟩ := bind_done update
      split at rest
      · cases rest
        exact untouched_same db
      · cases rest
        exact update_untouched elsewhere _ _

theorem change_auth_untouched {authority : Bool} (elsewhere : Elsewhere db meet mscode)
    (answer : MySQLConnector.changeAuth db call dst authority (cStr mscode) = .done following) :
    Untouched meet db following := by
  obtain ⟨_, meetSeq, text, rest⟩ := connected_done_iff.mp answer
  obtain ⟨updated, update, finished⟩ := bind_done rest
  rw [← Outcome.done.inj finished]
  exact update_role_untouched (elsewhere meetSeq text) update

theorem change_chief_untouched (elsewhere : Elsewhere db meet mscode)
    (answer : MySQLConnector.changeChief db call src dst (cStr mscode) = .done following) :
    Untouched meet db following := by
  obtain ⟨_, meetSeq, text, rest⟩ := connected_done_iff.mp answer
  obtain ⟨handed, hand, later⟩ := bind_done rest
  have unmatched := elsewhere meetSeq text
  have released := update_role_untouched unmatched hand
  split at later
  · rw [← Outcome.done.inj later]
    exact released
  · obtain ⟨updated, update, finished⟩ := bind_done later
    rw [← Outcome.done.inj finished]
    rw [← released.matched] at unmatched
    exact untouched_then released (update_role_untouched unmatched update)

end Updates

/-- Nothing changes the database from outside, and no text that reaches the meeting logs
in. -/
structure KeepsOut (meet : Int) (server : Server) (event : ServerEvent) : Prop where
  inside : ∀ db, event ≠ .databaseChanges db
  others : ∀ mcode mscode, Admitted server event mcode mscode → Elsewhere server.db meet mscode

structure Isolated (meet : Int) (db : Database) (server : Server) : Prop where
  listed : Listed server
  elsewhere : ∀ client ∈ server.clientList.entries, Elsewhere server.db meet client.mscode
  untouched : Untouched meet db server.db

section Steps

variable {meet : Int} {db : Database} {server following : Server} {client : Client}
  {json : Json} {dbCall : DbCall} {lib : Libav}

theorem modify_elsewhere {clientList : ClientList} {other : Database} (change : Client → Client)
    (keepsKey : ∀ client, (change client).mcode = client.mcode)
    (keepsMscode : ∀ client, (change client).mscode = client.mscode) (mcode : ByteString)
    (elsewhere : ∀ client ∈ clientList.entries, Elsewhere other meet client.mscode) :
    ∀ client ∈ (clientList.modify mcode change).entries, Elsewhere other meet client.mscode := by
  intro client member
  rcases (mem_modify change keepsKey).mp member with ⟨held, before, _, same⟩ | ⟨before, _⟩
  · rw [same, keepsMscode]
    exact elsewhere held before
  · exact elsewhere client before

theorem untouched_elsewhere {later : Database} {mscode : ByteString}
    (untouched : Untouched meet db later) (elsewhere : Elsewhere db meet mscode) :
    Elsewhere later meet mscode := by
  intro meetSeq text
  rw [untouched.matched]
  exact elsewhere meetSeq text

theorem closed_isolated {gone : WebSocket} (isolated : Isolated meet db server)
    (closed : Closed server gone lib following) : Isolated meet db following := by
  refine ⟨closed_listed isolated.listed closed, ?_, ?_⟩
  · intro client member
    rw [closed.db]
    exact isolated.elsewhere client ((closed_entries isolated.listed closed).mp member).1
  · rw [closed.db]
    exact isolated.untouched

theorem opened_isolated {ws : WebSocket} (isolated : Isolated meet db server)
    (fresh : ws ∉ server.sockets) (lib : Libav) :
    Isolated meet db (onOpenPtr server ws lib) := by
  have joined := on_open_joined server ws lib
  refine ⟨opened_listed isolated.listed fresh lib, ?_, ?_⟩
  · intro client member
    rw [joined.db]
    rw [joined.clientList] at member
    by_cases taken : (ClientTable.connected ws).mcode ∈
        server.clientList.entries.map Client.mcode
    · rw [insert_taken taken] at member
      exact isolated.elsewhere client member
    · rw [insert_fresh_entries taken] at member
      rcases List.mem_append.mp member with before | added
      · exact isolated.elsewhere client before
      · rw [List.mem_singleton.mp added]
        intro meetSeq text
        have none : meetSeqOf (cStr []) = .undefined .overrun := by decide
        rw [ClientTable.connected, none] at text
        cases text
  · rw [joined.db]
    exact isolated.untouched

theorem authority_elsewhere (isolated : Isolated meet db server) (newAuth : Bool)
    (mcode : ByteString) :
    ∀ client ∈ (modifyClient server mcode (ClientTable.changeAuth newAuth)).clientList.entries,
      Elsewhere server.db meet client.mscode :=
  modify_elsewhere (ClientTable.changeAuth newAuth) (fun _ => rfl) (fun _ => rfl) mcode
    isolated.elsewhere

theorem hand_over_elsewhere (isolated : Isolated meet db server) (src dst : ByteString) :
    ∀ client ∈ (handOver server src dst).clientList.entries,
      Elsewhere server.db meet client.mscode := by
  have released := modify_elsewhere (ClientTable.changeChief false) (fun _ => rfl) (fun _ => rfl)
    src isolated.elsewhere
  have granted := modify_elsewhere (ClientTable.changeChief true) (fun _ => rfl) (fun _ => rfl)
    dst released
  exact modify_elsewhere (ClientTable.changeAuth true) (fun _ => rfl) (fun _ => rfl) dst granted

theorem msg_isolated {ws : WebSocket} (isolated : Isolated meet db server)
    (found : findWs server.clientList ws = some client)
    (others : ∀ mcode mscode, Admitted server (.messages ws (some json) dbCall lib) mcode mscode →
      Elsewhere server.db meet mscode)
    (done : MsgDone server client json dbCall lib following) : Isolated meet db following := by
  have member := (find_ws_some found).1
  have listed := msg_listed isolated.listed member done
  cases done with
  | idle => exact isolated
  | input input granted => exact ⟨listed, isolated.elsewhere, isolated.untouched⟩
  | authority addresses granted found updated =>
      have kept := change_auth_untouched (isolated.elsewhere _ (find_some found).1) updated
      refine ⟨listed, ?_, untouched_then isolated.untouched kept⟩
      intro other present
      exact untouched_elsewhere kept (authority_elsewhere isolated _ _ other present)
  | chief addresses granted found updated =>
      have kept := change_chief_untouched (isolated.elsewhere client member) updated
      refine ⟨listed, ?_, untouched_then isolated.untouched kept⟩
      intro other present
      exact untouched_elsewhere kept (hand_over_elsewhere isolated _ _ other present)
  | @accepted info cleared presents accepts =>
      have same : (loggedIn client info cleared).db = server.db := by
        rcases accepts.freed with ⟨_, unclosed⟩ | ⟨_, _, closed⟩
        · rw [unclosed]
          rfl
        · exact closed.db
      refine ⟨listed, ?_, ?_⟩
      · intro other present
        rw [same]
        rcases (logged_in_entries isolated.listed member accepts).mp present with
          isInfo | ⟨before, _⟩
        · rw [isInfo]
          exact others _ _ (accepted_admitted found presents accepts)
        · exact isolated.elsewhere other before
      · rw [same]
        exact isolated.untouched
  | rejected isSetting closed => exact closed_isolated isolated closed
  | mode isLoggedIn granted changed => exact ⟨listed, isolated.elsewhere, isolated.untouched⟩

theorem step_isolated {event : ServerEvent} (isolated : Isolated meet db server)
    (keepsOut : KeepsOut meet server event)
    (stepped : ServerSteps.step server event = some following) : Isolated meet db following := by
  have listed := step_listed isolated.listed stepped
  cases step_done stepped with
  | opens fresh => exact opened_isolated isolated fresh _
  | messages isOpen found parsed done =>
      rw [parsed] at keepsOut
      exact msg_isolated isolated found keepsOut.others done
  | closes isOpen closed => exact closed_isolated isolated closed
  | packet running written => exact ⟨listed, isolated.elsewhere, isolated.untouched⟩
  | resizes running => exact ⟨listed, isolated.elsewhere, isolated.untouched⟩
  | hostChanges => exact ⟨listed, isolated.elsewhere, isolated.untouched⟩
  | databaseChanges => exact absurd rfl (keepsOut.inside _)

theorem start_isolated (db : Database) (host : ClbContext) (eCtx : EncoderContext)
    (audioBytes : Int) : Isolated meet db (startServer db host eCtx audioBytes) := by
  refine ⟨start_listed db host eCtx audioBytes, ?_, untouched_same db⟩
  intro client member
  cases member

/-- However the chiefs of other meetings hand over and give authority, and whatever
fails, the participants of a meeting that no accepted text reaches keep their roles. -/
theorem other_meeting_untouched {host : ClbContext} {eCtx : EncoderContext} {audioBytes : Int}
    (reached : Reaches ServerSteps.step (KeepsOut meet) (startServer db host eCtx audioBytes)
      server) : Untouched meet db server.db := by
  have isolated := invariant_of_step (Isolated meet db) (start_isolated db host eCtx audioBytes)
    (fun _ _ _ isolated keepsOut stepped => step_isolated isolated keepsOut stepped) reached
  exact isolated.untouched

theorem sample_setting_elsewhere (ws : WebSocket) (name : String)
    (same : server.db.matched = sampleDatabase.matched) :
    KeepsOut 2 server (settingEvent ws name) := by
  refine ⟨fun _ => nofun, ?_⟩
  intro mcode mscode admitted
  cases admitted with
  | setting found identifier mcodeField mscodeField answer result =>
      intro meetSeq text
      have decoded : meetSeqOf (cStr (ascii "MWZyb20=")) = .done (ascii "1") := by decide
      rw [← Option.some.inj mscodeField, decoded] at text
      rw [← Outcome.done.inj text, same]
      intro quoting number mnum stored
      have noText : ascii "1" ≠ ascii "1 OR 1=1" := by decide
      have otherMeet : (2 : Int) ≠ atoi (ascii "1") := by decide
      simp [sampleDatabase, noText, otherMeet]

def authorityTaken : List ServerEvent :=
  [opensEvent 1, settingEvent 1 "a", opensEvent 2, settingEvent 2 "b", dstEvent 1 2 "b"]

theorem authority_taken_elsewhere :
    Untouched 2 sampleDatabase (after ServerSteps.step sampleServer authorityTaken).db := by
  have open_out : ∀ ws server, KeepsOut 2 server (opensEvent ws) :=
    fun _ _ => ⟨fun _ => nofun, fun _ _ => nofun⟩
  have permitted : Along ServerSteps.step (KeepsOut 2) sampleServer authorityTaken := by
    apply along_cons rfl (open_out 1 _)
    apply along_cons rfl (sample_setting_elsewhere 1 "a" rfl)
    apply along_cons rfl (open_out 2 _)
    apply along_cons rfl (sample_setting_elsewhere 2 "b" rfl)
    refine along_cons rfl ⟨fun _ => nofun, ?_⟩ trivial
    intro mcode mscode admitted
    cases admitted with
    | setting found identifier mcodeField mscodeField answer result =>
        exact absurd (Option.some.inj identifier) (by decide)
  have reached := reaches_after permitted rfl
  exact other_meeting_untouched reached

end Steps

end Collabo.MeetingIsolation
