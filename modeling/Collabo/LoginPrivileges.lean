import Collabo.ListedConnections

/-!
# Privileges of clients that have not logged in

The entry of a client that has not logged in lies under the empty `mcode`, where
the AUTHORITY and CHIEF messages of a chief can find it. While they do not, and
no role of -1 is stored for a client that has privileges, only logged-in
clients reach the host's mouse and keyboard.
-/

namespace Collabo.LoginPrivileges

open UniqueTable PartialRuns Collabo.CString Collabo.MySQLConnector Collabo.ClientTable
  Collabo.EncoderSession Collabo.MediaStream Collabo.CollaboServer Collabo.ServerSteps
  Collabo.ListedConnections

set_option autoImplicit false

/-- No client that has not logged in has a privilege. -/
def NoPrivilegeBeforeLogin (server : Server) : Prop :=
  ∀ client ∈ server.clientList.entries, client.role = -1 →
    client.authority = false ∧ client.chief = false

/-- A callback into the host is caused by a message of a connection that has
completed an accepted SETTING and has a role. -/
def InputsAfterLogin (server : Server) (event : ServerEvent) (following : Server) : Prop :=
  following.inputs ≠ server.inputs →
    ∃ ws message dbCall lib client, event = .messages ws message dbCall lib ∧
      findWs server.clientList ws = some client ∧ client.role ≠ -1 ∧ ws ∈ server.accepted

/-- A chief's AUTHORITY or CHIEF names a client that has logged in, and no SETTING
of a client with privileges is accepted with the role -1. -/
def PrivilegesAfterLogin (server : Server) : ServerEvent → Prop
  | .messages ws message dbCall _ =>
      ∀ client json, findWs server.clientList ws = some client → message = some json →
        (client.chief = true → ∀ dst ∈ server.clientList.entries,
          Addresses json 2 dst.mcode ∨ Addresses json 3 dst.mcode → dst.role ≠ -1) ∧
        ∀ info : Client, Presents json info → info.role = -1 →
          isSuited server.db dbCall (cStr info.mcode) (cStr info.mscode) client.authority
              client.chief client.role =
            .done { result := true, checkAuth := info.authority, checkChief := info.chief,
                    role := -1 } →
          client.authority = false ∧ client.chief = false
  | .opens _ _ => True
  | .closes _ _ => True
  | .packet _ => True
  | .resizes _ _ _ => True
  | .hostChanges _ => True
  | .databaseChanges _ => True

structure Guarded (server : Server) : Prop where
  listed : Listed server
  unprivileged : NoPrivilegeBeforeLogin server
  accepted : ∀ client ∈ server.clientList.entries, client.role ≠ -1 → client.ws ∈ server.accepted

section Steps

variable {server following : Server} {client : Client} {json : Json} {dbCall : DbCall} {lib : Libav}

theorem privileged_has_role (guarded : Guarded server)
    (member : client ∈ server.clientList.entries)
    (granted : client.authority = true ∨ client.chief = true) : client.role ≠ -1 := by
  intro missing
  obtain ⟨noAuthority, noChief⟩ := guarded.unprivileged client member missing
  rw [noAuthority, noChief] at granted
  exact absurd granted (by decide)

/-- The entries and the accepted connections of a guarded table, whatever has
happened to the rest of the server. -/
structure Entries (clientList : ClientList) (accepted : List WebSocket) : Prop where
  unprivileged : ∀ client ∈ clientList.entries, client.role = -1 →
    client.authority = false ∧ client.chief = false
  accepted : ∀ client ∈ clientList.entries, client.role ≠ -1 → client.ws ∈ accepted

def RoleUnder (clientList : ClientList) (mcode : ByteString) : Prop :=
  ∀ client ∈ clientList.entries, client.mcode = mcode → client.role ≠ -1

/-- A change of the privileges of a client that has a role. -/
structure ChangesPrivileges (change : Client → Client) : Prop where
  mcode : ∀ client, (change client).mcode = client.mcode
  role : ∀ client, (change client).role = client.role
  ws : ∀ client, (change client).ws = client.ws

theorem change_auth_changes (newAuth : Bool) :
    ChangesPrivileges (ClientTable.changeAuth newAuth) :=
  ⟨fun _ => rfl, fun _ => rfl, fun _ => rfl⟩

theorem change_chief_changes (newChief : Bool) :
    ChangesPrivileges (ClientTable.changeChief newChief) :=
  ⟨fun _ => rfl, fun _ => rfl, fun _ => rfl⟩

theorem modify_entries_guarded {clientList : ClientList} {accepted : List WebSocket}
    {change : Client → Client} {mcode : ByteString} (entries : Entries clientList accepted)
    (changes : ChangesPrivileges change) (hasRole : RoleUnder clientList mcode) :
    Entries (clientList.modify mcode change) accepted := by
  constructor
  · intro other member missing
    rcases (mem_modify change changes.mcode).mp member with ⟨held, heldMember, same, rfl⟩ |
      ⟨before, _⟩
    · rw [changes.role] at missing
      exact absurd missing (hasRole held heldMember same)
    · exact entries.unprivileged other before missing
  · intro other member present
    rcases (mem_modify change changes.mcode).mp member with ⟨held, heldMember, _, rfl⟩ |
      ⟨before, _⟩
    · rw [changes.role] at present
      rw [changes.ws]
      exact entries.accepted held heldMember present
    · exact entries.accepted other before present

theorem modify_role_under {clientList : ClientList} {change : Client → Client}
    {other : ByteString} (changes : ChangesPrivileges change)
    (hasRole : RoleUnder clientList other) (mcode : ByteString) :
    RoleUnder (clientList.modify mcode change) other := by
  intro changed member same
  rcases (mem_modify change changes.mcode).mp member with ⟨held, heldMember, _, rfl⟩ |
    ⟨before, _⟩
  · rw [changes.mcode] at same
    rw [changes.role]
    exact hasRole held heldMember same
  · exact hasRole changed before same

theorem role_under_of_mem {clientList : ClientList} (member : client ∈ clientList.entries)
    (present : client.role ≠ -1) : RoleUnder clientList client.mcode := by
  intro other otherMember same
  rw [item_eq_of_key otherMember member same]
  exact present

theorem closed_entries_guarded {ws : WebSocket} (guarded : Guarded server)
    (closed : Closed server ws lib following) :
    Entries following.clientList following.accepted := by
  constructor
  · intro other member
    exact guarded.unprivileged other ((closed_entries guarded.listed closed).mp member).1
  · intro other member present
    obtain ⟨before, different⟩ := (closed_entries guarded.listed closed).mp member
    rw [closed.accepted, List.mem_filter]
    exact ⟨guarded.accepted other before present, by simpa using different⟩

theorem accepted_flags {cleared : Server} {info : Client}
    (accepts : Accepted server client info dbCall lib cleared) (missing : info.role = -1) :
    info.authority = client.authority ∧ info.chief = client.chief := by
  obtain ⟨meet, mnum, text, -, -, role, flags⟩ := is_suited_accepts accepts.suited rfl
  have number : roleNumber text = -1 := role.symm.trans missing
  rw [number] at flags
  exact ⟨congrArg Prod.fst flags, congrArg Prod.snd flags⟩

theorem logged_in_guarded {cleared : Server} {info : Client} (guarded : Guarded server)
    (member : client ∈ server.clientList.entries)
    (accepts : Accepted server client info dbCall lib cleared)
    (unprivileged : info.role = -1 → client.authority = false ∧ client.chief = false) :
    Entries (loggedIn client info cleared).clientList (loggedIn client info cleared).accepted := by
  have entries := @logged_in_entries _ _ _ _ _ _ guarded.listed member accepts
  obtain ⟨-, -, -, clearedEntries⟩ := accepted_cleared guarded.listed member accepts
  constructor
  · intro other otherMember missing
    rcases entries.mp otherMember with rfl | ⟨before, _⟩
    · obtain ⟨authority, chief⟩ := accepted_flags accepts missing
      rw [authority, chief]
      exact unprivileged missing
    · exact guarded.unprivileged other before missing
  · intro other otherMember present
    have after : (loggedIn client info cleared).accepted = cleared.accepted ++ [info.ws] := rfl
    rw [after]
    rcases entries.mp otherMember with rfl | ⟨before, different, _⟩
    · exact List.mem_append_right _ List.mem_cons_self
    · apply List.mem_append_left
      have kept := (clearedEntries other).mpr ⟨before, different⟩
      rcases accepts.freed with ⟨_, same⟩ | ⟨gone, _, closed⟩
      · rw [same]
        exact guarded.accepted other before present
      · exact (closed_entries_guarded guarded closed).accepted other kept present

theorem msg_guarded {ws : WebSocket} {message : Option Json} (guarded : Guarded server)
    (found : findWs server.clientList ws = some client) (parsed : message = some json)
    (done : MsgDone server client json dbCall lib following)
    (meets : PrivilegesAfterLogin server (.messages ws message dbCall lib)) :
    Entries following.clientList following.accepted := by
  have member := (find_ws_some found).1
  have entries : Entries server.clientList server.accepted :=
    ⟨guarded.unprivileged, guarded.accepted⟩
  obtain ⟨names, stores⟩ := meets client json found parsed
  cases done with
  | idle => exact entries
  | input input granted => exact entries
  | @authority dst db addresses granted dstFound updated =>
      have dstMember := (find_some dstFound).1
      have present := names granted dst dstMember (.inl addresses)
      exact modify_entries_guarded entries (change_auth_changes _)
        (role_under_of_mem dstMember present)
  | @chief dst db addresses granted dstFound updated =>
      have dstMember := (find_some dstFound).1
      have src := role_under_of_mem member (privileged_has_role guarded member (.inr granted))
      have present :=
        role_under_of_mem dstMember (names granted dst dstMember (.inr addresses))
      have released := modify_entries_guarded entries (change_chief_changes false) src
      have releasedRole := modify_role_under (change_chief_changes false) present client.mcode
      have handed := modify_entries_guarded released (change_chief_changes true) releasedRole
      have handedRole := modify_role_under (change_chief_changes true) releasedRole dst.mcode
      exact modify_entries_guarded handed (change_auth_changes true) handedRole
  | @accepted info cleared presents accepts =>
      apply logged_in_guarded guarded member accepts
      intro missing
      apply stores info presents missing
      rw [accepts.suited, missing]
  | rejected isSetting closed => exact closed_entries_guarded guarded closed
  | mode isLoggedIn granted changed => exact entries

theorem opened_guarded {ws : WebSocket} (guarded : Guarded server) (lib : Libav) :
    Entries (onOpenPtr server ws lib).clientList (onOpenPtr server ws lib).accepted := by
  have joined := on_open_joined server ws lib
  rw [joined.clientList, joined.accepted]
  by_cases taken : (ClientTable.connected ws).mcode ∈ server.clientList.entries.map Client.mcode
  · rw [insert_taken taken]
    exact ⟨guarded.unprivileged, guarded.accepted⟩
  · constructor
    · intro other member missing
      rw [insert_fresh_entries taken] at member
      rcases List.mem_append.mp member with before | added
      · exact guarded.unprivileged other before missing
      · rw [List.mem_singleton.mp added]
        exact ⟨rfl, rfl⟩
    · intro other member present
      rw [insert_fresh_entries taken] at member
      rcases List.mem_append.mp member with before | added
      · exact guarded.accepted other before present
      · rw [List.mem_singleton.mp added] at present
        exact absurd rfl present

theorem step_guarded {event : ServerEvent} (guarded : Guarded server)
    (meets : PrivilegesAfterLogin server event) (stepped : step server event = some following) :
    Guarded following := by
  have listed := step_listed guarded.listed stepped
  have entries : Entries following.clientList following.accepted := by
    cases step_done stepped with
    | opens fresh => exact opened_guarded guarded _
    | messages isOpen found parsed done => exact msg_guarded guarded found parsed done meets
    | closes isOpen closed => exact closed_entries_guarded guarded closed
    | packet running written => exact ⟨guarded.unprivileged, guarded.accepted⟩
    | resizes running => exact ⟨guarded.unprivileged, guarded.accepted⟩
    | hostChanges => exact ⟨guarded.unprivileged, guarded.accepted⟩
    | databaseChanges => exact ⟨guarded.unprivileged, guarded.accepted⟩
  exact ⟨listed, entries.unprivileged, entries.accepted⟩

theorem logged_in_inputs {cleared : Server} {info : Client}
    (accepts : Accepted server client info dbCall lib cleared) :
    (loggedIn client info cleared).inputs = server.inputs := by
  have kept : (loggedIn client info cleared).inputs = cleared.inputs := rfl
  rw [kept]
  exact cleared_of_closed (fun state => state.inputs = server.inputs) accepts rfl
    (fun _ _ closed => closed.inputs)

theorem msg_inputs (done : MsgDone server client json dbCall lib following)
    (changed : following.inputs ≠ server.inputs) : client.authority = true := by
  cases done with
  | idle => exact absurd rfl changed
  | input input granted => exact granted
  | authority addresses granted found updated => exact absurd rfl changed
  | chief addresses granted found updated => exact absurd rfl changed
  | accepted presents accepts => exact absurd (logged_in_inputs accepts) changed
  | rejected isSetting closed => exact absurd closed.inputs changed
  | mode isLoggedIn granted switched => exact absurd rfl changed

theorem step_inputs {event : ServerEvent} (guarded : Guarded server)
    (stepped : step server event = some following) : InputsAfterLogin server event following := by
  intro changed
  cases step_done stepped with
  | opens fresh => exact absurd (on_open_joined server _ _).inputs changed
  | @messages ws message dbCall lib _ client json isOpen found parsed done =>
      obtain ⟨member, same⟩ := find_ws_some found
      have present := privileged_has_role guarded member (.inl (msg_inputs done changed))
      refine ⟨ws, message, dbCall, lib, client, rfl, found, present, ?_⟩
      rw [← same]
      exact guarded.accepted client member present
  | closes isOpen closed => exact absurd closed.inputs changed
  | packet running written => exact absurd rfl changed
  | resizes running => exact absurd rfl changed
  | hostChanges => exact absurd rfl changed
  | databaseChanges => exact absurd rfl changed

end Steps

theorem start_guarded (db : Database) (host : ClbContext) (eCtx : EncoderContext)
    (audioBytes : Int) : Guarded (startServer db host eCtx audioBytes) := by
  constructor
  · exact start_listed db host eCtx audioBytes
  · intro client member
    cases member
  · intro client member
    cases member

/-- In every run whose events meet the condition, no client that has not logged in
has a privilege, and every callback into the host comes from a client that has. -/
theorem privileges_only_after_login (db : Database) (host : ClbContext) (eCtx : EncoderContext)
    (audioBytes : Int) (server : Server)
    (reached : Reaches step PrivilegesAfterLogin (startServer db host eCtx audioBytes) server) :
    NoPrivilegeBeforeLogin server ∧
      ∀ event following, step server event = some following →
        InputsAfterLogin server event following := by
  have guarded : Guarded server := by
    apply invariant_of_step Guarded (start_guarded db host eCtx audioBytes) _ reached
    intro state event following held meets stepped
    exact step_guarded held meets stepped
  exact ⟨guarded.unprivileged, fun _ _ => step_inputs guarded⟩

def chiefAndWorker : List ServerEvent :=
  [opensEvent 1, settingEvent 1 "a", opensEvent 2, settingEvent 2 "c", dstEvent 1 2 "c"]

theorem sample_role_present {checkAuth checkChief : Bool} {role : Int} {suited : Suited}
    {mcode mscode : ByteString}
    (answer : isSuited sampleDatabase .succeeds mcode mscode checkAuth checkChief role =
      .done suited) (result : suited.result = true) : suited.role ≠ -1 := by
  obtain ⟨meet, mnum, text, -, row, number, -⟩ := is_suited_accepts answer result
  rw [number]
  simp only [sampleDatabase] at row
  split_ifs at row
  · rw [← Option.some.inj (Option.some.inj row)]
    decide
  · rw [← Option.some.inj (Option.some.inj row)]
    decide
  · rw [← Option.some.inj (Option.some.inj row)]
    decide

theorem sample_setting_permitted {server : Server} (db : server.db = sampleDatabase)
    (ws : WebSocket) (mcode : String) :
    PrivilegesAfterLogin server (settingEvent ws mcode) := by
  intro client json _ parsed
  have isSetting : json.int "identifier" = some 4 := by
    rw [← Option.some.inj parsed]
    rfl
  constructor
  · rintro _ dst _ (addresses | addresses)
    · exact absurd (isSetting.symm.trans addresses.identifier) (by decide)
    · exact absurd (isSetting.symm.trans addresses.identifier) (by decide)
  · intro info _ _ answer
    rw [db] at answer
    exact absurd rfl (sample_role_present answer rfl)

theorem worker_roles :
    ∀ dst ∈ (after step sampleServer (chiefAndWorker.take 4)).clientList.entries,
      dst.role ≠ -1 := by
  decide

theorem privileges_only_after_login_worker :
    NoPrivilegeBeforeLogin (after step sampleServer chiefAndWorker) ∧
      ∀ event following, step (after step sampleServer chiefAndWorker) event = some following →
        InputsAfterLogin (after step sampleServer chiefAndWorker) event following := by
  apply privileges_only_after_login sampleDatabase sampleHost (encoderContext .image sampleHost) 0
  apply reaches_after
  · apply along_cons rfl trivial
    apply along_cons rfl (sample_setting_permitted rfl 1 "a")
    apply along_cons rfl trivial
    apply along_cons rfl (sample_setting_permitted rfl 2 "c")
    apply along_cons rfl
    · intro client json _ parsed
      constructor
      · intro _ dst member _
        exact worker_roles dst member
      · intro info presents
        rw [← Option.some.inj parsed] at presents
        exact absurd presents.identifier (by decide)
    · exact trivial
  · rfl

def emptyDestination : List ServerEvent :=
  [opensEvent 1, settingEvent 1 "a", opensEvent 2, dstEvent 1 3 ""]

def mouseMessage : Option Json :=
  some
    { fields :=
        [("identifier", .number 0), ("flag", .number 1), ("x", .number 5), ("y", .number 6)] }

/-- The client gets authority, and its mouse message reaches the host. -/
theorem empty_destination_gets_authority :
    Reaches step (fun _ _ => True) sampleServer (after step sampleServer emptyDestination) ∧
      (after step sampleServer (emptyDestination ++
        [.messages 2 mouseMessage .succeeds sampleLib])).inputs = [(2, .mouse 5 6 1)] ∧
      (after step sampleServer (emptyDestination ++
        [.messages 2 mouseMessage .succeeds sampleLib])).accepted = [1] ∧
      ¬NoPrivilegeBeforeLogin (after step sampleServer emptyDestination) := by
  refine ⟨reaches_after (along_of_forall (fun _ _ => trivial) _) rfl, rfl, rfl, ?_⟩
  intro unprivileged
  have refused := unprivileged
    { ClientTable.connected 2 with authority := true, chief := true } (by decide) rfl
  exact absurd refused.1 (by decide)

end Collabo.LoginPrivileges
