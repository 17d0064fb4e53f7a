import Collabo.Library.TurningPoints
import Collabo.RoleAgreement

/-!
# Where privileges come from

An entry gets the authority from its own accepted SETTING or from a message of a
chief, and a chief from its own accepted SETTING or from the chief before it. So every
input that the host gets can be traced back to a grant, and there are never more
chiefs than accepted SETTINGs that made one.
-/

namespace Collabo.GrantedPrivileges

open UniqueTable PartialRuns TurningPoints Collabo.CString Collabo.MySQLConnector
  Collabo.ClientTable Collabo.EncoderSession Collabo.MediaStream Collabo.CollaboServer
  Collabo.ServerSteps Collabo.ListedConnections Collabo.LoginPrivileges Collabo.RoleAgreement

set_option autoImplicit false

def MayInput (ws : WebSocket) (server : Server) : Prop :=
  ∃ client ∈ server.clientList.entries, client.ws = ws ∧ client.authority = true

/-- The event is the connection's own SETTING, which the database accepts with the
authority, or an AUTHORITY or a CHIEF of a chief for the connection's entry. -/
inductive Grants (server : Server) (ws : WebSocket) : ServerEvent → Prop where
  | login {message : Option Json} {json : Json} {dbCall : DbCall} {lib : Libav}
      {client info : Client} (parsed : message = some json)
      (found : findWs server.clientList ws = some client) (presents : Presents json info)
      (suited : isSuited server.db dbCall (cStr info.mcode) (cStr info.mscode) client.authority
          client.chief client.role =
        .done { result := true, checkAuth := true, checkChief := info.chief, role := info.role }) :
      Grants server ws (.messages ws message dbCall lib)
  | named {sender : WebSocket} {message : Option Json} {json : Json} {dbCall : DbCall}
      {lib : Libav} {chief dst : Client} (parsed : message = some json)
      (found : findWs server.clientList sender = some chief) (granted : chief.chief = true)
      (member : dst ∈ server.clientList.entries) (socket : dst.ws = ws)
      (addresses : Addresses json 2 dst.mcode ∨ Addresses json 3 dst.mcode) :
      Grants server ws (.messages sender message dbCall lib)

def chiefs (server : Server) : Nat := server.clientList.entries.countP Client.chief

def makesChief (server : Server) : ServerEvent → Bool
  | .messages ws (some json) dbCall _ =>
      match findWs server.clientList ws, json.text "mcode", json.text "mscode" with
      | some client, some mcode, some mscode =>
          match isSuited server.db dbCall (cStr mcode) (cStr mscode) client.authority client.chief
            client.role with
          | .done suited =>
              json.int "identifier" = some 4 && (suited.result && suited.checkChief)
          | .throws => false
          | .undefined _ => false
      | _, _, _ => false
  | _ => false

/-- `made` counts the accepted SETTINGs that made a chief. -/
structure Tallied where
  server : Server
  made : Nat

def tally (tallied : Tallied) (event : ServerEvent) : Option Tallied :=
  (step tallied.server event).map fun following =>
    { server := following
      made := tallied.made + if makesChief tallied.server event then 1 else 0 }

def FewChiefs (tallied : Tallied) (event : ServerEvent) : Prop :=
  ∀ following, tally tallied event = some following → chiefs following.server ≤ following.made

section Raising

variable {server following : Server} {ws : WebSocket} {client : Client} {json : Json}
  {dbCall : DbCall} {lib : Libav}

theorem may_input_subset (may : MayInput ws following)
    (fewer : ∀ entry ∈ following.clientList.entries, entry ∈ server.clientList.entries) :
    MayInput ws server := by
  obtain ⟨entry, member, socket, authority⟩ := may
  exact ⟨entry, fewer entry member, socket, authority⟩

theorem msg_grants (listed : Listed server) {sender : WebSocket}
    (found : findWs server.clientList sender = some client) {message : Option Json}
    (parsed : message = some json) (done : MsgDone server client json dbCall lib following)
    (off : ¬MayInput ws server) (on : MayInput ws following) :
    Grants server ws (.messages sender message dbCall lib) := by
  obtain ⟨member, socket⟩ := find_ws_some found
  cases done with
  | idle => exact absurd on off
  | input input granted => exact absurd on off
  | @authority dst db addresses granted dstFound updated =>
      obtain ⟨entry, entryMember, entrySocket, authority⟩ := on
      have changed := (mem_modify (ClientTable.changeAuth !dst.authority) fun _ => rfl).mp
        entryMember
      rcases changed with ⟨held, heldMember, same, relabelled⟩ | ⟨before, _⟩
      · rw [relabelled] at entrySocket
        have addressed : Addresses json 2 held.mcode := same ▸ addresses
        exact .named parsed found granted heldMember entrySocket (.inl addressed)
      · exact absurd ⟨entry, before, entrySocket, authority⟩ off
  | @chief dst db addresses granted dstFound updated =>
      obtain ⟨entry, entryMember, entrySocket, authority⟩ := on
      have handedOver : entry ∈ (handOver server client.mcode dst.mcode).clientList.entries :=
        entryMember
      rw [hand_over_entries] at handedOver
      obtain ⟨held, heldMember, same⟩ := List.mem_map.mp handedOver
      unfold handed at same
      split_ifs at same with isDst isSrc
      · rw [← same] at entrySocket
        have addressed : Addresses json 3 held.mcode := isDst ▸ addresses
        exact .named parsed found granted heldMember entrySocket (.inr addressed)
      · rw [← same] at entrySocket authority
        exact absurd ⟨held, heldMember, entrySocket, authority⟩ off
      · rw [← same] at entrySocket authority
        exact absurd ⟨held, heldMember, entrySocket, authority⟩ off
  | @accepted info cleared presents accepts =>
      obtain ⟨entry, entryMember, entrySocket, authority⟩ := on
      rcases (logged_in_entries listed member accepts).mp entryMember with own | ⟨before, _⟩
      · have same : sender = ws := by
          rw [← socket, ← accepts.socket, ← own, entrySocket]
        have suited := accepts.suited
        rw [own] at authority
        rw [authority] at suited
        rw [← same]
        exact .login parsed found presents suited
      · exact absurd ⟨entry, before, entrySocket, authority⟩ off
  | rejected isSetting closed =>
      exact absurd (may_input_subset on fun entry entryMember =>
        ((closed_entries listed closed).mp entryMember).1) off
  | mode isLoggedIn granted changed => exact absurd on off

theorem step_grants {event : ServerEvent} (listed : Listed server)
    (stepped : step server event = some following) (off : ¬MayInput ws server)
    (on : MayInput ws following) : Grants server ws event := by
  cases step_done stepped with
  | @opens opened lib fresh =>
      obtain ⟨entry, member, socket, authority⟩ := on
      rw [(on_open_joined server opened lib).clientList] at member
      by_cases taken : (connected opened).mcode ∈ server.clientList.entries.map Client.mcode
      · rw [insert_taken taken] at member
        exact absurd ⟨entry, member, socket, authority⟩ off
      · rw [insert_fresh_entries taken] at member
        rcases List.mem_append.mp member with before | added
        · exact absurd ⟨entry, before, socket, authority⟩ off
        · rw [List.mem_singleton.mp added] at authority
          cases authority
  | messages isOpen found parsed done => exact msg_grants listed found parsed done off on
  | closes isOpen closed =>
      exact absurd (may_input_subset on fun entry entryMember =>
        ((closed_entries listed closed).mp entryMember).1) off
  | packet running written => exact absurd on off
  | resizes running => exact absurd on off
  | hostChanges => exact absurd on off
  | databaseChanges => exact absurd on off

/-- An input that is passed on comes from an entry with the authority. -/
theorem passed_may_input {event : ServerEvent} {input : HostInput}
    (stepped : step server event = some following)
    (passed : following.inputs = server.inputs ++ [(ws, input)]) : MayInput ws server := by
  have changed : following.inputs ≠ server.inputs := by
    rw [passed]
    simp
  cases step_done stepped with
  | opens fresh => exact absurd (on_open_joined server _ _).inputs changed
  | @messages sender message dbCall lib following client json isOpen found parsed done =>
      obtain ⟨member, _⟩ := find_ws_some found
      have authority := msg_inputs done changed
      cases done with
      | input own granted =>
          have same : client.ws = ws := by
            have last := List.append_cancel_left passed
            exact congrArg (fun sent => sent.1) (List.cons.inj last).1
          exact ⟨client, member, same, authority⟩
      | idle => exact absurd rfl changed
      | authority addresses granted dstFound updated => exact absurd rfl changed
      | chief addresses granted dstFound updated => exact absurd rfl changed
      | accepted presents accepts => exact absurd (logged_in_inputs accepts) changed
      | rejected isSetting closed => exact absurd closed.inputs changed
      | mode isLoggedIn granted modeChanged => exact absurd rfl changed
  | closes isOpen closed => exact absurd closed.inputs changed
  | packet running written => exact absurd rfl changed
  | resizes running => exact absurd rfl changed
  | hostChanges => exact absurd rfl changed
  | databaseChanges => exact absurd rfl changed

end Raising

theorem run_listed {start server : Server} (listed : Listed start) {events : List ServerEvent}
    (ran : events.foldlM step start = some server) : Listed server := by
  have reached : Reaches step (fun _ _ => True) start server :=
    reaches_of_prior .start (along_of_forall (fun _ _ => trivial) events) ran
  exact invariant_of_step Listed listed
    (fun _ _ _ before _ stepped => step_listed before stepped) reached

/-- Whenever an input of a connection reaches the host, the run has a step before it
that granted the connection the authority, and it has had it ever since. -/
theorem input_traced_to_grant {db : Database} {host : ClbContext} {eCtx : EncoderContext}
    {audioBytes : Int} {events : List ServerEvent} {server following : Server}
    {event : ServerEvent} {ws : WebSocket} {input : HostInput}
    (ran : events.foldlM step (startServer db host eCtx audioBytes) = some server)
    (stepped : step server event = some following)
    (passed : following.inputs = server.inputs ++ [(ws, input)]) :
    ∃ before grant after, Grants before ws grant ∧
      TurningPoint step (MayInput ws) (startServer db host eCtx audioBytes) events before grant
        after := by
  have may := passed_may_input stepped passed
  have off : ¬MayInput ws (startServer db host eCtx audioBytes) := by
    intro initial
    obtain ⟨client, member, _⟩ := initial
    cases member
  obtain ⟨before, grant, after, point⟩ := turning_point ran off may
  obtain ⟨earlier, later, split, led, _⟩ := point.split
  have listed := run_listed (start_listed db host eCtx audioBytes) led
  exact ⟨before, grant, after, step_grants listed point.stepped point.off point.on, point⟩

/-- The chief gives the authority to a watching client, whose mouse is then moved. -/
theorem worker_input_traced :
    ∃ before grant after, Grants before 2 grant ∧
      TurningPoint step (MayInput 2) sampleServer chiefAndWorker before grant after := by
  have ran : chiefAndWorker.foldlM step sampleServer =
      some (PartialRuns.after step sampleServer chiefAndWorker) := rfl
  have stepped : step (PartialRuns.after step sampleServer chiefAndWorker)
      (.messages 2 mouseMessage .succeeds sampleLib) =
        some (callHost (PartialRuns.after step sampleServer chiefAndWorker) 2 (.mouse 5 6 1)) :=
    rfl
  exact input_traced_to_grant ran stepped rfl

section Counting

variable {server following : Server} {client : Client} {json : Json} {dbCall : DbCall} {lib : Libav}

theorem closed_chiefs {ws : WebSocket} (closed : Closed server ws lib following) :
    chiefs following ≤ chiefs server := by
  obtain ⟨gone, _, erased⟩ := closed.clientList
  unfold chiefs
  rw [erased]
  exact erase_count_le Client.chief gone.mcode

theorem change_auth_chiefs (server : Server) (mcode : ByteString) (newAuth : Bool) :
    chiefs (modifyClient server mcode (ClientTable.changeAuth newAuth)) = chiefs server := by
  have keepsKey : ∀ entry, (ClientTable.changeAuth newAuth entry).mcode = entry.mcode :=
    fun _ => rfl
  exact modify_keeps_count Client.chief keepsKey (fun _ => rfl) mcode

theorem change_chief_chiefs (server : Server) (mcode : ByteString) (newChief : Bool) :
    chiefs (modifyClient server mcode (ClientTable.changeChief newChief)) ≤ chiefs server + 1 := by
  have keepsKey : ∀ entry, (ClientTable.changeChief newChief entry).mcode = entry.mcode :=
    fun _ => rfl
  exact modify_count_le Client.chief keepsKey mcode

theorem hand_over_chiefs_le (member : client ∈ server.clientList.entries)
    (granted : client.chief = true) (dst : ByteString) :
    chiefs (handOver server client.mcode dst) ≤ chiefs server := by
  have released : chiefs (modifyClient server client.mcode (ClientTable.changeChief false)) + 1 =
      chiefs server := by
    have count := modify_count Client.chief member
      (.inl (rfl : (ClientTable.changeChief false client).mcode = client.mcode))
    rw [granted] at count
    exact count
  unfold handOver
  dsimp only
  rw [change_auth_chiefs, ← released]
  exact change_chief_chiefs _ dst true

theorem logged_in_chiefs {info : Client} {cleared : Server} (listed : Listed server)
    (member : client ∈ server.clientList.entries)
    (accepts : Accepted server client info dbCall lib cleared) :
    chiefs (loggedIn client info cleared) ≤ chiefs server + if info.chief then 1 else 0 := by
  obtain ⟨_, kept, _, _⟩ := accepted_cleared listed member accepts
  have same := setting_info_eq accepts
  have free : (settingInfo info client).mcode = client.mcode ∨
      (settingInfo info client).mcode ∉ cleared.clientList.entries.map Client.mcode := by
    rw [same]
    exact .inr (new_mcode_free listed member accepts)
  have fewer : chiefs cleared ≤ chiefs server :=
    cleared_of_closed (fun state => chiefs state ≤ chiefs server) accepts (le_refl _)
      fun _ _ closed => closed_chiefs closed
  have count := modify_count Client.chief kept free
  rw [same] at count
  have changed : chiefs (loggedIn client info cleared) =
      (cleared.clientList.modify client.mcode (settingInfo info)).entries.countP Client.chief := rfl
  unfold chiefs at fewer
  rw [changed]
  unfold chiefs
  omega

theorem accepted_makes_chief {info : Client} {cleared : Server} {ws : WebSocket}
    (found : findWs server.clientList ws = some client) (presents : Presents json info)
    (accepts : Accepted server client info dbCall lib cleared) (chief : info.chief = true) :
    makesChief server (.messages ws (some json) dbCall lib) = true := by
  simp only [makesChief, found, presents.mcode, presents.mscode, accepts.suited,
    presents.identifier, chief, decide_true, Bool.and_self]

theorem msg_chiefs {ws : WebSocket} (listed : Listed server)
    (found : findWs server.clientList ws = some client)
    (done : MsgDone server client json dbCall lib following) :
    chiefs following ≤
      chiefs server + if makesChief server (.messages ws (some json) dbCall lib) then 1 else 0 := by
  obtain ⟨member, _⟩ := find_ws_some found
  cases done with
  | idle => exact Nat.le_add_right _ _
  | input input granted => exact Nat.le_add_right _ _
  | authority addresses granted dstFound updated =>
      exact (change_auth_chiefs server _ _).le.trans (Nat.le_add_right _ _)
  | chief addresses granted dstFound updated =>
      exact (hand_over_chiefs_le member granted _).trans (Nat.le_add_right _ _)
  | @accepted info cleared presents accepts =>
      have bound := logged_in_chiefs listed member accepts
      cases chief : info.chief with
      | false =>
          rw [chief] at bound
          exact bound.trans (Nat.le_add_right _ _)
      | true =>
          rw [chief] at bound
          rw [accepted_makes_chief found presents accepts chief]
          exact bound
  | rejected isSetting closed => exact (closed_chiefs closed).trans (Nat.le_add_right _ _)
  | mode isLoggedIn granted changed => exact Nat.le_add_right _ _

theorem step_chiefs {event : ServerEvent} (listed : Listed server)
    (stepped : step server event = some following) :
    chiefs following ≤ chiefs server + if makesChief server event then 1 else 0 := by
  cases step_done stepped with
  | @opens ws lib fresh =>
      have same : chiefs (onOpenPtr server ws lib) = chiefs server := by
        unfold chiefs
        rw [(on_open_joined server ws lib).clientList]
        by_cases taken : (connected ws).mcode ∈ server.clientList.entries.map Client.mcode
        · rw [insert_taken taken]
        · rw [insert_fresh_entries taken, List.countP_append]
          rfl
      exact same.le.trans (Nat.le_add_right _ _)
  | messages isOpen found parsed done =>
      rw [parsed]
      exact msg_chiefs listed found done
  | closes isOpen closed => exact (closed_chiefs closed).trans (Nat.le_add_right _ _)
  | packet running written => exact Nat.le_add_right _ _
  | resizes running => exact Nat.le_add_right _ _
  | hostChanges => exact Nat.le_add_right _ _
  | databaseChanges => exact Nat.le_add_right _ _

/-- Whatever the database holds and however it changes, there are never more chiefs than
accepted SETTINGs that made one. -/
theorem few_chiefs (db : Database) (host : ClbContext) (eCtx : EncoderContext)
    (audioBytes : Int) (events : List ServerEvent) :
    Along tally FewChiefs { server := startServer db host eCtx audioBytes, made := 0 }
      events := by
  let invariant : Tallied → Prop := fun tallied =>
    Listed tallied.server ∧ chiefs tallied.server ≤ tallied.made
  have kept : ∀ tallied event following, invariant tallied →
      tally tallied event = some following → invariant following := by
    intro tallied event following holds tallyStep
    obtain ⟨listed, few⟩ := holds
    obtain ⟨server, stepped, same⟩ := Option.map_eq_some_iff.mp tallyStep
    rw [← same]
    exact ⟨step_listed listed stepped,
      (step_chiefs listed stepped).trans (Nat.add_le_add_right few _)⟩
  apply along_of_invariant invariant _ _ ⟨start_listed db host eCtx audioBytes, Nat.zero_le _⟩
    (along_of_forall (fun _ _ => trivial) events : Along tally (fun _ _ => True) _ _)
  · intro tallied event holds _ following tallyStep
    exact (kept tallied event following holds tallyStep).2
  · intro tallied event following holds _ tallyStep
    exact kept tallied event following holds tallyStep

end Counting

end Collabo.GrantedPrivileges
