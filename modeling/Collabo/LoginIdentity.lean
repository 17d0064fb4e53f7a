import Collabo.ConnectionEntries

/-!
# Who is logged in as whom

`isSuited` looks a member up under the C string of `mcode`, and the table keeps
the whole string. A member is logged in once as long as no two strings that
differ behind a NUL are presented, and an accepted SETTING takes effect unless
it carries the `mcode` of the sender's own entry.
-/

namespace Collabo.LoginIdentity

open UniqueTable PartialRuns Collabo.CString Collabo.MySQLConnector Collabo.ClientTable
  Collabo.EncoderSession Collabo.MediaStream Collabo.CollaboServer Collabo.ServerSteps
  Collabo.ListedConnections Collabo.ConnectionEntries

set_option autoImplicit false

/-- The database accepts a SETTING of the client under `ws`. `info` has the
strings of the message and what `isSuited` returned. -/
structure Accepts (server : Server) (ws : WebSocket) (message : Option Json) (dbCall : DbCall)
    (client info : Client) : Prop where
  found : findWs server.clientList ws = some client
  socket : info.ws = client.ws
  presents : ∃ json, message = some json ∧ Presents json info
  suited : isSuited server.db dbCall (cStr info.mcode) (cStr info.mscode) client.authority
      client.chief client.role =
    .done { result := true, checkAuth := info.authority, checkChief := info.chief,
            role := info.role }

/-- The member row of an `mcode` is the one that its C string selects. -/
def SameMember (left right : Client) : Prop := cStr left.mcode = cStr right.mcode

def IsLoggedIn (server : Server) (client : Client) : Prop :=
  client ∈ server.clientList.entries ∧ client.ws ∈ server.accepted

def MembersOnce (server : Server) : Prop :=
  ∀ left right, IsLoggedIn server left → IsLoggedIn server right → SameMember left right →
    left = right

def Gone (server : Server) (ws : WebSocket) : Prop :=
  ws ∉ server.sockets ∧ ws ∉ clientSockets server.clientList

/-- An accepted SETTING leaves the sender's connection with exactly what was
accepted, and closes the earlier connection of the member. -/
def TakesEffect (server : Server) : ServerEvent → Prop
  | .messages ws message dbCall lib =>
      ∀ client info, Accepts server ws message dbCall client info →
        ∃ following, step server (.messages ws message dbCall lib) = some following ∧
          findWs following.clientList ws = some info ∧
          ∀ earlier, IsLoggedIn server earlier → earlier.ws ≠ ws → SameMember earlier info →
            Gone following earlier.ws
  | .opens _ _ => True
  | .closes _ _ => True
  | .packet _ => True
  | .resizes _ _ _ => True
  | .hostChanges _ => True
  | .databaseChanges _ => True

def LogsInOnce (server : Server) (event : ServerEvent) : Prop :=
  TakesEffect server event ∧ ∀ following, step server event = some following → MembersOnce following

/-- No accepted SETTING carries the `mcode` of the sender's entry, or one that
differs from that of another logged-in client only behind a NUL. -/
def DistinctLogins (server : Server) : ServerEvent → Prop
  | .messages ws message dbCall _ =>
      ∀ client info, Accepts server ws message dbCall client info →
        info.mcode ≠ client.mcode ∧
          ∀ other, IsLoggedIn server other → other ≠ client → SameMember other info →
            other.mcode = info.mcode
  | .opens _ _ => True
  | .closes _ _ => True
  | .packet _ => True
  | .resizes _ _ _ => True
  | .hostChanges _ => True
  | .databaseChanges _ => True

structure Authenticated (server : Server) : Prop where
  listed : Listed server
  connected : ∀ ws ∈ server.accepted, ws ∈ server.sockets
  once : MembersOnce server

section Accepting

variable {server : Server} {ws : WebSocket} {message : Option Json} {dbCall : DbCall}
  {client info : Client} {lib : Libav}

theorem own_mcode_undefined (listed : Listed server)
    (accepts : Accepts server ws message dbCall client info) (own : info.mcode = client.mcode)
    (lib : Libav) : step server (.messages ws message dbCall lib) = none := by
  obtain ⟨json, parsed, presents⟩ := accepts.presents
  have again : LogsInAgain server ws message dbCall := by
    have mcodeField := presents.mcode
    have answer := accepts.suited
    rw [own] at mcodeField answer
    exact ⟨client, json, _, _, _, _, accepts.found, parsed, presents.identifier, mcodeField,
      presents.mscode, presents.custom, presents.name, answer, rfl⟩
  have undefined : onMsgPtr server ws message dbCall lib = .undefined .erasedEntry :=
    logs_in_again_undefined listed again
  simp only [step, undefined, settled, ite_self]

theorem accepts_step (listed : Listed server)
    (accepts : Accepts server ws message dbCall client info) (other : info.mcode ≠ client.mcode)
    (lib : Libav) :
    ∃ cleared, Accepted server client info dbCall lib cleared ∧
      step server (.messages ws message dbCall lib) = some (loggedIn client info cleared) := by
  obtain ⟨json, rfl, presents⟩ := accepts.presents
  obtain ⟨member, same⟩ := find_ws_some accepts.found
  have isOpen : ws ∈ server.sockets :=
    listed.connected ws (same ▸ List.mem_map_of_mem (f := Client.ws) member)
  have shape : ({ ws := client.ws, chief := info.chief, authority := info.authority,
                  role := info.role, mcode := info.mcode, mscode := info.mscode,
                  custom := info.custom, name := info.name } : Client) = info := by
    rw [← accepts.socket]
  -- the handler up to the sender's modification, with the entry of `info.mcode` closed
  have reaches : ∀ cleared, Accepted server client info dbCall lib cleared →
      (server.clientList.find info.mcode = none ∧ cleared = server ∨
        ∃ taken, server.clientList.find info.mcode = some taken ∧
          terminate server taken.ws lib = .returns cleared) →
      step server (.messages ws (some json) dbCall lib) = some (loggedIn client info cleared) := by
    intro cleared accepted handled
    obtain ⟨entry, present⟩ := accepted.present
    have finished : logIn client info cleared = .returns (loggedIn client info cleared) := by
      simp only [logIn, present]
      rfl
    simp only [step, if_pos isOpen, onMsgPtr, accepts.found, presents.identifier, onIdentifier,
      onSetting, presents.mcode, presents.mscode, presents.custom, presents.name, accepts.suited,
      if_true]
    rcases handled with ⟨free, rfl⟩ | ⟨taken, found, returned⟩
    · simp only [free, shape, finished, settled]
    · simp only [found, returned, Handled.andThen, shape, finished, settled]
  cases taken : server.clientList.find info.mcode with
  | none =>
      have accepted : Accepted server client info dbCall lib server :=
        ⟨accepts.socket, accepts.suited, .inl ⟨taken, rfl⟩, client, find_of_mem member⟩
      exact ⟨server, accepted, reaches server accepted (.inl ⟨taken, rfl⟩)⟩
  | some earlier =>
      obtain ⟨earlierMember, earlierMcode⟩ := find_some taken
      obtain ⟨cleared, returned⟩ :=
        terminate_returns (find_ws_of_mem listed.distinct earlierMember) lib
      have closed := terminate_closed returned
      have kept : client ∈ cleared.clientList.entries := by
        apply (closed_entries listed closed).mpr
        refine ⟨member, ?_⟩
        intro sameWs
        apply other
        rw [← earlierMcode, List.inj_on_of_nodup_map listed.distinct member earlierMember sameWs]
      have accepted : Accepted server client info dbCall lib cleared :=
        ⟨accepts.socket, accepts.suited, .inr ⟨earlier, taken, closed⟩, client, find_of_mem kept⟩
      exact ⟨cleared, accepted, reaches cleared accepted (.inr ⟨earlier, taken, returned⟩)⟩

end Accepting

section Members

variable {server following : Server} {ws : WebSocket} {client info : Client} {dbCall : DbCall}
  {lib : Libav}

/-- A logged-in entry after the step was one before, up to its privileges. -/
def Descends (server following : Server) : Prop :=
  ∀ client, IsLoggedIn following client →
    ∃ before, IsLoggedIn server before ∧ before.ws = client.ws ∧ before.mcode = client.mcode

theorem descends_once (once : MembersOnce server) (listed : Listed following)
    (descends : Descends server following) : MembersOnce following := by
  intro left right leftIn rightIn same
  obtain ⟨leftBefore, leftWas, leftWs, leftMcode⟩ := descends left leftIn
  obtain ⟨rightBefore, rightWas, rightWs, rightMcode⟩ := descends right rightIn
  have sameBefore : SameMember leftBefore rightBefore := by
    unfold SameMember
    rw [leftMcode, rightMcode]
    exact same
  have identical := once leftBefore rightBefore leftWas rightWas sameBefore
  apply List.inj_on_of_nodup_map listed.distinct leftIn.1 rightIn.1
  rw [← leftWs, ← rightWs, identical]

theorem descends_of_modify {change : Client → Client} {mcode : ByteString}
    (keepsWs : ∀ client, (change client).ws = client.ws)
    (keepsMcode : ∀ client, (change client).mcode = client.mcode) :
    Descends server (modifyClient server mcode change) := by
  rintro client ⟨member, isIn⟩
  rcases (mem_modify change keepsMcode).mp member with ⟨held, heldMember, _, rfl⟩ | ⟨before, _⟩
  · rw [keepsWs] at isIn
    exact ⟨held, ⟨heldMember, isIn⟩, (keepsWs held).symm, (keepsMcode held).symm⟩
  · exact ⟨client, ⟨before, isIn⟩, rfl, rfl⟩

theorem descends_trans {middle : Server} (first : Descends server middle)
    (second : Descends middle following) : Descends server following := by
  intro client isIn
  obtain ⟨between, betweenIn, sameWs, sameMcode⟩ := second client isIn
  obtain ⟨before, beforeIn, beforeWs, beforeMcode⟩ := first between betweenIn
  exact ⟨before, beforeIn, beforeWs.trans sameWs, beforeMcode.trans sameMcode⟩

theorem descends_hand_over (src dst : ByteString) :
    Descends server (handOver server src dst) := by
  have stripped : Descends server (modifyClient server src (ClientTable.changeChief false)) :=
    descends_of_modify (fun _ => rfl) (fun _ => rfl)
  have named : Descends (modifyClient server src (ClientTable.changeChief false))
      (modifyClient (modifyClient server src (ClientTable.changeChief false)) dst
        (ClientTable.changeChief true)) :=
    descends_of_modify (fun _ => rfl) (fun _ => rfl)
  apply descends_trans (descends_trans stripped named)
  exact descends_of_modify (fun _ => rfl) (fun _ => rfl)

theorem descends_closed (listed : Listed server) (closed : Closed server ws lib following) :
    Descends server following := by
  rintro client ⟨member, isIn⟩
  rw [closed.accepted] at isIn
  exact ⟨client, ⟨((closed_entries listed closed).mp member).1, (List.mem_filter.mp isIn).1⟩,
    rfl, rfl⟩

theorem descends_opened (authenticated : Authenticated server) (fresh : ws ∉ server.sockets)
    (lib : Libav) : Descends server (onOpenPtr server ws lib) := by
  have joined := on_open_joined server ws lib
  rintro client ⟨member, isIn⟩
  rw [joined.accepted] at isIn
  rw [joined.clientList] at member
  by_cases taken : (ClientTable.connected ws).mcode ∈ server.clientList.entries.map Client.mcode
  · rw [insert_taken taken] at member
    exact ⟨client, ⟨member, isIn⟩, rfl, rfl⟩
  · rw [insert_fresh_entries taken] at member
    rcases List.mem_append.mp member with before | added
    · exact ⟨client, ⟨before, isIn⟩, rfl, rfl⟩
    · rw [List.mem_singleton.mp added] at isIn
      exact absurd (authenticated.connected ws isIn) fresh

/-- The logged-in clients after an accepted SETTING are the sender and those
before it that have neither its old nor its new `mcode`. -/
theorem logged_in_after {cleared : Server} (authenticated : Authenticated server)
    (member : client ∈ server.clientList.entries)
    (accepted : Accepted server client info dbCall lib cleared) {other : Client} :
    IsLoggedIn (loggedIn client info cleared) other →
      other = info ∨ IsLoggedIn server other ∧ other.mcode ≠ info.mcode ∧
        other.mcode ≠ client.mcode := by
  rintro ⟨otherMember, isIn⟩
  rcases (logged_in_entries authenticated.listed member accepted).mp otherMember with same |
    ⟨before, different, notOwn⟩
  · exact .inl same
  · apply Or.inr
    have after : (loggedIn client info cleared).accepted = cleared.accepted ++ [info.ws] := rfl
    rw [after] at isIn
    rcases List.mem_append.mp isIn with earlier | added
    · refine ⟨⟨before, ?_⟩, different, notOwn⟩
      apply cleared_of_closed (fun state => ∀ ws ∈ state.accepted, ws ∈ server.accepted) accepted
        (fun _ isIn => isIn) _ other.ws earlier
      intro gone following closed ws kept
      rw [closed.accepted] at kept
      exact (List.mem_filter.mp kept).1
    · have own : other = client := by
        apply List.inj_on_of_nodup_map authenticated.listed.distinct before member
        rw [List.mem_singleton.mp added, accepted.socket]
      exact absurd (congrArg Client.mcode own) notOwn

theorem stays_logged_in {cleared : Server} (authenticated : Authenticated server)
    (member : client ∈ server.clientList.entries)
    (accepted : Accepted server client info dbCall lib cleared) {other : Client}
    (isIn : IsLoggedIn server other) (different : other.mcode ≠ info.mcode)
    (notOwn : other.mcode ≠ client.mcode) : IsLoggedIn (loggedIn client info cleared) other := by
  constructor
  · exact (logged_in_entries authenticated.listed member accepted).mpr
      (.inr ⟨isIn.1, different, notOwn⟩)
  · have kept : other.ws ∈ cleared.accepted := by
      rcases accepted.freed with ⟨_, same⟩ | ⟨gone, found, closed⟩
      · rw [same]
        exact isIn.2
      · obtain ⟨goneMember, goneMcode⟩ := find_some found
        rw [closed.accepted, List.mem_filter, decide_eq_true_eq]
        refine ⟨isIn.2, ?_⟩
        intro sameWs
        apply different
        rw [← goneMcode,
          List.inj_on_of_nodup_map authenticated.listed.distinct isIn.1 goneMember sameWs]
    exact List.mem_append_left _ kept

theorem sender_logged_in {cleared : Server} (authenticated : Authenticated server)
    (member : client ∈ server.clientList.entries)
    (accepted : Accepted server client info dbCall lib cleared) :
    IsLoggedIn (loggedIn client info cleared) info :=
  ⟨(logged_in_entries authenticated.listed member accepted).mpr (.inl rfl),
    List.mem_append_right _ List.mem_cons_self⟩

/-- The logged-in clients stay distinct members exactly when no other one is the
new member under another string. -/
theorem logged_in_once_iff {cleared : Server} (authenticated : Authenticated server)
    (member : client ∈ server.clientList.entries)
    (accepted : Accepted server client info dbCall lib cleared) :
    MembersOnce (loggedIn client info cleared) ↔
      ∀ other, IsLoggedIn server other → other ≠ client → SameMember other info →
        other.mcode = info.mcode := by
  constructor
  · intro once other isIn notClient same
    by_contra different
    have notOwn : other.mcode ≠ client.mcode :=
      fun own => notClient (item_eq_of_key isIn.1 member own)
    have stays := stays_logged_in authenticated member accepted isIn different notOwn
    have identical := once other info stays (sender_logged_in authenticated member accepted) same
    exact different (congrArg Client.mcode identical)
  · intro distinct left right leftIn rightIn same
    have apart : ∀ other, IsLoggedIn server other → other.mcode ≠ info.mcode →
        other.mcode ≠ client.mcode → ¬SameMember other info := by
      intro other isIn different notOwn sameInfo
      exact different (distinct other isIn (fun own => notOwn (congrArg Client.mcode own)) sameInfo)
    rcases logged_in_after authenticated member accepted leftIn with rfl |
      ⟨leftWas, leftNew, leftOwn⟩
    · rcases logged_in_after authenticated member accepted rightIn with rfl |
        ⟨rightWas, rightNew, rightOwn⟩
      · rfl
      · exact absurd (Eq.symm same) (apart right rightWas rightNew rightOwn)
    · rcases logged_in_after authenticated member accepted rightIn with rfl |
        ⟨rightWas, rightNew, rightOwn⟩
      · exact absurd same (apart left leftWas leftNew leftOwn)
      · exact authenticated.once left right leftWas rightWas same

end Members

section Steps

variable {server following : Server} {client : Client} {json : Json} {dbCall : DbCall} {lib : Libav}

theorem msg_descends (authenticated : Authenticated server)
    (done : MsgDone server client json dbCall lib following)
    (noLogin : ∀ info cleared, Presents json info →
      ¬Accepted server client info dbCall lib cleared) : Descends server following := by
  have unchanged : Descends server server := fun other isIn => ⟨other, isIn, rfl, rfl⟩
  cases done with
  | idle => exact unchanged
  | input input granted => exact unchanged
  | authority addresses granted found updated =>
      exact descends_of_modify (fun _ => rfl) (fun _ => rfl)
  | chief addresses granted found updated => exact descends_hand_over _ _
  | accepted presents accepts => exact absurd accepts (noLogin _ _ presents)
  | rejected isSetting closed => exact descends_closed authenticated.listed closed
  | mode isLoggedIn granted changed => exact unchanged

theorem accepts_of_accepted {ws : WebSocket} {info : Client} {cleared : Server}
    (found : findWs server.clientList ws = some client) (presents : Presents json info)
    (accepted : Accepted server client info dbCall lib cleared) :
    Accepts server ws (some json) dbCall client info :=
  ⟨found, accepted.socket, ⟨json, rfl, presents⟩, accepted.suited⟩

theorem step_once {event : ServerEvent} (authenticated : Authenticated server)
    (distinct : DistinctLogins server event) (stepped : step server event = some following) :
    MembersOnce following := by
  have listed := step_listed authenticated.listed stepped
  cases step_done stepped with
  | opens fresh =>
      exact descends_once authenticated.once listed (descends_opened authenticated fresh _)
  | @messages ws message dbCall lib _ client json isOpen found parsed done =>
      by_cases login : ∃ info cleared, Presents json info ∧
          Accepted server client info dbCall lib cleared
      · obtain ⟨info, cleared, presents, accepted⟩ := login
        have accepts := accepts_of_accepted found presents accepted
        rw [← parsed] at accepts
        obtain ⟨other, apart⟩ := distinct client info accepts
        have member := (find_ws_some found).1
        obtain ⟨after, reaccepted, reached⟩ := accepts_step authenticated.listed accepts other lib
        rw [stepped] at reached
        rw [Option.some.inj reached]
        exact (logged_in_once_iff authenticated member reaccepted).mpr apart
      · apply descends_once authenticated.once listed
        apply msg_descends authenticated done
        intro info cleared presents accepted
        exact login ⟨info, cleared, presents, accepted⟩
  | closes isOpen closed =>
      exact descends_once authenticated.once listed (descends_closed authenticated.listed closed)
  | packet running written => exact authenticated.once
  | resizes running => exact authenticated.once
  | hostChanges => exact authenticated.once
  | databaseChanges => exact authenticated.once

theorem closed_connected {ws : WebSocket} (authenticated : Authenticated server)
    (closed : Closed server ws lib following) :
    ∀ other ∈ following.accepted, other ∈ following.sockets := by
  intro other isIn
  rw [closed.accepted, List.mem_filter] at isIn
  rw [closed.sockets, List.mem_filter]
  exact ⟨authenticated.connected other isIn.1, isIn.2⟩

theorem msg_connected (authenticated : Authenticated server)
    (member : client ∈ server.clientList.entries)
    (done : MsgDone server client json dbCall lib following) :
    ∀ other ∈ following.accepted, other ∈ following.sockets := by
  cases done with
  | idle => exact authenticated.connected
  | input input granted => exact authenticated.connected
  | authority addresses granted found updated => exact authenticated.connected
  | chief addresses granted found updated => exact authenticated.connected
  | @accepted info cleared presents accepts =>
      obtain ⟨clearedListed, kept, -, -⟩ := accepted_cleared authenticated.listed member accepts
      have before : ∀ other ∈ cleared.accepted, other ∈ cleared.sockets :=
        cleared_of_closed (fun state => ∀ other ∈ state.accepted, other ∈ state.sockets) accepts
          authenticated.connected (fun _ _ closed => closed_connected authenticated closed)
      intro other isIn
      rcases List.mem_append.mp isIn with earlier | added
      · exact before other earlier
      · rw [List.mem_singleton.mp added, accepts.socket]
        exact clearedListed.connected client.ws (List.mem_map_of_mem (f := Client.ws) kept)
  | rejected isSetting closed => exact closed_connected authenticated closed
  | mode isLoggedIn granted changed => exact authenticated.connected

theorem step_connected {event : ServerEvent} (authenticated : Authenticated server)
    (stepped : step server event = some following) :
    ∀ other ∈ following.accepted, other ∈ following.sockets := by
  cases step_done stepped with
  | @opens ws lib fresh =>
      have joined := on_open_joined server ws lib
      intro other isIn
      rw [joined.accepted] at isIn
      rw [joined.sockets]
      exact List.mem_append_left _ (authenticated.connected other isIn)
  | messages isOpen found parsed done =>
      exact msg_connected authenticated (find_ws_some found).1 done
  | closes isOpen closed => exact closed_connected authenticated closed
  | packet running written => exact authenticated.connected
  | resizes running => exact authenticated.connected
  | hostChanges => exact authenticated.connected
  | databaseChanges => exact authenticated.connected

theorem takes_effect {event : ServerEvent} (authenticated : Authenticated server)
    (distinct : DistinctLogins server event) : TakesEffect server event := by
  cases event with
  | messages ws message dbCall lib =>
      intro client info accepts
      obtain ⟨other, apart⟩ := distinct client info accepts
      obtain ⟨member, sameWs⟩ := find_ws_some accepts.found
      obtain ⟨cleared, accepted, stepped⟩ := accepts_step authenticated.listed accepts other lib
      have listed := step_listed authenticated.listed stepped
      have entries := fun held => @logged_in_entries _ _ _ _ _ _ authenticated.listed member
        accepted held
      have infoWs : info.ws = ws := accepts.socket.trans sameWs
      refine ⟨_, stepped, ?_, ?_⟩
      · rw [← infoWs]
        exact find_ws_of_mem listed.distinct ((entries info).mpr (.inl rfl))
      · intro earlier isIn notWs same
        have notClient : earlier ≠ client := fun own => notWs (own ▸ sameWs)
        have mcode := apart earlier isIn notClient same
        have found : server.clientList.find info.mcode = some earlier := by
          rw [← mcode]
          exact find_of_mem isIn.1
        obtain ⟨free, -⟩ | ⟨taken, takenFound, closed⟩ := accepted.freed
        · rw [found] at free
          cases free
        · rw [found] at takenFound
          rw [← Option.some.inj takenFound] at closed
          constructor
          · have sockets : (loggedIn client info cleared).sockets = cleared.sockets := rfl
            rw [sockets, closed.sockets, List.mem_filter]
            simp
          · intro left
            obtain ⟨held, heldMember, heldWs⟩ := List.mem_map.mp left
            rcases (entries held).mp heldMember with rfl | ⟨before, different, _⟩
            · exact notWs (heldWs.symm.trans infoWs)
            · apply different
              rw [← mcode,
                List.inj_on_of_nodup_map authenticated.listed.distinct before isIn.1 heldWs]
  | opens ws lib => trivial
  | closes ws lib => trivial
  | packet bytes => trivial
  | resizes width height lib => trivial
  | hostChanges host => trivial
  | databaseChanges db => trivial

theorem logs_in_once_iff {event : ServerEvent} (authenticated : Authenticated server) :
    LogsInOnce server event ↔ DistinctLogins server event := by
  constructor
  · rintro ⟨effect, once⟩
    cases event with
    | messages ws message dbCall lib =>
        intro client info accepts
        have member := (find_ws_some accepts.found).1
        have other : info.mcode ≠ client.mcode := by
          intro own
          obtain ⟨following, stepped, -⟩ := effect client info accepts
          rw [own_mcode_undefined authenticated.listed accepts own lib] at stepped
          cases stepped
        obtain ⟨cleared, accepted, stepped⟩ := accepts_step authenticated.listed accepts other lib
        refine ⟨other, ?_⟩
        exact (logged_in_once_iff authenticated member accepted).mp (once _ stepped)
    | opens ws lib => trivial
    | closes ws lib => trivial
    | packet bytes => trivial
    | resizes width height lib => trivial
    | hostChanges host => trivial
    | databaseChanges db => trivial
  · intro distinct
    exact ⟨takes_effect authenticated distinct,
      fun _ stepped => step_once authenticated distinct stepped⟩

end Steps

/-- For every sequence of events, every accepted SETTING takes effect and no
member is logged in twice exactly when the accepted SETTINGs are distinct. -/
theorem logs_in_once_along_iff (db : Database) (host : ClbContext) (eCtx : EncoderContext)
    (audioBytes : Int) (events : List ServerEvent) :
    Along step LogsInOnce (startServer db host eCtx audioBytes) events ↔
      Along step DistinctLogins (startServer db host eCtx audioBytes) events := by
  apply along_iff_of_invariant (fun _ _ => True) Authenticated
  · intro server event authenticated _
    exact logs_in_once_iff authenticated
  · intro server event following authenticated _ once stepped
    constructor
    · exact step_listed authenticated.listed stepped
    · exact step_connected authenticated stepped
    · exact once.2 following stepped
  · constructor
    · exact start_listed db host eCtx audioBytes
    · intro ws isIn
      cases isIn
    · rintro left right ⟨member, _⟩
      cases member
  · exact along_of_forall (fun _ _ => trivial) events

def loggedInTwice : List ServerEvent :=
  [opensEvent 1, settingEvent 1 "a", opensEvent 2, settingEvent 2 "a\x00b"]

/-- Both connections are logged in as the member `a`, both as chief, and a client
that presents its own `mcode` again leaves the defined behaviour. -/
theorem member_logged_in_twice :
    ((after step sampleServer loggedInTwice).clientList.entries.map fun client =>
        (client.ws, cStr client.mcode, client.chief)) =
        [(1, ascii "a", true), (2, ascii "a", true)] ∧
      (after step sampleServer loggedInTwice).accepted = [1, 2] ∧
      step (after step sampleServer (loggedInTwice.take 2)) (settingEvent 1 "a") = none ∧
      ¬Along step LogsInOnce sampleServer loggedInTwice := by
  refine ⟨rfl, rfl, rfl, ?_⟩
  intro along
  have once := (((along.2 _ rfl).2 _ rfl).2 _ rfl).1.2 _ rfl
  have first : IsLoggedIn (after step sampleServer loggedInTwice)
      { ws := 1, chief := true, authority := true, role := 0, mcode := ascii "a",
        mscode := ascii "MWZyb20=", custom := [], name := [] } := by
    constructor
    · decide
    · decide
  have second : IsLoggedIn (after step sampleServer loggedInTwice)
      { ws := 2, chief := true, authority := true, role := 0, mcode := ascii "a\x00b",
        mscode := ascii "MWZyb20=", custom := [], name := [] } := by
    constructor
    · decide
    · decide
  exact absurd (once _ _ first second rfl) (by decide)

end Collabo.LoginIdentity
