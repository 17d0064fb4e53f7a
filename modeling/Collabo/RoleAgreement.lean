import Collabo.LoginPrivileges

/-!
# Privileges in the table and roles in the database

AUTHORITY and CHIEF change the two flags of an entry and the role of a
participant row. A role of 0 stands for both flags, 1 for authority alone and 2
for none. The two stores part where AUTHORITY takes the authority of a chief,
where two clients are one participant, and where the text of the meeting makes an
UPDATE change other rows.
-/

namespace Collabo.RoleAgreement

open UniqueTable PartialRuns Collabo.CString Collabo.MySQLConnector Collabo.ClientTable
  Collabo.EncoderSession Collabo.MediaStream Collabo.CollaboServer Collabo.ServerSteps
  Collabo.ListedConnections Collabo.LoginPrivileges

set_option autoImplicit false

def RolesKnown (db : Database) : Prop :=
  ∀ meet mnum text, db.role meet mnum = some (some text) →
    roleNumber text = 0 ∨ roleNumber text = 1 ∨ roleNumber text = 2

/-- The row that SETTING read the client's role from. -/
def AtRow (db : Database) (client : Client) (meet mnum : Int) : Prop :=
  RowOf db (cStr client.mcode) (cStr client.mscode) meet mnum

structure FlagsOf (role : Int) (client : Client) : Prop where
  chief : client.chief = true ↔ role = 0
  authority : client.authority = true ↔ role = 0 ∨ role = 1

def Agrees (db : Database) (client : Client) : Prop :=
  ∃ meet mnum text, AtRow db client meet mnum ∧ db.role meet mnum = some (some text) ∧
    FlagsOf (roleNumber text) client

def PrivilegesAgree (server : Server) : Prop :=
  ∀ client ∈ server.clientList.entries, client.role ≠ -1 → Agrees server.db client

/-- Another accepted SETTING would leave the client the privileges it has. -/
def LogsInAsIs (db : Database) (client : Client) : Prop :=
  ∀ dbCall checkAuth checkChief role suited,
    isSuited db dbCall (cStr client.mcode) (cStr client.mscode) checkAuth checkChief role =
      .done suited → suited.result = true →
    suited.checkAuth = client.authority ∧ suited.checkChief = client.chief

def SharesRow (db : Database) (left right : Client) : Prop :=
  ∃ meet mnum, AtRow db left meet mnum ∧ AtRow db right meet mnum

def SameMeeting (db : Database) (left right : Client) : Prop :=
  ∃ meet leftMnum rightMnum, AtRow db left meet leftMnum ∧ AtRow db right meet rightMnum

/-- No logged-in client but `owner` has the row of `owner`. -/
def AloneAtRow (server : Server) (owner : Client) : Prop :=
  ∀ other ∈ server.clientList.entries, other.role ≠ -1 → other ≠ owner →
    ¬SharesRow server.db other owner

/-- Every database call succeeds, nothing else changes the database, and what a
chief addresses is a logged-in client of the same meeting. -/
def Assumed (server : Server) : ServerEvent → Prop
  | .messages ws message dbCall _ =>
      dbCall = .succeeds ∧
        ∀ client json dst, findWs server.clientList ws = some client → message = some json →
          client.chief = true → dst ∈ server.clientList.entries →
          Addresses json 2 dst.mcode ∨ Addresses json 3 dst.mcode →
          dst.role ≠ -1 ∧ SameMeeting server.db client dst
  | .opens _ _ => True
  | .closes _ _ => True
  | .packet _ => True
  | .resizes _ _ _ => True
  | .hostChanges _ => True
  | .databaseChanges _ => False

def RowsStay (server : Server) (db : Database) : Prop :=
  ∀ client ∈ server.clientList.entries, client.role ≠ -1 → ∀ meet mnum,
    AtRow server.db client meet mnum → AtRow db client meet mnum

def authorityText (authority : Bool) : ByteString :=
  if authority then ascii "1" else ascii "2"

/-- The UPDATE of an AUTHORITY for `dst` changes the row of `dst` alone. -/
def AuthorityInPlace (server : Server) (dst : Client) : Prop :=
  ∀ meet mnum, AtRow server.db dst meet mnum →
    Hits server.db .quoted (cStr dst.mcode) (cStr dst.mscode) meet mnum ∧
      RowsStay server (server.db.setRole meet mnum (authorityText !dst.authority))

/-- The first UPDATE of a CHIEF changes the row of `src` alone, and the second that of
`dst`. Both have the meeting of `src`. -/
def ChiefInPlace (server : Server) (src dst : Client) : Prop :=
  ∀ srcMeet srcMnum dstMeet dstMnum, AtRow server.db src srcMeet srcMnum →
    AtRow server.db dst dstMeet dstMnum →
    Hits server.db .bare (cStr src.mcode) (cStr src.mscode) srcMeet srcMnum ∧
      Hits (server.db.setRole srcMeet srcMnum (ascii "1")) .bare (cStr dst.mcode)
        (cStr src.mscode) dstMeet dstMnum ∧
      RowsStay server
        ((server.db.setRole srcMeet srcMnum (ascii "1")).setRole dstMeet dstMnum (ascii "0"))

/-- A chief gives or takes the authority only of a client that is no chief and is
alone at its row. Where a chief hands over to another client, it is alone at its
own row and the other is at its own, unless that one was a chief already. The
UPDATEs change the rows of these clients and no others. -/
def RowsKeptApart (server : Server) : ServerEvent → Prop
  | .messages ws message _ _ =>
      ∀ client json dst, findWs server.clientList ws = some client → message = some json →
        client.chief = true → dst ∈ server.clientList.entries →
        (Addresses json 2 dst.mcode →
            dst.chief = false ∧ AloneAtRow server dst ∧ AuthorityInPlace server dst) ∧
          (Addresses json 3 dst.mcode → ChiefInPlace server client dst ∧
            (dst ≠ client →
              AloneAtRow server client ∧ (dst.chief = true ∨ AloneAtRow server dst)))
  | .opens _ _ => True
  | .closes _ _ => True
  | .packet _ => True
  | .resizes _ _ _ => True
  | .hostChanges _ => True
  | .databaseChanges _ => True

def Permitted (server : Server) (event : ServerEvent) : Prop :=
  Assumed server event ∧ RowsKeptApart server event

section Rows

variable {db : Database} {client : Client} {meet mnum : Int} {text : ByteString}

theorem set_role_here {old : ByteString} (present : db.role meet mnum = some (some old))
    (text : ByteString) : (db.setRole meet mnum text).role meet mnum = some (some text) := by
  simp [Database.setRole, present]

theorem set_role_elsewhere {otherMeet otherMnum : Int} (text : ByteString)
    (different : ¬(otherMeet = meet ∧ otherMnum = mnum)) :
    (db.setRole meet mnum text).role otherMeet otherMnum = db.role otherMeet otherMnum :=
  if_neg different

theorem set_role_twice (db : Database) (meet mnum : Int) (first second : ByteString) :
    (db.setRole meet mnum first).setRole meet mnum second = db.setRole meet mnum second := by
  unfold Database.setRole
  congr 1
  funext otherMeet otherMnum
  by_cases same : otherMeet = meet ∧ otherMnum = mnum
  · simp [same, Function.comp_def]
  · simp [same]

theorem set_role_known (known : RolesKnown db)
    (number : roleNumber text = 0 ∨ roleNumber text = 1 ∨ roleNumber text = 2) (meet mnum : Int) :
    RolesKnown (db.setRole meet mnum text) := by
  intro otherMeet otherMnum other stored
  by_cases same : otherMeet = meet ∧ otherMnum = mnum
  · simp only [Database.setRole, if_pos same, Option.map_eq_some_iff] at stored
    obtain ⟨_, _, written⟩ := stored
    rw [← Option.some.inj written]
    exact number
  · rw [set_role_elsewhere text same] at stored
    exact known otherMeet otherMnum other stored

theorem agrees_kept {after : Database} (agrees : Agrees db client)
    (stays : ∀ meet mnum, AtRow db client meet mnum → AtRow after client meet mnum)
    (kept : ∀ meet mnum old, AtRow db client meet mnum → db.role meet mnum = some (some old) →
      ∃ new, after.role meet mnum = some (some new) ∧ roleNumber new = roleNumber old) :
    Agrees after client := by
  obtain ⟨meet, mnum, old, row, stored, flags⟩ := agrees
  obtain ⟨new, written, number⟩ := kept meet mnum old row stored
  exact ⟨meet, mnum, new, stays meet mnum row, written, number ▸ flags⟩

theorem set_role_number {otherMeet otherMnum : Int} {old : ByteString}
    (present : db.role otherMeet otherMnum = some (some old))
    (same : otherMeet = meet ∧ otherMnum = mnum → roleNumber old = roleNumber text) :
    ∃ new, (db.setRole meet mnum text).role otherMeet otherMnum = some (some new) ∧
      roleNumber new = roleNumber old := by
  by_cases here : otherMeet = meet ∧ otherMnum = mnum
  · refine ⟨text, ?_, (same here).symm⟩
    obtain ⟨rfl, rfl⟩ := here
    exact set_role_here present text
  · exact ⟨old, (set_role_elsewhere text here).trans present, rfl⟩

theorem flags_of_agrees (agrees : Agrees db client) (row : AtRow db client meet mnum) :
    ∃ old, db.role meet mnum = some (some old) ∧ FlagsOf (roleNumber old) client := by
  obtain ⟨ownMeet, ownMnum, old, own, stored, flags⟩ := agrees
  obtain ⟨rfl, rfl⟩ := row_of_unique own row
  exact ⟨old, stored, flags⟩

theorem granted_by_known {role : Int} (known : role = 0 ∨ role = 1 ∨ role = 2)
    (checkAuth checkChief : Bool) :
    FlagsOf role client ↔
      grantedBy role checkAuth checkChief = (client.authority, client.chief) := by
  have split : FlagsOf role client ↔ (client.chief = true ↔ role = 0) ∧
      (client.authority = true ↔ role = 0 ∨ role = 1) :=
    ⟨fun flags => ⟨flags.chief, flags.authority⟩, fun flags => ⟨flags.1, flags.2⟩⟩
  rw [split]
  rcases known with rfl | rfl | rfl
  all_goals
    cases client.chief <;> cases client.authority <;> simp [grantedBy]

theorem logs_in_as_is (known : RolesKnown db) (agrees : Agrees db client) :
    LogsInAsIs db client := by
  intro dbCall checkAuth checkChief role suited answer result
  obtain ⟨meet, mnum, text, row, stored, -, granted⟩ := is_suited_accepts answer result
  obtain ⟨old, sameStored, flags⟩ := flags_of_agrees agrees row
  rw [stored] at sameStored
  rw [← Option.some.inj (Option.some.inj sameStored)] at flags
  have own := (granted_by_known (known meet mnum text stored) checkAuth checkChief).mp flags
  exact Prod.mk.inj (granted.trans own)

end Rows

section Steps

variable {server following : Server} {client dst : Client} {json : Json} {dbCall : DbCall}
  {lib : Libav}

structure Agreeing (server : Server) : Prop where
  guarded : Guarded server
  known : RolesKnown server.db
  agree : PrivilegesAgree server

structure Stores (clientList : ClientList) (db : Database) : Prop where
  known : RolesKnown db
  agree : ∀ client ∈ clientList.entries, client.role ≠ -1 → Agrees db client

theorem stores_of_agreeing (agreeing : Agreeing server) : Stores server.clientList server.db :=
  ⟨agreeing.known, agreeing.agree⟩

theorem authority_text_written (authority : Bool) :
    roleNumber (authorityText authority) = if authority then 1 else 2 := by
  cases authority <;> decide

theorem authority_stores {db : Database} (agreeing : Agreeing server)
    (dstMember : dst ∈ server.clientList.entries) (hasRole : dst.role ≠ -1)
    (noChief : dst.chief = false) (alone : AloneAtRow server dst)
    (inPlace : AuthorityInPlace server dst)
    (updated : MySQLConnector.changeAuth server.db .succeeds (cStr dst.mcode) (!dst.authority)
      (cStr dst.mscode) = .done db) :
    Stores (server.clientList.modify dst.mcode (ClientTable.changeAuth !dst.authority)) db := by
  obtain ⟨meet, mnum, text, row, stored, -⟩ := agreeing.agree dst dstMember hasRole
  obtain ⟨hits, stay⟩ := inPlace meet mnum row
  have written : db = server.db.setRole meet mnum (authorityText !dst.authority) :=
    change_auth_done hits updated
  rw [written]
  constructor
  · apply set_role_known agreeing.known
    cases dst.authority <;> decide
  · intro other member present
    rcases (mem_modify (ClientTable.changeAuth !dst.authority) (fun _ => rfl)).mp member with
      ⟨held, heldMember, same, rfl⟩ | ⟨before, different⟩
    · rw [item_eq_of_key heldMember dstMember same]
      refine ⟨meet, mnum, _, stay dst dstMember hasRole meet mnum row, set_role_here stored _, ?_⟩
      rw [authority_text_written]
      constructor
      · simp only [ClientTable.changeAuth, noChief]
        cases dst.authority <;> decide
      · simp only [ClientTable.changeAuth]
        cases dst.authority <;> decide
    · apply agrees_kept (agreeing.agree other before present) (stay other before present)
      intro otherMeet otherMnum old otherRow oldStored
      apply set_role_number oldStored
      rintro ⟨rfl, rfl⟩
      apply absurd _ (alone other before present _)
      · exact ⟨otherMeet, otherMnum, otherRow, row⟩
      · intro own
        exact different (congrArg Client.mcode own)

def handed (src dst : ByteString) (client : Client) : Client :=
  if client.mcode = dst then ClientTable.changeAuth true (ClientTable.changeChief true client)
  else if client.mcode = src then ClientTable.changeChief false client
  else client

theorem hand_over_entries (server : Server) (src dst : ByteString) :
    (handOver server src dst).clientList.entries =
      server.clientList.entries.map (handed src dst) := by
  unfold handOver modifyClient
  dsimp only
  rw [modify_entries (ClientTable.changeAuth true) (fun _ => rfl),
    modify_entries (ClientTable.changeChief true) (fun _ => rfl),
    modify_entries (ClientTable.changeChief false) (fun _ => rfl), List.map_map, List.map_map]
  apply List.map_congr_left
  intro held _
  unfold handed
  by_cases isDst : held.mcode = dst
  · subst isDst
    by_cases isSrc : held.mcode = src
    · simp [isSrc, ClientTable.changeChief, ClientTable.changeAuth]
    · simp [isSrc, ClientTable.changeChief, ClientTable.changeAuth]
  · by_cases isSrc : held.mcode = src
    · subst isSrc
      simp [isDst, ClientTable.changeChief, ClientTable.changeAuth]
    · simp [isDst, isSrc, ClientTable.changeChief, ClientTable.changeAuth]

theorem handed_role (src dst : ByteString) (client : Client) :
    (handed src dst client).role = client.role := by
  unfold handed
  split_ifs
  · rfl
  · rfl
  · rfl

theorem handed_mcode (src dst : ByteString) (client : Client) :
    (handed src dst client).mcode = client.mcode := by
  unfold handed
  split_ifs
  · rfl
  · rfl
  · rfl

theorem handed_mscode (src dst : ByteString) (client : Client) :
    (handed src dst client).mscode = client.mscode := by
  unfold handed
  split_ifs
  · rfl
  · rfl
  · rfl

theorem chief_text_number : roleNumber (ascii "0") = 0 := by
  decide

theorem authority_text_number : roleNumber (ascii "1") = 1 := by
  decide

theorem chief_written {db : Database} {srcMeet srcMnum dstMeet dstMnum : Int}
    (srcRow : AtRow server.db client srcMeet srcMnum) (dstRow : AtRow server.db dst dstMeet dstMnum)
    (inPlace : ChiefInPlace server client dst)
    (updated : MySQLConnector.changeChief server.db .succeeds (cStr client.mcode) (cStr dst.mcode)
      (cStr client.mscode) = .done db) :
    db = (server.db.setRole srcMeet srcMnum (ascii "1")).setRole dstMeet dstMnum (ascii "0") ∧
      RowsStay server db := by
  obtain ⟨srcHits, dstHits, stay⟩ := inPlace srcMeet srcMnum dstMeet dstMnum srcRow dstRow
  have written := change_chief_done srcHits dstHits updated
  rw [written]
  exact ⟨rfl, stay⟩

theorem chief_itself_stores {db : Database} {meet mnum : Int} (agreeing : Agreeing server)
    (member : client ∈ server.clientList.entries) (granted : client.chief = true)
    (row : AtRow server.db client meet mnum) (inPlace : ChiefInPlace server client client)
    (updated : MySQLConnector.changeChief server.db .succeeds (cStr client.mcode)
      (cStr client.mcode) (cStr client.mscode) = .done db) :
    Stores (handOver server client.mcode client.mcode).clientList db := by
  have hasRole := privileged_has_role agreeing.guarded member (.inr granted)
  obtain ⟨text, stored, flags⟩ := flags_of_agrees (agreeing.agree client member hasRole) row
  have number : roleNumber text = 0 := flags.chief.mp granted
  obtain ⟨written, stay⟩ := chief_written row row inPlace updated
  rw [written, set_role_twice] at stay ⊢
  constructor
  · exact set_role_known agreeing.known (by decide) meet mnum
  · intro other otherMember present
    rw [hand_over_entries] at otherMember
    obtain ⟨held, heldMember, rfl⟩ := List.mem_map.mp otherMember
    rw [handed_role] at present
    by_cases own : held.mcode = client.mcode
    · have same : held = client := item_eq_of_key heldMember member own
      rw [handed, if_pos own, same]
      refine ⟨meet, mnum, _, stay client member hasRole meet mnum row, set_role_here stored _, ?_⟩
      rw [chief_text_number]
      exact ⟨iff_of_true rfl rfl, iff_of_true rfl (.inl rfl)⟩
    · rw [handed, if_neg own, if_neg own]
      apply agrees_kept (agreeing.agree held heldMember present) (stay held heldMember present)
      intro heldMeet heldMnum old _ oldStored
      apply set_role_number oldStored
      rintro ⟨rfl, rfl⟩
      rw [stored] at oldStored
      rw [← Option.some.inj (Option.some.inj oldStored), number]
      decide

/-- The role of a client that has neither of the two rows, or that of a chief who
stays one. -/
theorem bystander_number {held : Client} {srcMeet srcMnum dstMeet dstMnum heldMeet heldMnum : Int}
    {dstText old : ByteString} (heldRow : AtRow server.db held heldMeet heldMnum)
    (oldStored : server.db.role heldMeet heldMnum = some (some old))
    (srcRow : AtRow server.db client srcMeet srcMnum)
    (dstRow : AtRow server.db dst dstMeet dstMnum)
    (dstStored : server.db.role dstMeet dstMnum = some (some dstText))
    (notSrc : ¬SharesRow server.db held client)
    (notDst : roleNumber dstText = 0 ∨ ¬SharesRow server.db held dst) :
    ∃ new, ((server.db.setRole srcMeet srcMnum (ascii "1")).setRole dstMeet dstMnum
      (ascii "0")).role heldMeet heldMnum = some (some new) ∧ roleNumber new = roleNumber old := by
  have apart : ¬(heldMeet = srcMeet ∧ heldMnum = srcMnum) := by
    rintro ⟨rfl, rfl⟩
    exact notSrc ⟨heldMeet, heldMnum, heldRow, srcRow⟩
  rw [← set_role_elsewhere (ascii "1") apart] at oldStored
  apply set_role_number oldStored
  rintro ⟨rfl, rfl⟩
  rcases notDst with stays | notDst
  · rw [set_role_elsewhere (ascii "1") apart, dstStored] at oldStored
    rw [← Option.some.inj (Option.some.inj oldStored), stays, chief_text_number]
  · exact absurd ⟨heldMeet, heldMnum, heldRow, dstRow⟩ notDst

/-- A chief that hands over to another client leaves it chief and itself with
authority. -/
theorem chief_other_stores {db : Database} {srcMeet srcMnum dstMeet dstMnum : Int}
    (agreeing : Agreeing server)
    (member : client ∈ server.clientList.entries) (granted : client.chief = true)
    (dstMember : dst ∈ server.clientList.entries) (hasRole : dst.role ≠ -1)
    (srcRow : AtRow server.db client srcMeet srcMnum) (dstRow : AtRow server.db dst dstMeet dstMnum)
    (different : dst ≠ client) (srcAlone : AloneAtRow server client)
    (dstAlone : dst.chief = true ∨ AloneAtRow server dst)
    (inPlace : ChiefInPlace server client dst)
    (updated : MySQLConnector.changeChief server.db .succeeds (cStr client.mcode) (cStr dst.mcode)
      (cStr client.mscode) = .done db) :
    Stores (handOver server client.mcode dst.mcode).clientList db := by
  have srcHasRole := privileged_has_role agreeing.guarded member (.inr granted)
  obtain ⟨srcText, srcStored, srcFlags⟩ :=
    flags_of_agrees (agreeing.agree client member srcHasRole) srcRow
  obtain ⟨dstText, dstStored, dstFlags⟩ :=
    flags_of_agrees (agreeing.agree dst dstMember hasRole) dstRow
  have srcNumber : roleNumber srcText = 0 := srcFlags.chief.mp granted
  have separate : ¬(srcMeet = dstMeet ∧ srcMnum = dstMnum) := by
    rintro ⟨rfl, rfl⟩
    exact srcAlone dst dstMember hasRole different ⟨srcMeet, srcMnum, dstRow, srcRow⟩
  have dstKept : (server.db.setRole srcMeet srcMnum (ascii "1")).role dstMeet dstMnum =
      some (some dstText) := by
    rw [set_role_elsewhere _ fun same => separate ⟨same.1.symm, same.2.symm⟩, dstStored]
  obtain ⟨written, stay⟩ := chief_written srcRow dstRow inPlace updated
  rw [written] at stay ⊢
  constructor
  · exact set_role_known (set_role_known agreeing.known (by decide) srcMeet srcMnum) (by decide)
      dstMeet dstMnum
  · intro other otherMember present
    rw [hand_over_entries] at otherMember
    obtain ⟨held, heldMember, rfl⟩ := List.mem_map.mp otherMember
    rw [handed_role] at present
    -- the new chief, the old one, and then every other client
    by_cases isDst : held.mcode = dst.mcode
    · have same : held = dst := item_eq_of_key heldMember dstMember isDst
      rw [handed, if_pos isDst, same]
      refine ⟨dstMeet, dstMnum, _, stay dst dstMember hasRole dstMeet dstMnum dstRow,
        set_role_here dstKept _, ?_⟩
      rw [chief_text_number]
      exact ⟨iff_of_true rfl rfl, iff_of_true rfl (.inl rfl)⟩
    by_cases isSrc : held.mcode = client.mcode
    · have same : held = client := item_eq_of_key heldMember member isSrc
      rw [handed, if_neg isDst, if_pos isSrc, same]
      refine ⟨srcMeet, srcMnum, ascii "1", stay client member srcHasRole srcMeet srcMnum srcRow,
        ?_, ?_⟩
      · rw [set_role_elsewhere _ separate, set_role_here srcStored]
      · rw [authority_text_number]
        have authority : client.authority = true := srcFlags.authority.mpr (.inl srcNumber)
        exact ⟨iff_of_false Bool.false_ne_true (by decide), iff_of_true authority (.inr rfl)⟩
    · rw [handed, if_neg isDst, if_neg isSrc]
      have notDst : held ≠ dst := fun own => isDst (congrArg Client.mcode own)
      have notSrc : held ≠ client := fun own => isSrc (congrArg Client.mcode own)
      apply agrees_kept (agreeing.agree held heldMember present) (stay held heldMember present)
      intro heldMeet heldMnum old heldRow oldStored
      apply bystander_number heldRow oldStored srcRow dstRow dstStored
      · exact srcAlone held heldMember present notSrc
      · rcases dstAlone with wasChief | alone
        · exact .inl (dstFlags.chief.mp wasChief)
        · exact .inr (alone held heldMember present notDst)

theorem accepted_stores {info : Client} {cleared : Server} (agreeing : Agreeing server)
    (member : client ∈ server.clientList.entries)
    (accepts : Accepted server client info dbCall lib cleared) :
    Stores (loggedIn client info cleared).clientList (loggedIn client info cleared).db := by
  have db : (loggedIn client info cleared).db = server.db := by
    have kept : (loggedIn client info cleared).db = cleared.db := rfl
    rw [kept]
    exact cleared_of_closed (fun state => state.db = server.db) accepts rfl
      (fun _ _ closed => closed.db)
  rw [db]
  constructor
  · exact agreeing.known
  · intro other otherMember present
    rcases (logged_in_entries agreeing.guarded.listed member accepts).mp otherMember with rfl |
      ⟨before, _⟩
    · obtain ⟨meet, mnum, text, row, stored, _, granted⟩ := is_suited_accepts accepts.suited rfl
      refine ⟨meet, mnum, text, row, stored, ?_⟩
      exact (granted_by_known (agreeing.known meet mnum text stored) _ _).mpr granted.symm
    · exact agreeing.agree other before present

theorem closed_stores {ws : WebSocket} (agreeing : Agreeing server)
    (closed : Closed server ws lib following) : Stores following.clientList following.db := by
  rw [closed.db]
  constructor
  · exact agreeing.known
  · intro other member
    exact agreeing.agree other ((closed_entries agreeing.guarded.listed closed).mp member).1

theorem msg_stores {ws : WebSocket} {message : Option Json} (agreeing : Agreeing server)
    (found : findWs server.clientList ws = some client) (parsed : message = some json)
    (done : MsgDone server client json dbCall lib following)
    (assumed : Assumed server (.messages ws message dbCall lib))
    (apart : RowsKeptApart server (.messages ws message dbCall lib)) :
    Stores following.clientList following.db := by
  have member := (find_ws_some found).1
  have unchanged := stores_of_agreeing agreeing
  obtain ⟨rfl, addressed⟩ := assumed
  cases done with
  | idle => exact unchanged
  | input input granted => exact unchanged
  | @authority dst db addresses granted dstFound updated =>
      have dstMember := (find_some dstFound).1
      have hasRole := (addressed client json dst found parsed granted dstMember (.inl addresses)).1
      obtain ⟨noChief, alone, inPlace⟩ :=
        (apart client json dst found parsed granted dstMember).1 addresses
      exact authority_stores agreeing dstMember hasRole noChief alone inPlace updated
  | @chief dst db addresses granted dstFound updated =>
      have dstMember := (find_some dstFound).1
      obtain ⟨hasRole, meet, srcMnum, dstMnum, srcRow, dstRow⟩ :=
        addressed client json dst found parsed granted dstMember (.inr addresses)
      obtain ⟨inPlace, alone⟩ :=
        (apart client json dst found parsed granted dstMember).2 addresses
      by_cases own : dst = client
      · rw [own] at updated inPlace ⊢
        exact chief_itself_stores agreeing member granted srcRow inPlace updated
      · exact chief_other_stores agreeing member granted dstMember hasRole srcRow dstRow own
          (alone own).1 (alone own).2 inPlace updated
  | accepted presents accepts => exact accepted_stores agreeing member accepts
  | rejected isSetting closed => exact closed_stores agreeing closed
  | mode isLoggedIn granted changed => exact unchanged

theorem opened_stores {ws : WebSocket} (agreeing : Agreeing server) (lib : Libav) :
    Stores (onOpenPtr server ws lib).clientList (onOpenPtr server ws lib).db := by
  have joined := on_open_joined server ws lib
  rw [joined.clientList, joined.db]
  by_cases taken : (ClientTable.connected ws).mcode ∈ server.clientList.entries.map Client.mcode
  · rw [insert_taken taken]
    exact stores_of_agreeing agreeing
  · constructor
    · exact agreeing.known
    · intro other member present
      rw [insert_fresh_entries taken] at member
      rcases List.mem_append.mp member with before | added
      · exact agreeing.agree other before present
      · rw [List.mem_singleton.mp added] at present
        exact absurd rfl present

theorem assumed_guards {event : ServerEvent} (agreeing : Agreeing server)
    (assumed : Assumed server event) : PrivilegesAfterLogin server event := by
  cases event with
  | messages ws message dbCall lib =>
      intro client json found parsed
      constructor
      · intro granted dst dstMember addresses
        exact (assumed.2 client json dst found parsed granted dstMember addresses).1
      · intro info _ missing answer
        obtain ⟨meet, mnum, text, _, stored, number, _⟩ := is_suited_accepts answer rfl
        have known := agreeing.known meet mnum text stored
        rw [← number] at known
        simp at known
  | opens ws lib => trivial
  | closes ws lib => trivial
  | packet bytes => trivial
  | resizes width height lib => trivial
  | hostChanges host => trivial
  | databaseChanges db => trivial

theorem step_agreeing {event : ServerEvent} (agreeing : Agreeing server)
    (assumed : Assumed server event) (apart : RowsKeptApart server event)
    (stepped : step server event = some following) : Agreeing following := by
  have guarded := step_guarded agreeing.guarded (assumed_guards agreeing assumed) stepped
  have unchanged := stores_of_agreeing agreeing
  have stores : Stores following.clientList following.db := by
    cases step_done stepped with
    | opens fresh => exact opened_stores agreeing _
    | messages isOpen found parsed done =>
        exact msg_stores agreeing found parsed done assumed apart
    | closes isOpen closed => exact closed_stores agreeing closed
    | packet running written => exact unchanged
    | resizes running => exact unchanged
    | hostChanges => exact unchanged
    | databaseChanges => exact assumed.elim
  exact ⟨guarded, stores.known, stores.agree⟩

end Steps

/-- In every run as assumed whose events meet the condition, every logged-in
client has the privileges of its stored role, and would have them again. -/
theorem privileges_agree_with_roles (db : Database) (known : RolesKnown db) (host : ClbContext)
    (eCtx : EncoderContext) (audioBytes : Int) (server : Server)
    (reached : Reaches step Permitted (startServer db host eCtx audioBytes) server) :
    PrivilegesAgree server ∧
      ∀ client ∈ server.clientList.entries, client.role ≠ -1 → LogsInAsIs server.db client := by
  have agreeing : Agreeing server := by
    apply invariant_of_step Agreeing _ _ reached
    · refine ⟨start_guarded db host eCtx audioBytes, known, ?_⟩
      intro client member
      cases member
    · intro state event following held permitted stepped
      exact step_agreeing held permitted.1 permitted.2 stepped
  refine ⟨agreeing.agree, ?_⟩
  intro client member present
  exact logs_in_as_is agreeing.known (agreeing.agree client member present)

theorem sample_roles_known : RolesKnown sampleDatabase := by
  intro meet mnum text stored
  simp only [sampleDatabase] at stored
  split_ifs at stored
  · rw [← Option.some.inj (Option.some.inj stored)]
    decide
  · rw [← Option.some.inj (Option.some.inj stored)]
    decide
  · rw [← Option.some.inj (Option.some.inj stored)]
    decide

theorem sample_setting_apart (server : Server) (ws : WebSocket) (mcode : String) :
    Permitted server (settingEvent ws mcode) := by
  have unaddressed : ∀ json identifier dst, settingMessage mcode = some json →
      Addresses json identifier dst → identifier = 4 := by
    intro json identifier dst parsed addresses
    have isSetting : json.int "identifier" = some 4 := by
      rw [← Option.some.inj parsed]
      rfl
    exact Option.some.inj (addresses.identifier.symm.trans isSetting)
  constructor
  · refine ⟨rfl, ?_⟩
    intro client json dst _ parsed _ _ addressed
    rcases addressed with addresses | addresses
    · exact absurd (unaddressed json 2 dst.mcode parsed addresses) (by decide)
    · exact absurd (unaddressed json 3 dst.mcode parsed addresses) (by decide)
  · intro client json dst _ parsed _ _
    constructor
    · intro addresses
      exact absurd (unaddressed json 2 dst.mcode parsed addresses) (by decide)
    · intro addresses
      exact absurd (unaddressed json 3 dst.mcode parsed addresses) (by decide)

def sampleChief : Client where
  ws := 1
  chief := true
  authority := true
  role := 0
  mcode := ascii "a"
  mscode := ascii "MWZyb20="
  custom := []
  name := []

def sampleWatcher : Client where
  ws := 2
  chief := false
  authority := false
  role := 2
  mcode := ascii "c"
  mscode := ascii "MWZyb20="
  custom := []
  name := []

theorem sample_chief_row : AtRow sampleDatabase sampleChief 1 1 :=
  ⟨1, ascii "1", rfl, rfl, rfl⟩

theorem sample_watcher_row : AtRow sampleDatabase sampleWatcher 1 3 :=
  ⟨3, ascii "1", rfl, rfl, rfl⟩

/-- A plain number as the meeting: every UPDATE changes the row of its member. -/
theorem sample_hits {db : Database} {mcode mscode : ByteString} {mnum : Int} (quoting : Quoting)
    (matched : db.matched = sampleDatabase.matched) (member : db.mnumOf mcode = some mnum)
    (plain : meetSeqOf mscode = .done (ascii "1")) : Hits db quoting mcode mscode 1 mnum := by
  refine ⟨mnum, member, ?_⟩
  intro meetSeq decoded rowMeet rowMnum stored _
  rw [matched, ← Outcome.done.inj (plain.symm.trans decoded)]
  have noText : ascii "1" ≠ ascii "1 OR 1=1" := by decide
  have number : atoi (ascii "1") = 1 := by decide
  simp only [sampleDatabase, noText, and_false, false_or, number, decide_eq_true_eq]

theorem sample_authority_in_place {server : Server} (same : server.db = sampleDatabase) :
    AuthorityInPlace server sampleWatcher := by
  intro meet mnum row
  rw [same] at row ⊢
  obtain ⟨rfl, rfl⟩ := row_of_unique row sample_watcher_row
  refine ⟨sample_hits _ rfl rfl rfl, ?_⟩
  rintro client _ _ clientMeet clientMnum ⟨number, meetSeq, member, text, found⟩
  rw [same] at member found
  exact ⟨number, meetSeq, member, text, found⟩

theorem privileges_agree_with_roles_promoted :
    PrivilegesAgree (after step sampleServer chiefAndWorker) ∧
      ∀ client ∈ (after step sampleServer chiefAndWorker).clientList.entries, client.role ≠ -1 →
        LogsInAsIs (after step sampleServer chiefAndWorker).db client := by
  apply privileges_agree_with_roles sampleDatabase sample_roles_known sampleHost
    (encoderContext .image sampleHost) 0
  apply reaches_after
  · apply along_cons rfl ⟨trivial, trivial⟩
    apply along_cons rfl (sample_setting_apart _ 1 "a")
    apply along_cons rfl ⟨trivial, trivial⟩
    apply along_cons rfl (sample_setting_apart _ 2 "c")
    apply along_cons rfl
    · have addressed : ∀ json identifier dst, dst ∈ [sampleChief, sampleWatcher] →
          dstMessage 2 "c" = some json → Addresses json identifier dst.mcode →
          identifier = 2 ∧ dst = sampleWatcher := by
        intro json identifier dst member parsed addresses
        rw [← Option.some.inj parsed] at addresses
        refine ⟨(Option.some.inj addresses.identifier).symm, ?_⟩
        rcases List.mem_cons.mp member with rfl | rest
        · exact absurd addresses.dst (by decide)
        · exact List.mem_singleton.mp rest
      constructor
      · refine ⟨rfl, ?_⟩
        intro client json dst found parsed _ member either
        have isWatcher : dst = sampleWatcher := by
          rcases either with addresses | addresses
          · exact (addressed json 2 dst member parsed addresses).2
          · exact (addressed json 3 dst member parsed addresses).2
        have isChief : sampleChief = client := Option.some.inj found
        rw [isWatcher, ← isChief]
        exact ⟨by decide, 1, 1, 3, sample_chief_row, sample_watcher_row⟩
      · intro client json dst _ parsed _ member
        constructor
        · intro addresses
          rw [(addressed json 2 dst member parsed addresses).2]
          refine ⟨rfl, ?_, sample_authority_in_place rfl⟩
          intro other otherMember _ different
          rcases List.mem_cons.mp otherMember with rfl | rest
          · rintro ⟨meet, mnum, chiefRow, watcherRow⟩
            have first := (row_of_unique chiefRow sample_chief_row).2
            have third := (row_of_unique watcherRow sample_watcher_row).2
            exact absurd (first.symm.trans third) (by decide)
          · exact absurd (List.mem_singleton.mp rest) different
        · intro addresses
          exact absurd (addressed json 3 dst member parsed addresses).1 (by decide)
    · trivial
  · rfl

def chiefDemoted : List ServerEvent :=
  [opensEvent 1, settingEvent 1 "a", dstEvent 1 2 "a"]

/-- It stays chief, without authority, and its stored role is that of a client
with neither. -/
theorem chief_without_role :
    Reaches step Assumed sampleServer (after step sampleServer chiefDemoted) ∧
      (after step sampleServer chiefDemoted).clientList.entries =
        [{ sampleChief with authority := false }] ∧
      (after step sampleServer chiefDemoted).db.role 1 1 = some (some (ascii "2")) ∧
      ¬PrivilegesAgree (after step sampleServer chiefDemoted) := by
  refine ⟨?_, rfl, rfl, ?_⟩
  · apply reaches_after
    · apply along_cons rfl trivial
      apply along_cons rfl (sample_setting_apart _ 1 "a").1
      apply along_cons rfl
      · refine ⟨rfl, ?_⟩
        intro client json dst found _ _ member _
        have isChief : sampleChief = client := Option.some.inj found
        have isDst : dst = sampleChief := List.mem_singleton.mp member
        rw [isDst, ← isChief]
        exact ⟨by decide, 1, 1, 1, sample_chief_row, sample_chief_row⟩
      · trivial
    · rfl
  · intro agree
    obtain ⟨text, stored, flags⟩ := flags_of_agrees
      (agree { sampleChief with authority := false } List.mem_cons_self (by decide))
      (show AtRow _ _ 1 1 from ⟨1, ascii "1", rfl, rfl, rfl⟩)
    have watching : some (some (ascii "2")) = some (some text) := stored
    have isChief := flags.chief.mp rfl
    rw [← Option.some.inj (Option.some.inj watching)] at isChief
    exact absurd isChief (by decide)

end Collabo.RoleAgreement
