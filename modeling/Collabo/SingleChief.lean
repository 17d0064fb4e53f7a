import Collabo.RoleAgreement

/-!
# One chief

Nothing checks that a meeting has one chief. While every client presents the
same meeting, the only rows with the role 0 are that of the chief in the table
or, where there is none, one that the database had; CHIEF passes the role on,
and whoever logs in with it replaces the entry that had it. The meeting is no
number where the statements are built, so its text may make a CHIEF give the
role 0 to every row.
-/

namespace Collabo.SingleChief

open UniqueTable PartialRuns Collabo.CString Collabo.MySQLConnector Collabo.ClientTable
  Collabo.EncoderSession Collabo.MediaStream Collabo.CollaboServer Collabo.ServerSteps
  Collabo.ListedConnections Collabo.LoginPrivileges Collabo.RoleAgreement

set_option autoImplicit false

def ChiefRow (db : Database) (meet mnum : Int) : Prop :=
  ∃ text, db.role meet mnum = some (some text) ∧ roleNumber text = 0

def OneChiefRow (db : Database) : Prop :=
  ∀ meet left right, ChiefRow db meet left → ChiefRow db meet right → left = right

/-- A member is found under one string only, whatever the roles are. -/
structure ExactMembers (db : Database) : Prop where
  steady : ∀ roles otherRoles mcode, db.members roles mcode = db.members otherRoles mcode
  exact : ∀ roles left right mnum, db.members roles left = some mnum →
    db.members roles right = some mnum → left = right

def OneChiefEntry (server : Server) : Prop :=
  ∀ left ∈ server.clientList.entries, ∀ right ∈ server.clientList.entries,
    left.chief = true → right.chief = true → left = right

/-- Every client presents `mscode` and an `mcode` that the database is given
whole, what a chief addresses is a logged-in client, every database call
succeeds, and nothing else changes the database. -/
def OneMeeting (mscode : ByteString) (server : Server) : ServerEvent → Prop
  | .messages ws message dbCall _ =>
      dbCall = .succeeds ∧
        ∀ client json, findWs server.clientList ws = some client → message = some json →
          (∀ info : Client, Presents json info →
            info.mscode = mscode ∧ cStr info.mcode = info.mcode) ∧
          ∀ dst ∈ server.clientList.entries,
            Addresses json 2 dst.mcode ∨ Addresses json 3 dst.mcode → dst.role ≠ -1
  | .opens _ _ => True
  | .closes _ _ => True
  | .packet _ => True
  | .resizes _ _ _ => True
  | .hostChanges _ => True
  | .databaseChanges _ => False

/-- An accepted SETTING reads the row of its member in the meeting `meet`, and the two
UPDATEs of a CHIEF change the rows of its two members there, and no others. -/
def WithinMeeting (meet : Int) (server : Server) : ServerEvent → Prop
  | .messages ws message _ _ =>
      ∀ client json, findWs server.clientList ws = some client → message = some json →
        (∀ (info : Client) (rowMeet rowMnum : Int) (text : ByteString), Presents json info →
          AtRow server.db info rowMeet rowMnum →
          server.db.role rowMeet rowMnum = some (some text) →
          rowMeet = meet ∧ server.db.mnumOf (cStr info.mcode) = some rowMnum) ∧
        ∀ dst ∈ server.clientList.entries, client.chief = true → Addresses json 3 dst.mcode →
          ∀ srcMnum dstMnum, server.db.mnumOf (cStr client.mcode) = some srcMnum →
            server.db.mnumOf (cStr dst.mcode) = some dstMnum →
            Hits server.db .bare (cStr client.mcode) (cStr client.mscode) meet srcMnum ∧
              Hits (server.db.setRole meet srcMnum (ascii "1")) .bare (cStr dst.mcode)
                (cStr client.mscode) meet dstMnum
  | .opens _ _ => True
  | .closes _ _ => True
  | .packet _ => True
  | .resizes _ _ _ => True
  | .hostChanges _ => True
  | .databaseChanges _ => True

/-- A CHIEF of a chief is handled to its end and leaves exactly its destination as
chief. -/
def HandsOver (server : Server) : ServerEvent → Prop
  | .messages ws message dbCall lib =>
      ∀ client json, findWs server.clientList ws = some client → message = some json →
        client.chief = true → ∀ dst ∈ server.clientList.entries, Addresses json 3 dst.mcode →
          ∃ following, step server (.messages ws message dbCall lib) = some following ∧
            (∃ entry ∈ following.clientList.entries, entry.mcode = dst.mcode) ∧
            ∀ other ∈ following.clientList.entries,
              other.chief = true ↔ other.mcode = dst.mcode
  | .opens _ _ => True
  | .closes _ _ => True
  | .packet _ => True
  | .resizes _ _ _ => True
  | .hostChanges _ => True
  | .databaseChanges _ => True

section Rows

variable {db : Database} {meet mnum : Int} {text : ByteString}

theorem set_role_chief_row {otherMeet otherMnum : Int}
    (chief : ChiefRow (db.setRole meet mnum text) otherMeet otherMnum) :
    (otherMeet = meet ∧ otherMnum = mnum ∧ roleNumber text = 0) ∨
      ChiefRow db otherMeet otherMnum ∧ ¬(otherMeet = meet ∧ otherMnum = mnum) := by
  obtain ⟨stored, present, number⟩ := chief
  by_cases same : otherMeet = meet ∧ otherMnum = mnum
  · simp only [Database.setRole, if_pos same, Option.map_eq_some_iff] at present
    obtain ⟨_, _, written⟩ := present
    rw [← Option.some.inj written] at number
    exact .inl ⟨same.1, same.2, number⟩
  · rw [set_role_elsewhere text same] at present
    exact .inr ⟨⟨stored, present, number⟩, same⟩

/-- What is written into a meeting without a chief makes one row a chief's at most. -/
theorem raised_chief_row {other : Int} (cleared : ∀ before, ¬ChiefRow db meet before)
    (chief : ChiefRow (db.setRole meet mnum text) meet other) : other = mnum := by
  rcases set_role_chief_row chief with ⟨_, same, _⟩ | ⟨before, _⟩
  · exact same
  · exact absurd before (cleared other)

theorem raised_one_row (oneRow : OneChiefRow db) (cleared : ∀ before, ¬ChiefRow db meet before) :
    OneChiefRow (db.setRole meet mnum text) := by
  intro otherMeet left right leftChief rightChief
  by_cases here : otherMeet = meet
  · rw [here] at leftChief rightChief
    rw [raised_chief_row cleared leftChief, raised_chief_row cleared rightChief]
  · rcases set_role_chief_row leftChief with ⟨same, _, _⟩ | ⟨leftBefore, _⟩
    · exact absurd same here
    · rcases set_role_chief_row rightChief with ⟨same, _, _⟩ | ⟨rightBefore, _⟩
      · exact absurd same here
      · exact oneRow otherMeet left right leftBefore rightBefore

theorem lower_role_chief_row {otherMeet otherMnum : Int} (lower : roleNumber text ≠ 0)
    (chief : ChiefRow (db.setRole meet mnum text) otherMeet otherMnum) :
    ChiefRow db otherMeet otherMnum ∧ ¬(otherMeet = meet ∧ otherMnum = mnum) := by
  rcases set_role_chief_row chief with ⟨_, _, number⟩ | before
  · exact absurd number lower
  · exact before

theorem update_stored {quoting : Quoting} {meetSeq stored : ByteString} {number : Int}
    {rowMeet rowMnum : Int}
    (present : (db.update quoting meetSeq number text).role rowMeet rowMnum =
      some (some stored)) :
    stored = text ∨ db.role rowMeet rowMnum = some (some stored) := by
  obtain ⟨before, was, left⟩ := Option.map_eq_some_iff.mp present
  split_ifs at left
  · exact .inl (Option.some.inj left).symm
  · rw [left] at was
    exact .inr was

/-- An UPDATE with another role makes no row a chief's, whichever rows it changes. -/
theorem lower_update_chief_row {quoting : Quoting} {meetSeq : ByteString} {number : Int}
    {rowMeet rowMnum : Int} (lower : roleNumber text ≠ 0)
    (chief : ChiefRow (db.update quoting meetSeq number text) rowMeet rowMnum) :
    ChiefRow db rowMeet rowMnum := by
  obtain ⟨stored, present, isZero⟩ := chief
  rcases update_stored present with rfl | before
  · exact absurd isZero lower
  · exact ⟨stored, before, isZero⟩

theorem update_known {quoting : Quoting} {meetSeq : ByteString} {number : Int}
    (known : RolesKnown db) (isKnown : roleNumber text = 1 ∨ roleNumber text = 2) :
    RolesKnown (db.update quoting meetSeq number text) := by
  intro rowMeet rowMnum stored present
  rcases update_stored present with rfl | before
  · exact .inr isKnown
  · exact known rowMeet rowMnum stored before

theorem exact_members_congr {after : Database} (exact : ExactMembers db)
    (same : after.members = db.members) : ExactMembers after := by
  constructor
  · rw [same]
    exact exact.steady
  · rw [same]
    exact exact.exact

theorem mnum_of_congr {after : Database} (exact : ExactMembers db)
    (same : after.members = db.members) (mcode : ByteString) :
    after.mnumOf mcode = db.mnumOf mcode := by
  unfold Database.mnumOf
  rw [same]
  exact exact.steady _ _ mcode

theorem printed_congr {after : Database} {mcode : ByteString} (exact : ExactMembers db)
    (same : after.members = db.members) (printed : Printed db mcode) : Printed after mcode := by
  obtain ⟨mnum, member, print⟩ := printed
  exact ⟨mnum, (mnum_of_congr exact same mcode).trans member, print⟩

end Rows

structure Presided (mscode : ByteString) (meet : Int) (clientList : ClientList) (db : Database) :
    Prop where
  known : RolesKnown db
  oneRow : OneChiefRow db
  exact : ExactMembers db
  presented : ∀ client ∈ clientList.entries, client.role ≠ -1 →
    client.mscode = mscode ∧ cStr client.mcode = client.mcode ∧
      ∃ meetSeq, meetSeqOf (cStr client.mscode) = .done meetSeq
  printed : ∀ client ∈ clientList.entries, client.role ≠ -1 → Printed db (cStr client.mcode)
  ranked : ∀ client ∈ clientList.entries, client.chief = true → client.role ≠ -1
  oneEntry : ∀ left ∈ clientList.entries, ∀ right ∈ clientList.entries,
    left.chief = true → right.chief = true → left = right
  crowned : ∀ client ∈ clientList.entries, client.chief = true →
    ∀ mnum other, db.mnumOf (cStr client.mcode) = some mnum → ChiefRow db meet other →
      other = mnum

section Steps

variable {mscode : ByteString} {meet : Int} {server following : Server} {client dst : Client}
  {json : Json} {dbCall : DbCall} {lib : Libav}

theorem presided_fewer {clientList fewer : ClientList} {db : Database}
    (presided : Presided mscode meet clientList db)
    (kept : ∀ client ∈ fewer.entries, client ∈ clientList.entries) :
    Presided mscode meet fewer db where
  known := presided.known
  oneRow := presided.oneRow
  exact := presided.exact
  presented client member := presided.presented client (kept client member)
  printed client member := presided.printed client (kept client member)
  ranked client member := presided.ranked client (kept client member)
  oneEntry left leftMember right rightMember :=
    presided.oneEntry left (kept left leftMember) right (kept right rightMember)
  crowned client member := presided.crowned client (kept client member)

theorem opened_presided (presided : Presided mscode meet server.clientList server.db)
    (ws : WebSocket) (lib : Libav) :
    Presided mscode meet (onOpenPtr server ws lib).clientList (onOpenPtr server ws lib).db := by
  have joined := on_open_joined server ws lib
  rw [joined.clientList, joined.db]
  by_cases taken : (ClientTable.connected ws).mcode ∈ server.clientList.entries.map Client.mcode
  · rw [insert_taken taken]
    exact presided
  · have entries : ∀ client ∈ (server.clientList.insert (ClientTable.connected ws)).entries,
        client ∈ server.clientList.entries ∨ client.role = -1 ∧ client.chief = false := by
      intro client member
      rw [insert_fresh_entries taken] at member
      rcases List.mem_append.mp member with before | added
      · exact .inl before
      · rw [List.mem_singleton.mp added]
        exact .inr ⟨rfl, rfl⟩
    have chiefs : ∀ client ∈ (server.clientList.insert (ClientTable.connected ws)).entries,
        client.chief = true → client ∈ server.clientList.entries := by
      intro client member isChief
      rcases entries client member with before | ⟨_, noChief⟩
      · exact before
      · rw [noChief] at isChief
        cases isChief
    constructor
    · exact presided.known
    · exact presided.oneRow
    · exact presided.exact
    · intro client member hasRole
      rcases entries client member with before | ⟨missing, _⟩
      · exact presided.presented client before hasRole
      · exact absurd missing hasRole
    · intro client member hasRole
      rcases entries client member with before | ⟨missing, _⟩
      · exact presided.printed client before hasRole
      · exact absurd missing hasRole
    · intro client member isChief
      exact presided.ranked client (chiefs client member isChief) isChief
    · intro left leftMember right rightMember leftChief rightChief
      exact presided.oneEntry left (chiefs left leftMember leftChief) right
        (chiefs right rightMember rightChief) leftChief rightChief
    · intro client member isChief
      exact presided.crowned client (chiefs client member isChief) isChief

/-- An accepted client that is chief has the only row with the role 0, and the
chief before it, if there was one, was the same member. -/
theorem accepted_presided {info : Client} {cleared : Server}
    (listed : Listed server) (presided : Presided mscode meet server.clientList server.db)
    (member : client ∈ server.clientList.entries)
    (accepts : Accepted server client info dbCall lib cleared)
    (presents : info.mscode = mscode ∧ cStr info.mcode = info.mcode)
    (inMeeting : ∀ rowMeet rowMnum text, AtRow server.db info rowMeet rowMnum →
      server.db.role rowMeet rowMnum = some (some text) →
      rowMeet = meet ∧ server.db.mnumOf (cStr info.mcode) = some rowMnum) :
    Presided mscode meet (loggedIn client info cleared).clientList
      (loggedIn client info cleared).db := by
  have db : (loggedIn client info cleared).db = server.db := by
    have kept : (loggedIn client info cleared).db = cleared.db := rfl
    rw [kept]
    exact cleared_of_closed (fun state => state.db = server.db) accepts rfl
      (fun _ _ closed => closed.db)
  rw [db]
  obtain ⟨rowMeet, mnum, text, row, stored, number, granted⟩ :=
    is_suited_accepts accepts.suited rfl
  obtain ⟨rfl, infoMember⟩ := inMeeting rowMeet mnum text row stored
  have flags : FlagsOf (roleNumber text) info :=
    (granted_by_known (presided.known rowMeet mnum text stored) _ _).mpr granted.symm
  have infoChief : info.chief = true → ChiefRow server.db rowMeet mnum := fun isChief =>
    ⟨text, stored, flags.chief.mp isChief⟩
  have entries := fun other => @logged_in_entries _ _ _ _ _ _ listed member accepts other
  -- a chief that stays would be the same member under another `mcode`
  have alone : info.chief = true → ∀ other ∈ server.clientList.entries, other.chief = true →
      other.mcode = info.mcode := by
    intro isChief other otherMember otherChief
    have hasRole := presided.ranked other otherMember otherChief
    obtain ⟨-, whole, -⟩ := presided.presented other otherMember hasRole
    obtain ⟨otherMnum, found, -⟩ := presided.printed other otherMember hasRole
    have sameMnum := presided.crowned other otherMember otherChief otherMnum mnum found
      (infoChief isChief)
    rw [← sameMnum] at found
    rw [← whole, ← presents.2]
    exact presided.exact.exact _ _ _ mnum found infoMember
  constructor
  · exact presided.known
  · exact presided.oneRow
  · exact presided.exact
  · intro other otherMember hasRole
    rcases (entries other).mp otherMember with rfl | ⟨before, _⟩
    · obtain ⟨_, meetSeq, _, decoded, _⟩ := row
      exact ⟨presents.1, presents.2, meetSeq, decoded⟩
    · exact presided.presented other before hasRole
  · intro other otherMember hasRole
    rcases (entries other).mp otherMember with rfl | ⟨before, _⟩
    · exact is_suited_printed accepts.suited rfl
    · exact presided.printed other before hasRole
  · intro other otherMember isChief
    rcases (entries other).mp otherMember with rfl | ⟨before, _⟩
    · have role : other.role = 0 := number.trans (flags.chief.mp isChief)
      rw [role]
      decide
    · exact presided.ranked other before isChief
  · intro left leftMember right rightMember leftChief rightChief
    rcases (entries left).mp leftMember with rfl | ⟨leftBefore, leftOther, _⟩
    · rcases (entries right).mp rightMember with rfl | ⟨rightBefore, rightOther, _⟩
      · rfl
      · exact absurd (alone leftChief right rightBefore rightChief) rightOther
    · rcases (entries right).mp rightMember with rfl | ⟨rightBefore, rightOther, _⟩
      · exact absurd (alone rightChief left leftBefore leftChief) leftOther
      · exact presided.oneEntry left leftBefore right rightBefore leftChief rightChief
  · intro other otherMember isChief otherMnum third found thirdChief
    rcases (entries other).mp otherMember with rfl | ⟨before, _⟩
    · rw [← Option.some.inj (infoMember.symm.trans found)]
      exact presided.oneRow _ third _ thirdChief (infoChief isChief)
    · exact presided.crowned other before isChief _ third found thirdChief

theorem presided_relabelled {clientList changed : ClientList} {db : Database}
    (presided : Presided mscode meet clientList db)
    (sources : ∀ client ∈ changed.entries, ∃ held ∈ clientList.entries,
      held.mcode = client.mcode ∧ held.mscode = client.mscode ∧ held.role = client.role ∧
        held.chief = client.chief) : Presided mscode meet changed db := by
  constructor
  · exact presided.known
  · exact presided.oneRow
  · exact presided.exact
  · intro client member hasRole
    obtain ⟨held, heldMember, mcode, sameCode, role, -⟩ := sources client member
    have presented := presided.presented held heldMember (role ▸ hasRole)
    rw [mcode, sameCode] at presented
    exact presented
  · intro client member hasRole
    obtain ⟨held, heldMember, mcode, -, role, -⟩ := sources client member
    rw [← mcode]
    exact presided.printed held heldMember (role ▸ hasRole)
  · intro client member isChief
    obtain ⟨held, heldMember, -, -, role, chief⟩ := sources client member
    rw [← role]
    exact presided.ranked held heldMember (chief.trans isChief)
  · intro left leftMember right rightMember leftChief rightChief
    obtain ⟨leftHeld, leftSource, leftMcode, -, -, leftSame⟩ := sources left leftMember
    obtain ⟨rightHeld, rightSource, rightMcode, -, -, rightSame⟩ := sources right rightMember
    have same := presided.oneEntry leftHeld leftSource rightHeld rightSource
      (leftSame.trans leftChief) (rightSame.trans rightChief)
    apply item_eq_of_key leftMember rightMember
    rw [← leftMcode, ← rightMcode, same]
  · intro client member isChief mnum other found
    obtain ⟨held, heldMember, mcode, -, -, chief⟩ := sources client member
    rw [← mcode] at found
    exact presided.crowned held heldMember (chief.trans isChief) mnum other found

theorem presided_lowered {clientList : ClientList} {db after : Database}
    (presided : Presided mscode meet clientList db) (known : RolesKnown after)
    (members : after.members = db.members)
    (lower : ∀ rowMeet rowMnum, ChiefRow after rowMeet rowMnum → ChiefRow db rowMeet rowMnum) :
    Presided mscode meet clientList after := by
  constructor
  · exact known
  · intro rowMeet left right leftChief rightChief
    exact presided.oneRow rowMeet left right (lower _ _ leftChief) (lower _ _ rightChief)
  · exact exact_members_congr presided.exact members
  · exact presided.presented
  · intro client member hasRole
    exact printed_congr presided.exact members (presided.printed client member hasRole)
  · exact presided.ranked
  · exact presided.oneEntry
  · intro client member isChief mnum other found chief
    rw [mnum_of_congr presided.exact members] at found
    exact presided.crowned client member isChief mnum other found (lower _ _ chief)

/-- AUTHORITY changes no entry's chief flag and gives no row the role 0, whichever rows
it changes. -/
theorem authority_presided {db : Database}
    (presided : Presided mscode meet server.clientList server.db)
    (updated : MySQLConnector.changeAuth server.db .succeeds (cStr dst.mcode) (!dst.authority)
      (cStr dst.mscode) = .done db) :
    Presided mscode meet
      (server.clientList.modify dst.mcode (ClientTable.changeAuth !dst.authority)) db := by
  have relabelled : Presided mscode meet
      (server.clientList.modify dst.mcode (ClientTable.changeAuth !dst.authority)) server.db := by
    apply presided_relabelled presided
    intro other member
    rcases (mem_modify (ClientTable.changeAuth !dst.authority) (fun _ => rfl)).mp member with
      ⟨held, heldMember, _, rfl⟩ | ⟨before, _⟩
    · exact ⟨held, heldMember, rfl, rfl, rfl, rfl⟩
    · exact ⟨other, before, rfl, rfl, rfl, rfl⟩
  obtain ⟨-, meetSeq, -, rest⟩ := connected_done_iff.mp updated
  obtain ⟨statements, update, finished⟩ := bind_done rest
  rw [← Outcome.done.inj finished]
  obtain ⟨-, ⟨-, same⟩ | ⟨mnum, -, written⟩⟩ := update_role_done update
  · rw [same]
    exact relabelled
  · have number : roleNumber (authorityText !dst.authority) = 1 ∨
        roleNumber (authorityText !dst.authority) = 2 := by
      cases dst.authority <;> decide
    rw [written]
    apply presided_lowered relabelled
    · exact update_known presided.known number
    · rfl
    · intro rowMeet rowMnum chief
      have lower : roleNumber (authorityText !dst.authority) ≠ 0 := by omega
      exact lower_update_chief_row lower chief

theorem hand_over_sources {srcMcode dstMcode : ByteString} :
    ∀ other ∈ (handOver server srcMcode dstMcode).clientList.entries,
      ∃ held ∈ server.clientList.entries, held.mcode = other.mcode ∧
        held.mscode = other.mscode ∧ held.role = other.role := by
  intro other otherMember
  rw [hand_over_entries] at otherMember
  obtain ⟨held, heldMember, rfl⟩ := List.mem_map.mp otherMember
  exact ⟨held, heldMember, (handed_mcode _ _ _).symm, (handed_mscode _ _ _).symm,
    (handed_role _ _ _).symm⟩

theorem hand_over_chiefs {dstMcode : ByteString}
    (presided : Presided mscode meet server.clientList server.db)
    (member : client ∈ server.clientList.entries) (granted : client.chief = true) :
    ∀ other ∈ (handOver server client.mcode dstMcode).clientList.entries,
      other.chief = true ↔ other.mcode = dstMcode := by
  intro other otherMember
  rw [hand_over_entries] at otherMember
  obtain ⟨held, heldMember, rfl⟩ := List.mem_map.mp otherMember
  rw [handed_mcode]
  unfold handed
  split_ifs with isDst isSrc
  · exact iff_of_true rfl isDst
  · exact iff_of_false Bool.false_ne_true isDst
  · apply iff_of_false _ isDst
    intro heldChief
    exact isSrc (congrArg Client.mcode
      (presided.oneEntry held heldMember client member heldChief granted))

/-- CHIEF moves the role 0 from the row of the chief, which had the only one of the
meeting, to that of the destination. -/
theorem chief_presided {db : Database} {srcMnum dstMnum : Int}
    (presided : Presided mscode meet server.clientList server.db)
    (member : client ∈ server.clientList.entries) (granted : client.chief = true)
    (dstMember : dst ∈ server.clientList.entries) (hasRole : dst.role ≠ -1)
    (srcFound : server.db.mnumOf (cStr client.mcode) = some srcMnum)
    (dstFound : server.db.mnumOf (cStr dst.mcode) = some dstMnum)
    (srcHits : Hits server.db .bare (cStr client.mcode) (cStr client.mscode) meet srcMnum)
    (dstHits : Hits (server.db.setRole meet srcMnum (ascii "1")) .bare (cStr dst.mcode)
      (cStr client.mscode) meet dstMnum)
    (updated : MySQLConnector.changeChief server.db .succeeds (cStr client.mcode) (cStr dst.mcode)
      (cStr client.mscode) = .done db) :
    Presided mscode meet (handOver server client.mcode dst.mcode).clientList db := by
  rw [change_chief_done srcHits dstHits updated]
  have chiefs := @hand_over_chiefs _ _ _ _ dst.mcode presided member granted
  have lowered : Presided mscode meet server.clientList
      (server.db.setRole meet srcMnum (ascii "1")) := by
    apply presided_lowered presided
    · exact set_role_known presided.known (by decide) meet srcMnum
    · rfl
    · intro rowMeet rowMnum chief
      exact (lower_role_chief_row (by decide) chief).1
  have cleared : ∀ other, ¬ChiefRow (server.db.setRole meet srcMnum (ascii "1")) meet other := by
    intro other chief
    obtain ⟨before, notSrc⟩ := lower_role_chief_row (by decide) chief
    exact notSrc ⟨rfl, presided.crowned client member granted srcMnum other srcFound before⟩
  have members : ((server.db.setRole meet srcMnum (ascii "1")).setRole meet dstMnum
      (ascii "0")).members = server.db.members := rfl
  have isDst : ∀ other ∈ (handOver server client.mcode dst.mcode).clientList.entries,
      other.chief = true → ∀ held ∈ server.clientList.entries, held.mcode = other.mcode →
        held = dst := by
    intro other otherMember isChief held heldMember sameMcode
    apply item_eq_of_key heldMember dstMember
    rw [sameMcode]
    exact (chiefs other otherMember).mp isChief
  constructor
  · exact set_role_known lowered.known (.inl (by decide)) meet dstMnum
  · exact raised_one_row lowered.oneRow cleared
  · exact exact_members_congr presided.exact members
  · intro other otherMember present
    obtain ⟨held, heldMember, mcode, sameCode, role⟩ := hand_over_sources other otherMember
    have presented := presided.presented held heldMember (role ▸ present)
    rw [mcode, sameCode] at presented
    exact presented
  · intro other otherMember present
    obtain ⟨held, heldMember, mcode, _, role⟩ := hand_over_sources other otherMember
    rw [← mcode]
    exact printed_congr presided.exact members
      (presided.printed held heldMember (role ▸ present))
  · intro other otherMember isChief
    obtain ⟨held, heldMember, mcode, _, role⟩ := hand_over_sources other otherMember
    rw [← role, isDst other otherMember isChief held heldMember mcode]
    exact hasRole
  · intro left leftMember right rightMember leftChief rightChief
    apply item_eq_of_key leftMember rightMember
    rw [(chiefs left leftMember).mp leftChief, (chiefs right rightMember).mp rightChief]
  · intro other otherMember isChief mnum third found chief
    rw [mnum_of_congr presided.exact members, (chiefs other otherMember).mp isChief] at found
    rw [← Option.some.inj (dstFound.symm.trans found)]
    exact raised_chief_row cleared chief

theorem closed_presided {ws : WebSocket} (listed : Listed server)
    (presided : Presided mscode meet server.clientList server.db)
    (closed : Closed server ws lib following) :
    Presided mscode meet following.clientList following.db := by
  rw [closed.db]
  apply presided_fewer presided
  intro other member
  exact ((closed_entries listed closed).mp member).1

theorem msg_presided {ws : WebSocket} {message : Option Json} (listed : Listed server)
    (presided : Presided mscode meet server.clientList server.db)
    (found : findWs server.clientList ws = some client) (parsed : message = some json)
    (done : MsgDone server client json dbCall lib following)
    (assumed : OneMeeting mscode server (.messages ws message dbCall lib))
    (within : WithinMeeting meet server (.messages ws message dbCall lib)) :
    Presided mscode meet following.clientList following.db := by
  have member := (find_ws_some found).1
  obtain ⟨rfl, presented⟩ := assumed
  obtain ⟨strings, addressed⟩ := presented client json found parsed
  obtain ⟨inMeeting, inPlace⟩ := within client json found parsed
  cases done with
  | idle => exact presided
  | input input granted => exact presided
  | authority addresses granted dstFound updated => exact authority_presided presided updated
  | chief addresses granted dstFound updated =>
      have dstMember := (find_some dstFound).1
      have hasRole := addressed _ dstMember (.inr addresses)
      obtain ⟨srcMnum, srcIs, -⟩ :=
        presided.printed client member (presided.ranked client member granted)
      obtain ⟨dstMnum, dstIs, -⟩ := presided.printed _ dstMember hasRole
      obtain ⟨srcHits, dstHits⟩ :=
        inPlace _ dstMember granted addresses srcMnum dstMnum srcIs dstIs
      exact chief_presided presided member granted dstMember hasRole srcIs dstIs srcHits dstHits
        updated
  | accepted presents accepts =>
      apply accepted_presided listed presided member accepts (strings _ presents)
      intro rowMeet rowMnum text row
      exact inMeeting _ rowMeet rowMnum text presents row
  | rejected isSetting closed => exact closed_presided listed presided closed
  | mode isLoggedIn granted changed => exact presided

theorem step_presided {event : ServerEvent} (listed : Listed server)
    (presided : Presided mscode meet server.clientList server.db)
    (assumed : OneMeeting mscode server event) (within : WithinMeeting meet server event)
    (stepped : step server event = some following) :
    Presided mscode meet following.clientList following.db := by
  cases step_done stepped with
  | opens fresh => exact opened_presided presided _ _
  | messages isOpen found parsed done =>
      exact msg_presided listed presided found parsed done assumed within
  | closes isOpen closed => exact closed_presided listed presided closed
  | packet running written => exact presided
  | resizes running => exact presided
  | hostChanges => exact presided
  | databaseChanges => exact assumed.elim

/-- The CHIEF of a chief to a logged-in client is handled to its end. -/
theorem chief_step {ws : WebSocket} (listed : Listed server)
    (presided : Presided mscode meet server.clientList server.db)
    (found : findWs server.clientList ws = some client) (granted : client.chief = true)
    (dstMember : dst ∈ server.clientList.entries) (hasRole : dst.role ≠ -1)
    (addresses : Addresses json 3 dst.mcode) :
    ∃ following, step server (.messages ws (some json) .succeeds lib) = some following ∧
      following.clientList = (handOver server client.mcode dst.mcode).clientList := by
  obtain ⟨member, same⟩ := find_ws_some found
  have ranked := presided.ranked client member granted
  obtain ⟨-, -, meetSeq, decoded⟩ := presided.presented client member ranked
  have members : (server.db.released (cStr client.mcode) meetSeq).members = server.db.members := by
    unfold Database.released
    split
    · rfl
    · rfl
  obtain ⟨db, updated⟩ := change_chief_returns decoded (presided.printed client member ranked)
    (printed_congr presided.exact members (presided.printed dst dstMember hasRole))
  have isOpen : ws ∈ server.sockets := by
    rw [← same]
    exact listed.connected client.ws (List.mem_map_of_mem member)
  have destination : server.clientList.find dst.mcode = some dst := find_of_mem dstMember
  simp only [step, if_pos isOpen, onMsgPtr, found, addresses.identifier, onIdentifier, onChief,
    addresses.dst, granted, if_true, destination, updated]
  exact ⟨_, rfl, rfl⟩

theorem hands_over {event : ServerEvent} (listed : Listed server)
    (presided : Presided mscode meet server.clientList server.db)
    (assumed : OneMeeting mscode server event) : HandsOver server event := by
  cases event with
  | messages ws message dbCall lib =>
      intro client json found parsed granted dst dstMember addresses
      obtain ⟨rfl, presented⟩ := assumed
      obtain ⟨-, addressed⟩ := presented client json found parsed
      have hasRole := addressed dst dstMember (.inr addresses)
      rw [parsed]
      obtain ⟨following, stepped, entries⟩ :=
        chief_step listed presided found granted dstMember hasRole addresses
      have member := (find_ws_some found).1
      refine ⟨following, stepped, ?_⟩
      rw [entries]
      refine ⟨?_, hand_over_chiefs presided member granted⟩
      refine ⟨handed client.mcode dst.mcode dst, ?_, handed_mcode _ _ _⟩
      rw [hand_over_entries]
      exact List.mem_map_of_mem dstMember
  | opens ws lib => trivial
  | closes ws lib => trivial
  | packet bytes => trivial
  | resizes width height lib => trivial
  | hostChanges host => trivial
  | databaseChanges db => trivial

end Steps

/-- Over every database with at most one chief for each meeting, in every run of
clients of one meeting whose statements stay with their rows at most one entry is
chief, at most one participant has the role 0, and a CHIEF to a logged-in client
leaves exactly that one as chief. -/
theorem one_chief_in_every_run (mscode : ByteString) (meet : Int) (db : Database)
    (known : RolesKnown db) (oneRow : OneChiefRow db) (exact : ExactMembers db)
    (host : ClbContext) (eCtx : EncoderContext) (audioBytes : Int) (server : Server)
    (reached : Reaches step
      (fun state event => OneMeeting mscode state event ∧ WithinMeeting meet state event)
      (startServer db host eCtx audioBytes) server) :
    OneChiefEntry server ∧ OneChiefRow server.db ∧
      ∀ event, OneMeeting mscode server event → HandsOver server event := by
  have invariant : Listed server ∧ Presided mscode meet server.clientList server.db := by
    apply invariant_of_step
      (fun state => Listed state ∧ Presided mscode meet state.clientList state.db) _ _ reached
    · refine ⟨start_listed db host eCtx audioBytes, known, oneRow, exact, ?_, ?_, ?_, ?_, ?_⟩
      · intro client member
        cases member
      · intro client member
        cases member
      · intro client member
        cases member
      · intro left member
        cases member
      · intro client member
        cases member
    · rintro state event following ⟨listed, presided⟩ ⟨assumed, within⟩ stepped
      exact ⟨step_listed listed stepped, step_presided listed presided assumed within stepped⟩
  refine ⟨invariant.2.oneEntry, invariant.2.oneRow, ?_⟩
  exact fun event assumed => hands_over invariant.1 invariant.2 assumed

theorem sample_one_chief_row : OneChiefRow sampleDatabase := by
  have first : ∀ meet mnum, ChiefRow sampleDatabase meet mnum → mnum = 1 := by
    rintro meet mnum ⟨text, stored, number⟩
    simp only [sampleDatabase] at stored
    split_ifs at stored with _ isFirst
    · exact isFirst
    · rw [← Option.some.inj (Option.some.inj stored)] at number
      exact absurd number (by decide)
    · rw [← Option.some.inj (Option.some.inj stored)] at number
      exact absurd number (by decide)
  intro meet left right leftChief rightChief
  rw [first meet left leftChief, first meet right rightChief]

theorem sample_exact_members : ExactMembers sampleDatabase := by
  have named : ∀ roles mcode mnum, sampleDatabase.members roles mcode = some mnum →
      mcode = if mnum = 1 then ascii "a" else if mnum = 2 then ascii "b" else ascii "c" := by
    intro roles mcode mnum found
    simp only [sampleDatabase] at found
    split_ifs at found with isA isB isC
    · rw [← Option.some.inj found]
      exact isA
    · rw [← Option.some.inj found]
      exact isB
    · rw [← Option.some.inj found]
      exact isC
  constructor
  · intro roles otherRoles mcode
    rfl
  · intro roles left right mnum leftFound rightFound
    rw [named roles left mnum leftFound, named roles right mnum rightFound]

theorem meeting_setting_one_meeting (server : Server) (ws : WebSocket) (mscode : String)
    {mcode : String} (whole : cStr (ascii mcode) = ascii mcode) :
    OneMeeting (ascii mscode) server
      (.messages ws (meetingMessage mcode mscode) .succeeds sampleLib) := by
  refine ⟨rfl, ?_⟩
  intro client json _ parsed
  rw [← Option.some.inj parsed]
  constructor
  · intro info presents
    rw [← Option.some.inj presents.mcode, ← Option.some.inj presents.mscode]
    exact ⟨rfl, whole⟩
  · rintro dst _ (addresses | addresses)
    · have number : (4 : Int) = 2 := Option.some.inj addresses.identifier
      exact absurd number (by decide)
    · have number : (4 : Int) = 3 := Option.some.inj addresses.identifier
      exact absurd number (by decide)

theorem sample_dst_one_meeting {server : Server} {mscode : ByteString} {ws : WebSocket}
    {dst : String} (present : ∀ client ∈ server.clientList.entries, client.role ≠ -1) :
    OneMeeting mscode server (dstEvent ws 3 dst) := by
  refine ⟨rfl, ?_⟩
  intro client json _ parsed
  rw [← Option.some.inj parsed]
  constructor
  · intro info presents
    have number : (3 : Int) = 4 := Option.some.inj presents.identifier
    exact absurd number (by decide)
  · intro other member _
    exact present other member

def handedOver : List ServerEvent :=
  [opensEvent 1, settingEvent 1 "a", opensEvent 2, settingEvent 2 "c", dstEvent 1 3 "c",
    dstEvent 2 3 "c"]

theorem sample_setting_within {server : Server} (ws : WebSocket) (mcode : String)
    (same : server.db = sampleDatabase) : WithinMeeting 1 server (settingEvent ws mcode) := by
  intro client json _ parsed
  rw [← Option.some.inj parsed]
  constructor
  · rintro info rowMeet rowMnum text presents ⟨number, meetSeq, member, decoded, found⟩ _
    rw [← Option.some.inj presents.mscode] at decoded
    have isText : meetSeq = ascii "1" := (Outcome.done.inj decoded).symm
    rw [isText, same] at found
    obtain ⟨isMeet, isNumber⟩ := Prod.mk.inj found
    exact ⟨isMeet.symm, isNumber ▸ member⟩
  · intro dst _ _ addresses
    have number : (4 : Int) = 3 := Option.some.inj addresses.identifier
    exact absurd number (by decide)

theorem sample_dst_within {server : Server} {ws : WebSocket} {dst : String}
    (members : server.db.members = sampleDatabase.members)
    (matched : server.db.matched = sampleDatabase.matched)
    (plain : ∀ client ∈ server.clientList.entries,
      meetSeqOf (cStr client.mscode) = .done (ascii "1")) :
    WithinMeeting 1 server (dstEvent ws 3 dst) := by
  intro client json found parsed
  rw [← Option.some.inj parsed]
  constructor
  · intro info rowMeet rowMnum text presents
    have number : (3 : Int) = 4 := Option.some.inj presents.identifier
    exact absurd number (by decide)
  · intro other _ _ _ srcMnum dstMnum srcFound dstFound
    have isPlain := plain client (find_ws_some found).1
    have stillFound : (server.db.setRole 1 srcMnum (ascii "1")).mnumOf (cStr other.mcode) =
        some dstMnum := by
      rw [← dstFound, Database.mnumOf, Database.mnumOf]
      change server.db.members _ _ = server.db.members _ _
      rw [members]
      rfl
    exact ⟨sample_hits .bare matched srcFound isPlain,
      sample_hits .bare matched stillFound isPlain⟩

theorem one_chief_in_every_run_handed_over :
    OneChiefEntry (after step sampleServer handedOver) ∧
      OneChiefRow (after step sampleServer handedOver).db ∧
      ∀ event, OneMeeting (ascii "MWZyb20=") (after step sampleServer handedOver) event →
        HandsOver (after step sampleServer handedOver) event := by
  apply one_chief_in_every_run (ascii "MWZyb20=") 1 sampleDatabase sample_roles_known
    sample_one_chief_row sample_exact_members sampleHost (encoderContext .image sampleHost) 0
  apply reaches_after
  · apply along_cons rfl ⟨trivial, trivial⟩
    apply along_cons rfl ⟨meeting_setting_one_meeting _ 1 _ rfl, sample_setting_within 1 _ rfl⟩
    apply along_cons rfl ⟨trivial, trivial⟩
    apply along_cons rfl ⟨meeting_setting_one_meeting _ 2 _ rfl, sample_setting_within 2 _ rfl⟩
    apply along_cons rfl
      ⟨sample_dst_one_meeting (by decide), sample_dst_within rfl rfl (by decide)⟩
    apply along_cons rfl
      ⟨sample_dst_one_meeting (by decide), sample_dst_within rfl rfl (by decide)⟩
    trivial
  · rfl

/-- Both clients present the Base64 text of `1 OR 1=1from`, and the chief hands over. -/
def everyRowRaised : List ServerEvent :=
  [opensEvent 1, .messages 1 (meetingMessage "a" "MSBPUiAxPTFmcm9t") .succeeds sampleLib,
    opensEvent 2, .messages 2 (meetingMessage "c" "MSBPUiAxPTFmcm9t") .succeeds sampleLib,
    dstEvent 1 3 "c"]

/-- Every participant has the role 0 then. -/
theorem every_row_chief :
    RolesKnown sampleDatabase ∧ OneChiefRow sampleDatabase ∧ ExactMembers sampleDatabase ∧
      Reaches step (OneMeeting (ascii "MSBPUiAxPTFmcm9t")) sampleServer
        (after step sampleServer everyRowRaised) ∧
      (∀ mnum ∈ [1, 2, 3], ChiefRow (after step sampleServer everyRowRaised).db 1 mnum) ∧
      ¬OneChiefRow (after step sampleServer everyRowRaised).db := by
  have rows : ∀ mnum ∈ [1, 2, 3], ChiefRow (after step sampleServer everyRowRaised).db 1 mnum := by
    intro mnum listed
    refine ⟨ascii "0", ?_, by decide⟩
    simp only [List.mem_cons, List.not_mem_nil, or_false] at listed
    rcases listed with rfl | rfl | rfl
    · rfl
    · rfl
    · rfl
  refine ⟨sample_roles_known, sample_one_chief_row, sample_exact_members, ?_, rows, ?_⟩
  · apply reaches_after
    · apply along_cons rfl trivial
      apply along_cons rfl (meeting_setting_one_meeting _ 1 _ rfl)
      apply along_cons rfl trivial
      apply along_cons rfl (meeting_setting_one_meeting _ 2 _ rfl)
      apply along_cons rfl (sample_dst_one_meeting (by decide))
      trivial
    · rfl
  · intro oneRow
    exact absurd (oneRow 1 1 2 (rows 1 (by decide)) (rows 2 (by decide))) (by decide)

end Collabo.SingleChief
