import Collabo.SingleChief

/-!
# Failures of the database in AUTHORITY and CHIEF

The two handlers change the table of clients before they call the database, and
the two updates of CHIEF are statements of their own. A call fails where the
connection is not made, a SELECT finds no member, or a statement raises. What it
left out is in place only where the rows had the new roles already, and what it
wrote only where the text of the meeting made it write nowhere else.
-/

namespace Collabo.HandoverFailures

open UniqueTable PartialRuns Collabo.CString Collabo.MySQLConnector Collabo.ClientTable
  Collabo.EncoderSession Collabo.CollaboServer Collabo.ServerSteps Collabo.RoleAgreement
  Collabo.ListedConnections Collabo.SingleChief

set_option autoImplicit false

inductive Request where
  | authority
  | chief
  deriving DecidableEq, Repr

def Request.identifier : Request → Int
  | .authority => 2
  | .chief => 3

def stores : Handled → Option (ClientList × Database)
  | .returns server => some (server.clientList, server.db)
  | .escapes server => some (server.clientList, server.db)
  | .undefined _ => none

def leaves (db : Database) : Outcome Database → Option Database
  | .done after => some after
  | .throws => some db
  | .undefined _ => none

def MnumFits (db : Database) (mcode : ByteString) : Prop :=
  ∀ mnum, db.mnumOf mcode = some mnum → sprintfInt mnum = .done mnum

section Calls

variable (db : Database) (call : DbCall) (src dst mscode : ByteString)

def AuthFails : Prop :=
  call.connection ≠ .established ∨ call.raisesAt = some 0 ∨ call.raisesAt = some 1 ∨
    db.mnumOf dst = none

def ChiefFails : Prop :=
  call.connection ≠ .established ∨
    (call.raisesAt = some 0 ∨ call.raisesAt = some 1 ∨ call.raisesAt = some 2 ∨
      call.raisesAt = some 3) ∨
    db.mnumOf src = none ∨
    ∀ meetSeq, meetSeqOf mscode = .done meetSeq → (db.released src meetSeq).mnumOf dst = none

/-- No statement on the way of `changeAuth` is undefined. A connection that is `NULL`
is not used where the decoding throws. -/
structure AuthDefined : Prop where
  connection : call.connection = .null → meetSeqOf mscode = .throws
  decoded : call.connection ≠ .raises → ∀ fault, meetSeqOf mscode ≠ .undefined fault
  printed : call.connection = .established → meetSeqOf mscode ≠ .throws →
    call.raisesAt ≠ some 0 → MnumFits db dst

structure ChiefDefined : Prop where
  first : AuthDefined db call src mscode
  second : call.connection = .established → call.raisesAt ≠ some 0 →
    (call.raisesAt = some 1 → db.mnumOf src = none) → call.raisesAt ≠ some 2 →
    ∀ meetSeq, meetSeqOf mscode = .done meetSeq → MnumFits (db.released src meetSeq) dst

/-- The first update is not left out because of the connection or an exception. -/
def FirstCarried : Prop :=
  call.connection = .established ∧ call.raisesAt ≠ some 0 ∧ call.raisesAt ≠ some 1

def FirstMatches (meet mnum : Int) : Prop :=
  ∃ number meetSeq stored, db.mnumOf src = some number ∧ meetSeqOf mscode = .done meetSeq ∧
    db.role meet mnum = some stored ∧
    db.matched .bare meetSeq number meet mnum stored = true

end Calls

/-- A table of clients and a database that show the whole change, of these rows alone.
Those of CHIEF are the rows of both members in the meeting of `src`. -/
def Complete (server : Server) (src dst : Client) (clientList : ClientList) (db : Database) :
    Request → Prop
  | .authority =>
      clientList = server.clientList.modify dst.mcode (ClientTable.changeAuth (!dst.authority)) ∧
        ∃ meet mnum, AtRow server.db dst meet mnum ∧ server.db.role meet mnum ≠ none ∧
          db = server.db.setRole meet mnum (authorityText (!dst.authority))
  | .chief =>
      clientList = (handOver server src.mcode dst.mcode).clientList ∧
        ∃ meet srcMnum dstMnum, AtRow server.db src meet srcMnum ∧
          RowOf server.db (cStr dst.mcode) (cStr src.mscode) meet dstMnum ∧
          server.db.role meet srcMnum ≠ none ∧ server.db.role meet dstMnum ≠ none ∧
          db = (server.db.setRole meet srcMnum (ascii "1")).setRole meet dstMnum (ascii "0")

def OneChiefIn (db : Database) (meet : Int) : Prop :=
  ∃ mnum, ChiefRow db meet mnum ∧ ∀ other, ChiefRow db meet other → other = mnum

/-- Both stores show the whole change or both are as before, and a meeting with one
chief keeps one. -/
def AllOrNothing (server : Server) (src dst : Client) (request : Request) (handled : Handled) :
    Prop :=
  ∃ clientList db, stores handled = some (clientList, db) ∧
    (Complete server src dst clientList db request ∨
      clientList = server.clientList ∧ db = server.db) ∧
    ∀ meet, OneChiefIn server.db meet → OneChiefIn db meet

def Fails (db : Database) (call : DbCall) (src dst : Client) : Request → Prop
  | .authority => AuthFails db call (cStr dst.mcode)
  | .chief => ChiefFails db call (cStr src.mcode) (cStr dst.mcode) (cStr src.mscode)

def AuthInPlace (db : Database) (dst : Client) : Prop :=
  ∃ meet mnum, AtRow db dst meet mnum ∧
    db.role meet mnum = some (some (authorityText (!dst.authority)))

/-- The row of `dst` is a chief's already. Where the first update is left out, so is the
row of `src` that of its new role; where it is made, it writes nothing else. -/
def RowsInPlace (db : Database) (call : DbCall) (src dst : Client) : Prop :=
  ∃ meet srcMnum dstMnum, AtRow db src meet srcMnum ∧
    RowOf db (cStr dst.mcode) (cStr src.mscode) meet dstMnum ∧
    db.role meet srcMnum ≠ none ∧ db.role meet dstMnum = some (some (ascii "0")) ∧
    (¬FirstCarried call ∧
        (srcMnum = dstMnum ∨ db.role meet srcMnum = some (some (ascii "1"))) ∨
      FirstCarried call ∧ ¬FirstMatches db (cStr src.mcode) (cStr src.mscode) meet dstMnum ∧
        (srcMnum = dstMnum ∨ FirstMatches db (cStr src.mcode) (cStr src.mscode) meet srcMnum ∨
          db.role meet srcMnum = some (some (ascii "1"))) ∧
        ∀ otherMeet otherMnum,
          FirstMatches db (cStr src.mcode) (cStr src.mscode) otherMeet otherMnum →
          ¬(otherMeet = meet ∧ otherMnum = srcMnum) →
          db.role otherMeet otherMnum = some (some (ascii "1")))

/-- A chief with authority names itself, and no update changes a row. -/
def SelfInPlace (db : Database) (call : DbCall) (src dst : Client) : Prop :=
  src = dst ∧ src.authority = true ∧
    (FirstCarried call → ∀ meet mnum,
      FirstMatches db (cStr src.mcode) (cStr src.mscode) meet mnum →
      db.role meet mnum = some (some (ascii "1")))

def InPlace (db : Database) (call : DbCall) (src dst : Client) : Request → Prop
  | .authority =>
      AuthDefined db call (cStr dst.mcode) (cStr dst.mscode) ∧ AuthInPlace db dst
  | .chief =>
      ChiefDefined db call (cStr src.mcode) (cStr dst.mcode) (cStr src.mscode) ∧
        (RowsInPlace db call src dst ∨ SelfInPlace db call src dst)

section Connector

variable {db : Database} {call : DbCall}

theorem update_role_cases (quoting : Quoting) (first : Nat) (meetSeq mcode text : ByteString) :
    (call.raisesAt = some first ∧
      updateRole db call quoting first meetSeq mcode text = .done { db := db, raised := true }) ∨
    (call.raisesAt ≠ some first ∧ db.mnumOf mcode = none ∧
      updateRole db call quoting first meetSeq mcode text = .done { db := db, raised := false }) ∨
    (call.raisesAt ≠ some first ∧ ¬MnumFits db mcode ∧
      ∃ fault, updateRole db call quoting first meetSeq mcode text = .undefined fault) ∨
    (call.raisesAt = some (first + 1) ∧ MnumFits db mcode ∧ (∃ mnum, db.mnumOf mcode = some mnum) ∧
      updateRole db call quoting first meetSeq mcode text = .done { db := db, raised := true }) ∨
    (call.raisesAt ≠ some first ∧ call.raisesAt ≠ some (first + 1) ∧ MnumFits db mcode ∧
      ∃ mnum, db.mnumOf mcode = some mnum ∧
        updateRole db call quoting first meetSeq mcode text =
          .done { db := db.update quoting meetSeq mnum text, raised := false }) := by
  unfold updateRole
  by_cases selectRaises : call.raisesAt = some first
  · rw [if_pos selectRaises]
    exact .inl ⟨selectRaises, rfl⟩
  · rw [if_neg selectRaises]
    apply Or.inr
    cases member : db.mnumOf mcode with
    | none => exact .inl ⟨selectRaises, rfl, rfl⟩
    | some mnum =>
        apply Or.inr
        cases print : sprintfInt mnum with
        | undefined fault =>
            refine .inl ⟨selectRaises, ?_, fault, ?_⟩
            · intro fits
              have printed := fits mnum member
              rw [print] at printed
              cases printed
            · simp only [print, Outcome.bind]
        | throws =>
            unfold sprintfInt at print
            split_ifs at print
        | done printed =>
            have same := sprintf_int_done print
            have fits : MnumFits db mcode := by
              intro other found
              rw [← Option.some.inj (member.symm.trans found), print, same]
            apply Or.inr
            by_cases updateRaises : call.raisesAt = some (first + 1)
            · refine .inl ⟨updateRaises, fits, ⟨mnum, rfl⟩, ?_⟩
              simp only [print, Outcome.bind, if_pos updateRaises]
            · refine .inr ⟨selectRaises, updateRaises, fits, mnum, rfl, ?_⟩
              simp only [print, Outcome.bind, if_neg updateRaises, same]

theorem auth_defined_refused {src mscode : ByteString} (refused : call.connection = .raises) :
    AuthDefined db call src mscode where
  connection null := by
    rw [refused] at null
    cases null
  decoded made := absurd refused made
  printed made := by
    rw [refused] at made
    cases made

theorem auth_defined_thrown {src mscode : ByteString} (text : meetSeqOf mscode = .throws) :
    AuthDefined db call src mscode where
  connection _ := text
  decoded _ fault := by
    rw [text]
    exact nofun
  printed _ noThrow := absurd text noThrow

theorem auth_defined_decoded {src mscode meetSeq : ByteString}
    (made : call.connection = .established) (text : meetSeqOf mscode = .done meetSeq)
    (printed : call.raisesAt ≠ some 0 → MnumFits db src) : AuthDefined db call src mscode where
  connection null := by
    rw [made] at null
    cases null
  decoded _ fault := by
    rw [text]
    exact nofun
  printed _ _ := printed

theorem not_thrown {mscode meetSeq : ByteString} (text : meetSeqOf mscode = .done meetSeq) :
    meetSeqOf mscode ≠ .throws := by
  rw [text]
  exact nofun

theorem mnum_fits_missing {mcode : ByteString} (missing : db.mnumOf mcode = none) :
    MnumFits db mcode := by
  intro mnum member
  rw [missing] at member
  cases member

theorem connected_failing {dst mscode : ByteString} {statements : ByteString → Outcome Database} :
    (AuthDefined db call dst mscode ∧
      leaves db (MySQLConnector.connected call ((meetSeqOf mscode).bind fun meetSeq =>
        stated call (statements meetSeq))) = some db ∧
      (call.connection = .raises ∨ meetSeqOf mscode = .throws)) ∨
    (¬AuthDefined db call dst mscode ∧
      leaves db (MySQLConnector.connected call ((meetSeqOf mscode).bind fun meetSeq =>
        stated call (statements meetSeq))) = none) ∨
    (call.connection = .established ∧ ∃ meetSeq, meetSeqOf mscode = .done meetSeq ∧
      MySQLConnector.connected call ((meetSeqOf mscode).bind fun meetSeq =>
        stated call (statements meetSeq)) = statements meetSeq) := by
  unfold MySQLConnector.connected stated
  cases made : call.connection with
  | raises => exact .inl ⟨auth_defined_refused made, rfl, .inl rfl⟩
  | null =>
      cases text : meetSeqOf mscode with
      | throws => exact .inl ⟨auth_defined_thrown text, rfl, .inr rfl⟩
      | undefined fault =>
          refine .inr (.inl ⟨fun defined => defined.decoded ?_ fault text, rfl⟩)
          rw [made]
          decide
      | done meetSeq =>
          refine .inr (.inl ⟨?_, rfl⟩)
          intro defined
          have thrown := defined.connection made
          rw [text] at thrown
          cases thrown
  | established =>
      cases text : meetSeqOf mscode with
      | throws => exact .inl ⟨auth_defined_thrown text, rfl, .inr rfl⟩
      | undefined fault =>
          refine .inr (.inl ⟨fun defined => defined.decoded ?_ fault text, rfl⟩)
          rw [made]
          decide
      | done meetSeq => exact .inr (.inr ⟨rfl, meetSeq, rfl, rfl⟩)

/-- A failing `changeAuth` that is defined leaves the database as it was. -/
theorem change_auth_failing {dst mscode : ByteString} {authority : Bool}
    (fails : AuthFails db call dst) :
    (AuthDefined db call dst mscode ∧
      leaves db (MySQLConnector.changeAuth db call dst authority mscode) = some db) ∨
    (¬AuthDefined db call dst mscode ∧
      leaves db (MySQLConnector.changeAuth db call dst authority mscode) = none) := by
  unfold MySQLConnector.changeAuth
  rcases @connected_failing db call dst mscode fun meetSeq =>
    (updateRole db call .quoted 0 meetSeq dst (if authority then ascii "1" else ascii "2")).bind
      fun updated => .done updated.db with
    ⟨defined, left, _⟩ | undefined | ⟨made, meetSeq, text, statements⟩
  · exact .inl ⟨defined, left⟩
  · exact .inr undefined
  · rw [statements]
    rcases @update_role_cases db call .quoted 0 meetSeq dst
      (if authority then ascii "1" else ascii "2") with
      ⟨raises, result⟩ | ⟨_, missing, result⟩ | ⟨reached, unfit, fault, result⟩ |
      ⟨raises, fits, _, result⟩ | ⟨unraised, carried, _, mnum, member, result⟩
    · rw [result]
      exact .inl ⟨auth_defined_decoded made text fun reached => absurd raises reached, rfl⟩
    · rw [result]
      exact .inl ⟨auth_defined_decoded made text fun _ => mnum_fits_missing missing, rfl⟩
    · rw [result]
      exact .inr ⟨fun defined => unfit (defined.printed made (not_thrown text) reached), rfl⟩
    · rw [result]
      exact .inl ⟨auth_defined_decoded made text fun _ => fits, rfl⟩
    · rcases fails with unmade | raises | raises | missing
      · exact absurd made unmade
      · exact absurd raises unraised
      · exact absurd raises carried
      · rw [missing] at member
        cases member

/-- What a failing `changeChief` leaves: nothing is written, or by one of its two updates,
the second one only where the member of the first one is not found. -/
inductive ChiefLeft (db : Database) (call : DbCall) (src dst mscode : ByteString) :
    Database → Prop where
  | nothing (idle : FirstCarried call → ∀ meet mnum, ¬RowOf db src mscode meet mnum) :
      ChiefLeft db call src dst mscode db
  | first {number : Int} {meetSeq : ByteString} (member : db.mnumOf src = some number)
      (decoded : meetSeqOf mscode = .done meetSeq) (carried : FirstCarried call) :
      ChiefLeft db call src dst mscode (db.update .bare meetSeq number (ascii "1"))
  | second {number : Int} {meetSeq : ByteString} (missing : db.mnumOf src = none)
      (member : db.mnumOf dst = some number) :
      ChiefLeft db call src dst mscode (db.update .bare meetSeq number (ascii "0"))

section Updates

variable {src dst mscode meetSeq : ByteString}

theorem second_update {current : Database} (same : db.released src meetSeq = current)
    (made : call.connection = .established) (text : meetSeqOf mscode = .done meetSeq)
    (unraised : call.raisesAt ≠ some 0) (later : call.raisesAt = some 1 → db.mnumOf src = none)
    (fits : MnumFits db src) :
    (ChiefDefined db call src dst mscode ∧
      ((∃ updated, updateRole current call .bare 2 meetSeq dst (ascii "0") = .done updated ∧
        updated.db = current) ∨
      ∃ mnum, current.mnumOf dst = some mnum ∧ call.raisesAt ≠ some 2 ∧
        call.raisesAt ≠ some 3 ∧
        updateRole current call .bare 2 meetSeq dst (ascii "0") =
          .done { db := current.update .bare meetSeq mnum (ascii "0"), raised := false })) ∨
    (¬ChiefDefined db call src dst mscode ∧
      ∃ fault, updateRole current call .bare 2 meetSeq dst (ascii "0") = .undefined fault) := by
  have first : AuthDefined db call src mscode := auth_defined_decoded made text fun _ => fits
  have defined : (call.raisesAt ≠ some 2 → MnumFits current dst) →
      ChiefDefined db call src dst mscode := by
    intro printed
    refine ⟨first, ?_⟩
    intro _ _ _ reached otherSeq otherText
    rw [← Outcome.done.inj (text.symm.trans otherText), same]
    exact printed reached
  rcases @update_role_cases current call .bare 2 meetSeq dst (ascii "0") with
    ⟨raises, result⟩ | ⟨_, missing, result⟩ | ⟨reached, unfit, result⟩ |
    ⟨raises, printed, _, result⟩ | ⟨reached, carried, printed, mnum, member, result⟩
  · exact .inl ⟨defined fun reached => absurd raises reached, .inl ⟨_, result, rfl⟩⟩
  · exact .inl ⟨defined fun _ => mnum_fits_missing missing, .inl ⟨_, result, rfl⟩⟩
  · refine .inr ⟨?_, result⟩
    intro whole
    have printed := whole.second made unraised later reached meetSeq text
    rw [same] at printed
    exact unfit printed
  · exact .inl ⟨defined fun _ => printed, .inl ⟨_, result, rfl⟩⟩
  · exact .inl ⟨defined fun _ => printed, .inr ⟨mnum, member, reached, carried, result⟩⟩

theorem released_missing (missing : db.mnumOf src = none) : db.released src meetSeq = db := by
  unfold Database.released
  rw [missing]

theorem released_found {number : Int} (member : db.mnumOf src = some number) :
    db.released src meetSeq = db.update .bare meetSeq number (ascii "1") := by
  unfold Database.released
  rw [member]

theorem missing_left (made : call.connection = .established)
    (text : meetSeqOf mscode = .done meetSeq) (unraised : call.raisesAt ≠ some 0)
    (missing : db.mnumOf src = none) :
    (ChiefDefined db call src dst mscode ∧
      ∃ after, leaves db ((updateRole db call .bare 2 meetSeq dst (ascii "0")).bind
          fun updated => .done updated.db) = some after ∧
        ChiefLeft db call src dst mscode after) ∨
    (¬ChiefDefined db call src dst mscode ∧
      leaves db ((updateRole db call .bare 2 meetSeq dst (ascii "0")).bind
        fun updated => .done updated.db) = none) := by
  have fits : MnumFits db src := mnum_fits_missing missing
  have idle : FirstCarried call → ∀ meet mnum, ¬RowOf db src mscode meet mnum := by
    rintro _ meet mnum ⟨_, _, member, _⟩
    rw [missing] at member
    cases member
  rcases @second_update db call src dst mscode meetSeq db (released_missing missing) made text
    unraised (fun _ => missing) fits with
    ⟨defined, ⟨updated, second, kept⟩ | ⟨mnum, member, _, _, second⟩⟩ |
    ⟨undefined, fault, second⟩
  · rw [second]
    exact .inl ⟨defined, db, congrArg some kept, .nothing idle⟩
  · rw [second]
    exact .inl ⟨defined, _, rfl, .second missing member⟩
  · rw [second]
    exact .inr ⟨undefined, rfl⟩

theorem carried_left {mnum : Int} (fails : ChiefFails db call src dst mscode)
    (made : call.connection = .established) (text : meetSeqOf mscode = .done meetSeq)
    (unraised : call.raisesAt ≠ some 0) (carried : call.raisesAt ≠ some 1)
    (fits : MnumFits db src) (member : db.mnumOf src = some mnum) :
    let current := db.update .bare meetSeq mnum (ascii "1")
    (ChiefDefined db call src dst mscode ∧
      ∃ after, leaves db ((updateRole current call .bare 2 meetSeq dst (ascii "0")).bind
          fun updated => .done updated.db) = some after ∧
        ChiefLeft db call src dst mscode after) ∨
    (¬ChiefDefined db call src dst mscode ∧
      leaves db ((updateRole current call .bare 2 meetSeq dst (ascii "0")).bind
        fun updated => .done updated.db) = none) := by
  intro current
  have released : db.released src meetSeq = current := released_found member
  rcases @second_update db call src dst mscode meetSeq current released made text unraised
    (fun raises => absurd raises carried) fits with
    ⟨defined, ⟨updated, second, kept⟩ | ⟨other, found, reached, last, second⟩⟩ |
    ⟨undefined, fault, second⟩
  · rw [second]
    exact .inl ⟨defined, _, congrArg some kept, .first member text ⟨made, unraised, carried⟩⟩
  · rcases fails with unmade | raises | missing | missing
    · exact absurd made unmade
    · rcases raises with at0 | at1 | at2 | at3
      · exact absurd at0 unraised
      · exact absurd at1 carried
      · exact absurd at2 reached
      · exact absurd at3 last
    · rw [missing] at member
      cases member
    · have unfound := missing meetSeq text
      rw [released, found] at unfound
      cases unfound
  · rw [second]
    exact .inr ⟨undefined, rfl⟩

theorem change_chief_failing (fails : ChiefFails db call src dst mscode) :
    (ChiefDefined db call src dst mscode ∧
      ∃ after, leaves db (MySQLConnector.changeChief db call src dst mscode) = some after ∧
        ChiefLeft db call src dst mscode after) ∨
    (¬ChiefDefined db call src dst mscode ∧
      leaves db (MySQLConnector.changeChief db call src dst mscode) = none) := by
  unfold MySQLConnector.changeChief
  rcases @connected_failing db call src mscode fun meetSeq =>
    (updateRole db call .bare 0 meetSeq src (ascii "1")).bind fun handed =>
    if handed.raised then .done handed.db
    else
      (updateRole handed.db call .bare 2 meetSeq dst (ascii "0")).bind
        fun updated => .done updated.db with
    ⟨defined, left, stopped⟩ | ⟨undefined, left⟩ | ⟨made, meetSeq, text, statements⟩
  · refine .inl ⟨⟨defined, ?_⟩, db, left, .nothing ?_⟩
    · intro made _ _ _ meetSeq text
      rcases stopped with refused | thrown
      · rw [refused] at made
        cases made
      · rw [thrown] at text
        cases text
    · rintro ⟨made, _⟩ meet mnum ⟨_, meetSeq, _, text, _⟩
      rcases stopped with refused | thrown
      · rw [refused] at made
        cases made
      · rw [thrown] at text
        cases text
  · exact .inr ⟨fun defined => undefined defined.first, left⟩
  · rw [statements]
    rcases @update_role_cases db call .bare 0 meetSeq src (ascii "1") with
      ⟨raises, result⟩ | ⟨unraised, missing, result⟩ | ⟨reached, unfit, fault, result⟩ |
      ⟨raises, fits, ⟨mnum, member⟩, result⟩ |
      ⟨unraised, carried, fits, mnum, member, result⟩
    · rw [result]
      exact .inl ⟨⟨auth_defined_decoded made text fun reached => absurd raises reached,
        fun _ reached => absurd raises reached⟩, db, rfl,
        .nothing fun carried => absurd raises carried.2.1⟩
    · rw [result]
      dsimp only [Outcome.bind]
      rw [if_neg Bool.false_ne_true]
      exact missing_left made text unraised missing
    · rw [result]
      exact .inr ⟨fun defined =>
        unfit (defined.first.printed made (not_thrown text) reached), rfl⟩
    · rw [result]
      refine .inl ⟨⟨auth_defined_decoded made text fun _ => fits, ?_⟩, db, rfl, .nothing ?_⟩
      · intro _ _ later
        rw [later raises] at member
        cases member
      · intro carried
        exact absurd raises carried.2.2
    · rw [result]
      dsimp only [Outcome.bind]
      rw [if_neg Bool.false_ne_true]
      exact carried_left fails made text unraised carried fits member

end Updates

end Connector

section Handlers

variable {server : Server} {src dst : Client} {json : Json}

theorem after_update_stores {modified : Server} (kept : modified.db = server.db)
    (message : MediaStream.StcMsg) (outcome : Outcome Database) :
    stores (afterUpdate modified message outcome) =
      (leaves server.db outcome).map fun db => (modified.clientList, db) := by
  rw [← kept]
  cases outcome with
  | done db => rfl
  | throws => rfl
  | undefined fault => rfl

theorem authority_stores_left (named : json.text "dst" = some dst.mcode) (chief : src.chief = true)
    (member : dst ∈ server.clientList.entries) (call : DbCall) :
    stores (onAuthority server src json call) =
      (leaves server.db (MySQLConnector.changeAuth server.db call (cStr dst.mcode)
        (!dst.authority) (cStr dst.mscode))).map fun db =>
        (server.clientList.modify dst.mcode (ClientTable.changeAuth (!dst.authority)), db) := by
  rw [on_authority_eq, to_member_named named chief (find_of_mem member)]
  exact after_update_stores rfl _ _

theorem chief_stores_left (named : json.text "dst" = some dst.mcode) (chief : src.chief = true)
    (member : dst ∈ server.clientList.entries) (call : DbCall) :
    stores (onChief server src json call) =
      (leaves server.db (MySQLConnector.changeChief server.db call (cStr src.mcode)
        (cStr dst.mcode) (cStr src.mscode))).map fun db =>
        ((handOver server src.mcode dst.mcode).clientList, db) := by
  rw [on_chief_eq, to_member_named named chief (find_of_mem member)]
  exact after_update_stores rfl _ _

theorem table_ext {left right : ClientList} (same : left.entries = right.entries) :
    left = right := by
  cases left
  cases right
  cases same
  rfl

theorem entry_of_map_same {entries : List Client} {change : Client → Client} {client : Client}
    (same : entries.map change = entries) (member : client ∈ entries) : change client = client :=
  List.map_inj_left.mp (same.trans (List.map_id entries).symm) client member

theorem authority_changes (member : dst ∈ server.clientList.entries) :
    server.clientList.modify dst.mcode (ClientTable.changeAuth (!dst.authority)) ≠
      server.clientList := by
  intro same
  have entries := congrArg UniqueTable.Table.entries same
  rw [modify_entries (ClientTable.changeAuth (!dst.authority)) (fun _ => rfl)] at entries
  have kept := entry_of_map_same entries member
  rw [if_pos rfl] at kept
  have flipped : (!dst.authority) = dst.authority := congrArg Client.authority kept
  exact absurd flipped (Bool.not_ne_self dst.authority)

theorem promoted_itself {client : Client} (chief : client.chief = true)
    (authority : client.authority = true) :
    ClientTable.changeAuth true (ClientTable.changeChief true client) = client := by
  cases client
  cases chief
  cases authority
  rfl

/-- CHIEF leaves the entries as they are only where a chief with authority names itself. -/
theorem hand_over_unchanged (srcMember : src ∈ server.clientList.entries)
    (dstMember : dst ∈ server.clientList.entries) (chief : src.chief = true) :
    (handOver server src.mcode dst.mcode).clientList = server.clientList ↔
      src = dst ∧ src.authority = true := by
  constructor
  · intro same
    have entries := congrArg UniqueTable.Table.entries same
    rw [hand_over_entries] at entries
    have srcKept := entry_of_map_same entries srcMember
    by_cases own : src.mcode = dst.mcode
    · refine ⟨item_eq_of_key srcMember dstMember own, ?_⟩
      unfold handed at srcKept
      rw [if_pos own] at srcKept
      exact (congrArg Client.authority srcKept).symm
    · unfold handed at srcKept
      rw [if_neg own, if_pos rfl] at srcKept
      have released : false = src.chief := congrArg Client.chief srcKept
      rw [chief] at released
      cases released
  · rintro ⟨own, authority⟩
    apply table_ext
    rw [hand_over_entries]
    refine (List.map_congr_left ?_).trans (List.map_id server.clientList.entries)
    intro client member
    rw [← own]
    unfold handed
    split_ifs with isSrc
    · have same := item_eq_of_key member srcMember isSrc
      rw [same]
      exact promoted_itself chief authority
    · rfl

end Handlers

section Rows

variable {db : Database} {meet mnum : Int}

theorem set_role_present (present : db.role meet mnum ≠ none) {text : ByteString} :
    (db.setRole meet mnum text).role meet mnum = some (some text) := by
  rcases Option.ne_none_iff_exists'.mp present with ⟨old, stored⟩
  simp [Database.setRole, stored]

/-- An update that changes nothing: its row is missing or has the role already. -/
theorem set_role_same_iff {text : ByteString} :
    db.setRole meet mnum text = db ↔
      db.role meet mnum = none ∨ db.role meet mnum = some (some text) := by
  constructor
  · intro same
    have here : (db.setRole meet mnum text).role meet mnum = db.role meet mnum := by rw [same]
    simp only [Database.setRole, and_self, if_true] at here
    cases stored : db.role meet mnum with
    | none => exact .inl rfl
    | some old =>
        rw [stored] at here
        exact .inr here.symm
  · intro already
    refine Database.ext rfl rfl rfl ?_
    funext otherMeet otherMnum
    by_cases same : otherMeet = meet ∧ otherMnum = mnum
    · rw [same.1, same.2]
      rcases already with missing | stored
      · simp [Database.setRole, missing]
      · simp [Database.setRole, stored]
    · exact set_role_elsewhere text same

variable {srcMnum dstMnum : Int}

theorem both_set_same_iff (srcRow : db.role meet srcMnum ≠ none)
    (dstRow : db.role meet dstMnum ≠ none) :
    db = (db.setRole meet srcMnum (ascii "1")).setRole meet dstMnum (ascii "0") ↔
      db.role meet dstMnum = some (some (ascii "0")) ∧
        (srcMnum = dstMnum ∨ db.role meet srcMnum = some (some (ascii "1"))) := by
  by_cases same : srcMnum = dstMnum
  · rw [same, set_role_twice, eq_comm, set_role_same_iff]
    constructor
    · rintro (missing | stored)
      · exact absurd missing dstRow
      · exact ⟨stored, .inl rfl⟩
    · rintro ⟨stored, _⟩
      exact .inr stored
  · constructor
    · intro kept
      have atDst : db.role meet dstMnum =
          ((db.setRole meet srcMnum (ascii "1")).setRole meet dstMnum (ascii "0")).role meet
            dstMnum := by rw [← kept]
      have atSrc : db.role meet srcMnum =
          ((db.setRole meet srcMnum (ascii "1")).setRole meet dstMnum (ascii "0")).role meet
            srcMnum := by rw [← kept]
      rw [set_role_elsewhere _ (fun here => same here.2), set_role_present srcRow] at atSrc
      rw [set_role_present] at atDst
      · exact ⟨atDst, .inr atSrc⟩
      · rw [set_role_elsewhere _ (fun here => same here.2.symm)]
        exact dstRow
    · rintro ⟨dstStored, equal | srcStored⟩
      · exact absurd equal same
      · rw [set_role_same_iff.mpr (.inr srcStored), set_role_same_iff.mpr (.inr dstStored)]

section First

variable {src mscode meetSeq : ByteString} {number : Int}

theorem first_update_matched (member : db.mnumOf src = some number)
    (decoded : meetSeqOf mscode = .done meetSeq) (hit : FirstMatches db src mscode meet mnum)
    (text : ByteString) :
    (db.update .bare meetSeq number text).role meet mnum = some (some text) := by
  obtain ⟨sameNumber, sameSeq, stored, sameMember, sameText, present, isMatched⟩ := hit
  cases member.symm.trans sameMember
  cases decoded.symm.trans sameText
  simp [Database.update, present, isMatched]

theorem first_update_unmatched (member : db.mnumOf src = some number)
    (decoded : meetSeqOf mscode = .done meetSeq) (miss : ¬FirstMatches db src mscode meet mnum)
    (text : ByteString) :
    (db.update .bare meetSeq number text).role meet mnum = db.role meet mnum := by
  cases present : db.role meet mnum with
  | none => simp [Database.update, present]
  | some stored =>
      have unmatched : db.matched .bare meetSeq number meet mnum stored = false := by
        apply Bool.eq_false_iff.mpr
        intro isMatched
        exact miss ⟨number, meetSeq, stored, member, decoded, present, isMatched⟩
      simp [Database.update, present, unmatched]

theorem first_update_same_iff (member : db.mnumOf src = some number)
    (decoded : meetSeqOf mscode = .done meetSeq) {text : ByteString} :
    db.update .bare meetSeq number text = db ↔
      ∀ meet mnum, FirstMatches db src mscode meet mnum →
        db.role meet mnum = some (some text) := by
  constructor
  · intro same meet mnum hit
    rw [← first_update_matched member decoded hit text, same]
  · intro already
    refine Database.ext rfl rfl rfl ?_
    funext meet mnum
    by_cases hit : FirstMatches db src mscode meet mnum
    · rw [first_update_matched member decoded hit, already meet mnum hit]
    · exact first_update_unmatched member decoded hit text

theorem both_set (srcRow : db.role meet srcMnum ≠ none) (dstRow : db.role meet dstMnum ≠ none) :
    ((db.setRole meet srcMnum (ascii "1")).setRole meet dstMnum (ascii "0")).role meet dstMnum =
        some (some (ascii "0")) ∧
      (srcMnum ≠ dstMnum →
        ((db.setRole meet srcMnum (ascii "1")).setRole meet dstMnum (ascii "0")).role meet srcMnum =
          some (some (ascii "1"))) ∧
      ∀ otherMeet otherMnum, ¬(otherMeet = meet ∧ otherMnum = srcMnum) →
        ¬(otherMeet = meet ∧ otherMnum = dstMnum) →
        ((db.setRole meet srcMnum (ascii "1")).setRole meet dstMnum (ascii "0")).role otherMeet
          otherMnum = db.role otherMeet otherMnum := by
  have stillRow : (db.setRole meet srcMnum (ascii "1")).role meet dstMnum ≠ none := by
    by_cases same : srcMnum = dstMnum
    · rw [same, set_role_present dstRow]
      exact Option.some_ne_none _
    · rw [set_role_elsewhere _ (fun here => same here.2.symm)]
      exact dstRow
  refine ⟨set_role_present stillRow, ?_, ?_⟩
  · intro different
    rw [set_role_elsewhere _ (fun here => different here.2), set_role_present srcRow]
  · intro otherMeet otherMnum notSrc notDst
    rw [set_role_elsewhere _ notDst, set_role_elsewhere _ notSrc]

/-- The first update alone leaves what both were to leave: row by row. -/
theorem first_update_both_iff (member : db.mnumOf src = some number)
    (decoded : meetSeqOf mscode = .done meetSeq) (srcRow : db.role meet srcMnum ≠ none)
    (dstRow : db.role meet dstMnum ≠ none) :
    db.update .bare meetSeq number (ascii "1") =
        (db.setRole meet srcMnum (ascii "1")).setRole meet dstMnum (ascii "0") ↔
      db.role meet dstMnum = some (some (ascii "0")) ∧
        ¬FirstMatches db src mscode meet dstMnum ∧
        (srcMnum = dstMnum ∨ FirstMatches db src mscode meet srcMnum ∨
          db.role meet srcMnum = some (some (ascii "1"))) ∧
        ∀ otherMeet otherMnum, FirstMatches db src mscode otherMeet otherMnum →
          ¬(otherMeet = meet ∧ otherMnum = srcMnum) →
          db.role otherMeet otherMnum = some (some (ascii "1")) := by
  obtain ⟨atDst, atSrc, elsewhere⟩ := both_set srcRow dstRow
  constructor
  · intro same
    have missed : ¬FirstMatches db src mscode meet dstMnum := by
      intro hit
      rw [← same, first_update_matched member decoded hit] at atDst
      exact absurd (Option.some.inj (Option.some.inj atDst)) (by decide)
    refine ⟨?_, missed, ?_, ?_⟩
    · rw [← first_update_unmatched member decoded missed (ascii "1"), same]
      exact atDst
    · by_cases alike : srcMnum = dstMnum
      · exact .inl alike
      by_cases hit : FirstMatches db src mscode meet srcMnum
      · exact .inr (.inl hit)
      · rw [← first_update_unmatched member decoded hit (ascii "1"), same]
        exact .inr (.inr (atSrc alike))
    · intro otherMeet otherMnum hit notSrc
      have notDst : ¬(otherMeet = meet ∧ otherMnum = dstMnum) := by
        rintro ⟨rfl, rfl⟩
        exact missed hit
      rw [← elsewhere otherMeet otherMnum notSrc notDst, ← same]
      exact first_update_matched member decoded hit _
  · rintro ⟨stored, missed, srcKept, others⟩
    refine Database.ext rfl rfl rfl ?_
    funext otherMeet otherMnum
    by_cases isDst : otherMeet = meet ∧ otherMnum = dstMnum
    · obtain ⟨rfl, rfl⟩ := isDst
      rw [first_update_unmatched member decoded missed, atDst, stored]
    by_cases isSrc : otherMeet = meet ∧ otherMnum = srcMnum
    · obtain ⟨rfl, rfl⟩ := isSrc
      have different : otherMnum ≠ dstMnum := fun alike => isDst ⟨rfl, alike⟩
      rw [atSrc different]
      by_cases hit : FirstMatches db src mscode otherMeet otherMnum
      · exact first_update_matched member decoded hit _
      · rw [first_update_unmatched member decoded hit]
        rcases srcKept with alike | already | already
        · exact absurd alike different
        · exact absurd already hit
        · exact already
    · rw [elsewhere otherMeet otherMnum isSrc isDst]
      by_cases hit : FirstMatches db src mscode otherMeet otherMnum
      · rw [first_update_matched member decoded hit, others otherMeet otherMnum hit isSrc]
      · exact first_update_unmatched member decoded hit _

end First

/-- The whole change leaves a meeting its chief where the new one has the role already. -/
theorem one_chief_kept (dstChief : db.role meet dstMnum = some (some (ascii "0"))) {other : Int}
    (one : OneChiefIn db other) :
    OneChiefIn ((db.setRole meet srcMnum (ascii "1")).setRole meet dstMnum (ascii "0")) other := by
  by_cases same : srcMnum = dstMnum
  · rw [same, set_role_twice, set_role_same_iff.mpr (.inr dstChief)]
    exact one
  have kept : (db.setRole meet srcMnum (ascii "1")).role meet dstMnum =
      some (some (ascii "0")) := by
    rw [set_role_elsewhere _ (fun here => same here.2.symm), dstChief]
  rw [set_role_same_iff.mpr (.inr kept)]
  rcases one with ⟨mnum, ⟨text, stored, number⟩, unique⟩
  have lower : roleNumber (ascii "1") ≠ 0 := by
    rw [authority_text_number]
    decide
  have elsewhere : ¬(other = meet ∧ mnum = srcMnum) := by
    rintro ⟨sameMeet, sameMnum⟩
    rw [← sameMeet] at dstChief
    have dst := unique dstMnum ⟨_, dstChief, chief_text_number⟩
    exact same (sameMnum.symm.trans dst.symm)
  refine ⟨mnum, ⟨text, ?_, number⟩, ?_⟩
  · rw [set_role_elsewhere _ elsewhere]
    exact stored
  · intro held chief
    exact unique held (lower_role_chief_row lower chief).1

end Rows

section Requests

variable {server : Server} {src dst : Client} {json : Json} {call : DbCall} {after : Database}

/-- The row of a failing AUTHORITY is not written, and the entry of `dst` is. -/
theorem authority_complete_iff :
    Complete server src dst
        (server.clientList.modify dst.mcode (ClientTable.changeAuth (!dst.authority))) server.db
        .authority ↔
      AuthInPlace server.db dst := by
  constructor
  · rintro ⟨_, meet, mnum, row, present, same⟩
    rcases set_role_same_iff.mp same.symm with missing | stored
    · exact absurd missing present
    · exact ⟨meet, mnum, row, stored⟩
  · rintro ⟨meet, mnum, row, stored⟩
    refine ⟨rfl, meet, mnum, row, ?_, (set_role_same_iff.mpr (.inr stored)).symm⟩
    rw [stored]
    exact Option.some_ne_none _

theorem authority_all_or_nothing (named : json.text "dst" = some dst.mcode)
    (chief : src.chief = true) (member : dst ∈ server.clientList.entries)
    (fails : AuthFails server.db call (cStr dst.mcode)) :
    AllOrNothing server src dst .authority (onAuthority server src json call) ↔
      AuthDefined server.db call (cStr dst.mcode) (cStr dst.mscode) ∧
        AuthInPlace server.db dst := by
  unfold AllOrNothing
  rw [authority_stores_left named chief member]
  rcases @change_auth_failing server.db call (cStr dst.mcode) (cStr dst.mscode)
    (!dst.authority) fails with ⟨defined, left⟩ | ⟨undefined, left⟩
  · rw [left]
    constructor
    · rintro ⟨clientList, db, left, complete | ⟨unchanged, _⟩, _⟩
      · cases left
        exact ⟨defined, authority_complete_iff.mp complete⟩
      · cases left
        exact absurd unchanged (authority_changes member)
    · rintro ⟨_, inPlace⟩
      exact ⟨_, _, rfl, .inl (authority_complete_iff.mpr inPlace), fun _ one => one⟩
  · rw [left]
    constructor
    · rintro ⟨clientList, db, left, _⟩
      cases left
    · rintro ⟨defined, _⟩
      exact absurd defined undefined

theorem chief_complete_iff (left : ChiefLeft server.db call (cStr src.mcode) (cStr dst.mcode)
    (cStr src.mscode) after) :
    Complete server src dst (handOver server src.mcode dst.mcode).clientList after .chief ↔
      RowsInPlace server.db call src dst := by
  cases left with
  | nothing idle =>
      constructor
      · rintro ⟨_, meet, srcMnum, dstMnum, row, dstRow, srcPresent, dstPresent, same⟩
        have uncarried : ¬FirstCarried call := fun carried => idle carried meet srcMnum row
        obtain ⟨stored, srcKept⟩ := (both_set_same_iff srcPresent dstPresent).mp same
        exact ⟨meet, srcMnum, dstMnum, row, dstRow, srcPresent, stored, .inl ⟨uncarried, srcKept⟩⟩
      · rintro ⟨meet, srcMnum, dstMnum, row, dstRow, srcPresent, stored, cases⟩
        have dstPresent : server.db.role meet dstMnum ≠ none := by
          rw [stored]
          exact Option.some_ne_none _
        rcases cases with ⟨_, srcKept⟩ | ⟨carried, _⟩
        · exact ⟨rfl, meet, srcMnum, dstMnum, row, dstRow, srcPresent, dstPresent,
            (both_set_same_iff srcPresent dstPresent).mpr ⟨stored, srcKept⟩⟩
        · exact absurd row (idle carried meet srcMnum)
  | first member decoded carried =>
      constructor
      · rintro ⟨_, meet, srcMnum, dstMnum, row, dstRow, srcPresent, dstPresent, same⟩
        obtain ⟨stored, inPlace⟩ :=
          (first_update_both_iff member decoded srcPresent dstPresent).mp same
        exact ⟨meet, srcMnum, dstMnum, row, dstRow, srcPresent, stored, .inr ⟨carried, inPlace⟩⟩
      · rintro ⟨meet, srcMnum, dstMnum, row, dstRow, srcPresent, stored, cases⟩
        have dstPresent : server.db.role meet dstMnum ≠ none := by
          rw [stored]
          exact Option.some_ne_none _
        rcases cases with ⟨uncarried, _⟩ | ⟨_, inPlace⟩
        · exact absurd carried uncarried
        · exact ⟨rfl, meet, srcMnum, dstMnum, row, dstRow, srcPresent, dstPresent,
            (first_update_both_iff member decoded srcPresent dstPresent).mpr ⟨stored, inPlace⟩⟩
  | second missing member =>
      constructor
      · rintro ⟨_, _, _, _, ⟨_, _, found, _⟩, _⟩
        exact absurd (missing.symm.trans found) (by simp)
      · rintro ⟨_, _, _, ⟨_, _, found, _⟩, _⟩
        exact absurd (missing.symm.trans found) (by simp)

theorem chief_unchanged_iff (srcMember : src ∈ server.clientList.entries)
    (dstMember : dst ∈ server.clientList.entries) (chief : src.chief = true)
    (left : ChiefLeft server.db call (cStr src.mcode) (cStr dst.mcode) (cStr src.mscode) after) :
    (handOver server src.mcode dst.mcode).clientList = server.clientList ∧ after = server.db ↔
      SelfInPlace server.db call src dst := by
  rw [hand_over_unchanged srcMember dstMember chief]
  cases left with
  | nothing idle =>
      constructor
      · rintro ⟨⟨own, authority⟩, _⟩
        refine ⟨own, authority, ?_⟩
        rintro carried _ _ ⟨number, meetSeq, _, member, decoded, _⟩
        exact absurd ⟨number, meetSeq, member, decoded, rfl⟩ (idle carried _ _)
      · rintro ⟨own, authority, _⟩
        exact ⟨⟨own, authority⟩, rfl⟩
  | first member decoded carried =>
      rw [first_update_same_iff member decoded]
      constructor
      · rintro ⟨⟨own, authority⟩, already⟩
        exact ⟨own, authority, fun _ => already⟩
      · rintro ⟨own, authority, already⟩
        exact ⟨⟨own, authority⟩, already carried⟩
  | second missing member =>
      constructor
      · rintro ⟨⟨own, _⟩, _⟩
        rw [own, member] at missing
        cases missing
      · rintro ⟨own, _⟩
        rw [own, member] at missing
        cases missing

/-- Where the tables show the whole change of rows that are in place, a meeting keeps
its chief. -/
theorem chief_complete_keeps_one (rows : RowsInPlace server.db call src dst)
    (complete : Complete server src dst (handOver server src.mcode dst.mcode).clientList after
      .chief) {meet : Int} (one : OneChiefIn server.db meet) : OneChiefIn after meet := by
  obtain ⟨rowMeet, srcMnum, dstMnum, row, dstRow, -, stored, -⟩ := rows
  obtain ⟨-, otherMeet, otherSrc, otherDst, otherRow, otherDstRow, -, -, written⟩ := complete
  obtain ⟨rfl, rfl⟩ := row_of_unique row otherRow
  obtain ⟨-, rfl⟩ := row_of_unique dstRow otherDstRow
  rw [written]
  exact one_chief_kept stored one

theorem chief_all_or_nothing (named : json.text "dst" = some dst.mcode)
    (chief : src.chief = true) (srcMember : src ∈ server.clientList.entries)
    (dstMember : dst ∈ server.clientList.entries)
    (fails : ChiefFails server.db call (cStr src.mcode) (cStr dst.mcode) (cStr src.mscode)) :
    AllOrNothing server src dst .chief (onChief server src json call) ↔
      ChiefDefined server.db call (cStr src.mcode) (cStr dst.mcode) (cStr src.mscode) ∧
        (RowsInPlace server.db call src dst ∨ SelfInPlace server.db call src dst) := by
  unfold AllOrNothing
  rw [chief_stores_left named chief dstMember]
  rcases @change_chief_failing server.db call (cStr src.mcode) (cStr dst.mcode) (cStr src.mscode)
    fails with ⟨defined, after, stored, left⟩ | ⟨undefined, stored⟩
  · rw [stored]
    have unchanged := chief_unchanged_iff srcMember dstMember chief left
    constructor
    · rintro ⟨clientList, db, same, complete | unchangedBoth, _⟩
      · cases same
        exact ⟨defined, .inl ((chief_complete_iff left).mp complete)⟩
      · cases same
        exact ⟨defined, .inr (unchanged.mp unchangedBoth)⟩
    · rintro ⟨_, rows | own⟩
      · have complete := (chief_complete_iff left).mpr rows
        exact ⟨_, after, rfl, .inl complete, fun _ one =>
          chief_complete_keeps_one rows complete one⟩
      · have asBefore := unchanged.mpr own
        refine ⟨_, after, rfl, .inr asBefore, ?_⟩
        rw [asBefore.2]
        exact fun _ one => one
  · rw [stored]
    constructor
    · rintro ⟨clientList, db, same, _⟩
      cases same
    · rintro ⟨defined, _⟩
      exact absurd defined undefined

end Requests

/-- A failing AUTHORITY or CHIEF of a chief leaves both stores changed or neither
exactly where the call is defined and what it leaves out would change nothing. -/
theorem all_or_nothing_iff (server : Server) (ws : WebSocket) (client dst : Client) (json : Json)
    (call : DbCall) (lib : Libav) (request : Request)
    (found : findWs server.clientList ws = some client) (chief : client.chief = true)
    (member : dst ∈ server.clientList.entries)
    (addresses : Addresses json request.identifier dst.mcode)
    (fails : Fails server.db call client dst request) :
    AllOrNothing server client dst request (onMsgPtr server ws (some json) call lib) ↔
      InPlace server.db call client dst request := by
  have handled : onMsgPtr server ws (some json) call lib =
      onIdentifier server client json call lib request.identifier := by
    simp only [onMsgPtr, found, addresses.identifier]
  rw [handled]
  cases request with
  | authority => exact authority_all_or_nothing addresses.dst chief member fails
  | chief =>
      exact chief_all_or_nothing addresses.dst chief (find_ws_some found).1 member fails

def chiefAndWatcher : Server :=
  after step sampleServer [opensEvent 1, settingEvent 1 "a", opensEvent 2, settingEvent 2 "c"]

def refused : DbCall := { connection := .raises, raisesAt := none }

def lastRaises : DbCall := { connection := .established, raisesAt := some 3 }

/-- A chief with authority that names itself. -/
theorem all_or_nothing_iff_itself :
    AllOrNothing chiefAndWatcher sampleChief sampleChief .chief
      (onMsgPtr chiefAndWatcher 1 (dstMessage 3 "a") refused sampleLib) := by
  apply (all_or_nothing_iff chiefAndWatcher 1 sampleChief sampleChief _ refused sampleLib .chief rfl
    rfl List.mem_cons_self ⟨rfl, rfl⟩ (.inl (by decide))).mpr
  refine ⟨⟨auth_defined_refused rfl, fun made => absurd made (by decide)⟩, .inr ⟨rfl, rfl, ?_⟩⟩
  intro carried
  exact absurd carried.1 (by decide)

/-- The chief hands over to the watcher, whose row is not written: the meeting has
no chief. -/
theorem last_raises_leaves_no_chief :
    Fails chiefAndWatcher.db lastRaises sampleChief sampleWatcher .chief ∧
      OneChiefIn chiefAndWatcher.db 1 ∧
      (∃ clientList db,
        stores (onMsgPtr chiefAndWatcher 1 (dstMessage 3 "c") lastRaises sampleLib) =
            some (clientList, db) ∧
          clientList.entries.map Client.chief = [false, true] ∧
          db.role 1 1 = some (some (ascii "1")) ∧ db.role 1 3 = some (some (ascii "2")) ∧
          ∀ mnum, ¬ChiefRow db 1 mnum) ∧
      ¬AllOrNothing chiefAndWatcher sampleChief sampleWatcher .chief
        (onMsgPtr chiefAndWatcher 1 (dstMessage 3 "c") lastRaises sampleLib) := by
  have one : OneChiefIn sampleDatabase 1 :=
    ⟨1, ⟨ascii "0", rfl, by decide⟩, fun other chief =>
      sample_one_chief_row 1 other 1 chief ⟨ascii "0", rfl, by decide⟩⟩
  have written : sampleDatabase.update .bare (ascii "1") 1 (ascii "1") =
      sampleDatabase.setRole 1 1 (ascii "1") := by
    obtain ⟨number, member, rows⟩ :=
      @sample_hits sampleDatabase (ascii "a") (ascii "MWZyb20=") 1 .bare rfl rfl rfl
    cases member
    exact update_hits (rows (ascii "1") rfl) (ascii "1")
  have none : ∀ mnum, ¬ChiefRow (sampleDatabase.update .bare (ascii "1") 1 (ascii "1")) 1 mnum := by
    intro mnum chief
    rw [written] at chief
    rcases lower_role_chief_row (by decide) chief with ⟨before, elsewhere⟩
    exact elsewhere
      ⟨rfl, sample_one_chief_row 1 mnum 1 before ⟨ascii "0", rfl, by decide⟩⟩
  refine ⟨.inr (.inl (by decide)), one, ?_, ?_⟩
  · exact ⟨_, sampleDatabase.update .bare (ascii "1") 1 (ascii "1"), rfl, rfl, rfl, rfl, none⟩
  · rintro ⟨clientList, db, same, _, kept⟩
    rcases kept 1 one with ⟨mnum, chief, _⟩
    have left : sampleDatabase.update .bare (ascii "1") 1 (ascii "1") = db :=
      congrArg Prod.snd (Option.some.inj same)
    rw [← left] at chief
    exact none mnum chief

end Collabo.HandoverFailures
