import Collabo.Base64

/-!
# The member database

The three queries of `MySQLConnector` that the message handlers use. The
database itself is outside the program: it is given by what its SELECTs find and
by the rows that the conditions of its UPDATEs hold of. A client's strings get
into all of them as they are, so a text that is no plain code or number may find
and change any rows. A connection that cannot be made, and a statement that
raises, are given with each call.
-/

namespace Collabo.MySQLConnector

open Collabo.CString

set_option autoImplicit false

/-- The role column of the first participant row of a meeting and a member. A row
whose blob gives no stream has no text. -/
abbrev Roles := Int → Int → Option (Option ByteString)

/-- How the meeting stands in the condition of an UPDATE. -/
inductive Quoting where
  | quoted
  | bare
  deriving DecidableEq, Repr

/-- `members` is the first row of `SELECT mnum FROM member WHERE mcode='..'`. `selected`
is the meeting and the member of the first row of `SELECT * FROM participant WHERE
meet_seq='..' AND mnum='..'`, and of a row that is not there if it has none.
`matched` tells whether `mnum=.. AND meet_seq=..` holds of a row. -/
@[ext]
structure Database where
  members : Roles → ByteString → Option Int
  selected : Roles → ByteString → Int → Int × Int
  matched : Quoting → ByteString → Int → Int → Int → Option ByteString → Bool
  role : Roles

def Database.mnumOf (db : Database) (mcode : ByteString) : Option Int :=
  db.members db.role mcode

def Database.found (db : Database) (meetSeq : ByteString) (mnum : Int) : Int × Int :=
  db.selected db.role meetSeq mnum

/-- `UPDATE participant SET role=.. WHERE mnum=.. AND meet_seq=..`. -/
def Database.update (db : Database) (quoting : Quoting) (meetSeq : ByteString) (mnum : Int)
    (text : ByteString) : Database where
  members := db.members
  selected := db.selected
  matched := db.matched
  role meet member := (db.role meet member).map fun stored =>
    if db.matched quoting meetSeq mnum meet member stored then some text else stored

/-- What the second lookup of `changeChief` reads. -/
def Database.released (db : Database) (src meetSeq : ByteString) : Database :=
  match db.mnumOf src with
  | none => db
  | some mnum => db.update .bare meetSeq mnum (ascii "1")

inductive Connection where
  | established
  | null
  | raises
  deriving DecidableEq, Repr

/-- How the database answers one call of the connector: the connection, and the
statement, counted from zero, that raises an `SQLException`, if any does. -/
structure DbCall where
  connection : Connection
  raisesAt : Option Nat
  deriving DecidableEq, Repr

def DbCall.succeeds : DbCall := { connection := .established, raisesAt := none }

/-- The text before the first `from` of the decoded `mscode`, copied into ten
bytes. The result of `strstr` is not checked, so a missing `from` makes the
length of the copy negative. -/
def meetSeqOf (mscode : ByteString) : Outcome ByteString :=
  match Base64.decode mscode with
  | none => .throws
  | some decoded =>
      match strstr (ascii "from") (cStr decoded) with
      | none => .undefined .overrun
      | some length =>
          if length ≤ 9 then .done ((cStr decoded).take length) else .undefined .overrun

structure Suited where
  result : Bool
  checkAuth : Bool
  checkChief : Bool
  role : Int
  deriving DecidableEq, Repr

def grantedBy (intAuth : Int) (checkAuth checkChief : Bool) : Bool × Bool :=
  if intAuth = 0 then (true, true)
  else if intAuth = 1 then (true, false)
  else if intAuth = 2 then (false, false)
  else (checkAuth, checkChief)

/-- The role column as `isSuited` reads it: one line of at most four bytes. -/
def roleNumber (text : ByteString) : Int := atoi (getline 5 text)

/-- `mcode` and `mscode` are the C strings. -/
def isSuited (db : Database) (call : DbCall) (mcode mscode : ByteString)
    (checkAuth checkChief : Bool) (role : Int) : Outcome Suited :=
  let refused : Suited :=
    { result := false, checkAuth := checkAuth, checkChief := checkChief, role := role }
  match call.connection with
  | .raises => .throws
  | .null => .done refused
  | .established =>
      if call.raisesAt = some 0 then .done refused
      else
        match db.mnumOf mcode with
        | none => .done refused
        | some mnum =>
            (sprintfInt mnum).bind fun mnum =>
            (meetSeqOf mscode).bind fun meetSeq =>
            if call.raisesAt = some 1 then .done refused
            else
              let row := db.found meetSeq mnum
              match db.role row.1 row.2 with
              | some (some text) =>
                  let intAuth := roleNumber text
                  let granted := grantedBy intAuth checkAuth checkChief
                  .done
                    { result := true
                      checkAuth := granted.1
                      checkChief := granted.2
                      role := intAuth }
              | some none => .done refused
              | none => .done refused

/-- The database after some statements, and whether one of them raised, which
ends the `try` block. -/
structure Statements where
  db : Database
  raised : Bool

/-- Look up the member number of `mcode` with statement `first` and, if there is
one, set the role with the next statement. -/
def updateRole (db : Database) (call : DbCall) (quoting : Quoting) (first : Nat)
    (meetSeq mcode text : ByteString) : Outcome Statements :=
  if call.raisesAt = some first then .done { db := db, raised := true }
  else
    match db.mnumOf mcode with
    | none => .done { db := db, raised := false }
    | some mnum =>
        (sprintfInt mnum).bind fun mnum =>
        if call.raisesAt = some (first + 1) then .done { db := db, raised := true }
        else .done { db := db.update quoting meetSeq mnum text, raised := false }

/-- Both updates connect outside the `try` block. -/
def connected (call : DbCall) (rest : Outcome Database) : Outcome Database :=
  match call.connection with
  | .raises => .throws
  | .null => rest
  | .established => rest

/-- They do not stop at a connection that is `NULL`, which makes no statement, and
go on to use one. -/
def stated (call : DbCall) (statements : Outcome Database) : Outcome Database :=
  if call.connection = .null then .undefined .noStatement else statements

def changeAuth (db : Database) (call : DbCall) (dst : ByteString) (authority : Bool)
    (mscode : ByteString) : Outcome Database :=
  connected call <|
    (meetSeqOf mscode).bind fun meetSeq =>
    stated call <|
    (updateRole db call .quoted 0 meetSeq dst (if authority then ascii "1" else ascii "2")).bind
      fun updated => .done updated.db

def changeChief (db : Database) (call : DbCall) (src dst mscode : ByteString) :
    Outcome Database :=
  connected call <|
    (meetSeqOf mscode).bind fun meetSeq =>
    stated call <|
    (updateRole db call .bare 0 meetSeq src (ascii "1")).bind fun handed =>
    if handed.raised then .done handed.db
    else
      (updateRole handed.db call .bare 2 meetSeq dst (ascii "0")).bind
        fun updated => .done updated.db

section Returns

variable {db : Database} {call : DbCall} {src dst mcode mscode : ByteString}

/-- The lookup returns unless it finds a number that its buffer does not hold. -/
theorem update_role_returns_iff (quoting : Quoting) (first : Nat) (meetSeq text : ByteString) :
    (∃ updated, updateRole db call quoting first meetSeq mcode text = .done updated) ↔
      (call.raisesAt ≠ some first →
        ∀ mnum, db.mnumOf mcode = some mnum → -99999999 ≤ mnum ∧ mnum ≤ 999999999) := by
  unfold updateRole
  by_cases raised : call.raisesAt = some first
  · rw [if_pos raised]
    exact iff_of_true ⟨_, rfl⟩ fun unraised => absurd raised unraised
  · rw [if_neg raised]
    cases member : db.mnumOf mcode with
    | none => exact iff_of_true ⟨_, rfl⟩ fun _ => nofun
    | some mnum =>
        constructor
        · rintro ⟨updated, update⟩ _ other same
          rcases bind_done update with ⟨printed, print, _⟩
          rw [← Option.some.inj same]
          exact (sprintf_int_done_iff.mp print).2
        · intro prints
          have print := sprintf_int_done_iff.mpr ⟨rfl, prints raised mnum rfl⟩
          dsimp only
          rw [print, Outcome.bind]
          split_ifs
          · exact ⟨_, rfl⟩
          · exact ⟨_, rfl⟩

theorem update_role_raised_iff {quoting : Quoting} {first : Nat} {meetSeq text : ByteString}
    {updated : Statements}
    (update : updateRole db call quoting first meetSeq mcode text = .done updated) :
    (updated.raised = true ↔ call.raisesAt = some first ∨
      (call.raisesAt = some (first + 1) ∧ db.mnumOf mcode ≠ none)) ∧
      (updated.raised = false → updated.db =
        match db.mnumOf mcode with
        | none => db
        | some mnum => db.update quoting meetSeq mnum text) := by
  unfold updateRole at update
  by_cases raised : call.raisesAt = some first
  · rw [if_pos raised] at update
    cases update
    exact ⟨iff_of_true rfl (.inl raised), nofun⟩
  · rw [if_neg raised] at update
    cases member : db.mnumOf mcode with
    | none =>
        rw [member] at update
        cases update
        exact ⟨iff_of_false Bool.noConfusion (by simp [raised]), fun _ => rfl⟩
    | some mnum =>
        rw [member] at update
        rcases bind_done update with ⟨printed, print, rest⟩
        rw [sprintf_int_done print] at rest
        split_ifs at rest with later
        · cases rest
          exact ⟨iff_of_true rfl (.inr ⟨later, Option.some_ne_none mnum⟩), nofun⟩
        · cases rest
          exact ⟨iff_of_false Bool.noConfusion (by simp [raised, later]), fun _ => rfl⟩

/-- The second lookup of `changeChief` is made unless the first one or its update raised. -/
theorem second_reached_iff {meetSeq : ByteString} {handed : Statements}
    (hand : updateRole db call .bare 0 meetSeq src (ascii "1") = .done handed) :
    (handed.raised = false ↔
      call.raisesAt ≠ some 0 ∧ (call.raisesAt = some 1 → db.mnumOf src = none)) ∧
      (handed.raised = false → handed.db = db.released src meetSeq) := by
  obtain ⟨raised, result⟩ := update_role_raised_iff hand
  refine ⟨?_, result⟩
  rw [← Bool.not_eq_true, raised]
  push Not
  rfl

theorem is_suited_returns_iff (checkAuth checkChief : Bool) (role : Int) :
    (∃ suited, isSuited db call mcode mscode checkAuth checkChief role = .done suited) ↔
      call.connection = .null ∨ call.connection = .established ∧
        (call.raisesAt ≠ some 0 → db.mnumOf mcode ≠ none →
          (∀ mnum, db.mnumOf mcode = some mnum → -99999999 ≤ mnum ∧ mnum ≤ 999999999) ∧
            ∃ meetSeq, meetSeqOf mscode = .done meetSeq) := by
  unfold isSuited
  dsimp only
  cases connection : call.connection with
  | raises => exact iff_of_false nofun (by simp)
  | null => exact iff_of_true ⟨_, rfl⟩ (.inl rfl)
  | established =>
      rw [or_iff_right nofun, and_iff_right rfl]
      dsimp only
      by_cases raised : call.raisesAt = some 0
      · rw [if_pos raised]
        exact iff_of_true ⟨_, rfl⟩ fun unraised => absurd raised unraised
      · rw [if_neg raised]
        cases member : db.mnumOf mcode with
        | none => exact iff_of_true ⟨_, rfl⟩ fun _ found => absurd rfl found
        | some mnum =>
            constructor
            · rintro ⟨suited, answered⟩ _ _
              rcases bind_done answered with ⟨printed, print, rest⟩
              rcases bind_done rest with ⟨meetSeq, text, _⟩
              refine ⟨?_, meetSeq, text⟩
              intro other same
              rw [← Option.some.inj same]
              exact (sprintf_int_done_iff.mp print).2
            · intro condition
              rcases condition raised (Option.some_ne_none mnum) with ⟨prints, meetSeq, text⟩
              have print := sprintf_int_done_iff.mpr ⟨rfl, prints mnum rfl⟩
              dsimp only
              rw [print, Outcome.bind, text, Outcome.bind]
              split_ifs
              · exact ⟨_, rfl⟩
              · rcases db.role (db.found meetSeq mnum).1 (db.found meetSeq mnum).2 with
                  missing | _ | text
                · exact ⟨_, rfl⟩
                · exact ⟨_, rfl⟩
                · exact ⟨_, rfl⟩

theorem connected_done_iff {decoded : Outcome ByteString}
    {statements : ByteString → Outcome Database} {following : Database} :
    connected call (decoded.bind fun meetSeq => stated call (statements meetSeq)) =
        .done following ↔
      call.connection = .established ∧
        ∃ meetSeq, decoded = .done meetSeq ∧ statements meetSeq = .done following := by
  unfold connected stated
  cases made : call.connection with
  | established =>
      rw [and_iff_right rfl]
      simp only [reduceCtorEq, if_false]
      exact bind_done_iff
  | null =>
      refine iff_of_false ?_ nofun
      intro returned
      obtain ⟨meetSeq, _, stuck⟩ := bind_done returned
      cases stuck
  | raises => exact iff_of_false nofun nofun

theorem change_auth_returns_iff (authority : Bool) :
    (∃ following, changeAuth db call dst authority mscode = .done following) ↔
      call.connection = .established ∧ (∃ meetSeq, meetSeqOf mscode = .done meetSeq) ∧
        (call.raisesAt ≠ some 0 →
          ∀ mnum, db.mnumOf dst = some mnum → -99999999 ≤ mnum ∧ mnum ≤ 999999999) := by
  unfold changeAuth
  simp only [connected_done_iff, bind_done_iff, exists_and_left]
  apply and_congr_right
  intro made
  constructor
  · rintro ⟨following, meetSeq, text, updated, update, _⟩
    exact ⟨⟨meetSeq, text⟩, (update_role_returns_iff .quoted 0 meetSeq _).mp ⟨updated, update⟩⟩
  · rintro ⟨⟨meetSeq, text⟩, prints⟩
    rcases (update_role_returns_iff .quoted 0 meetSeq
      (if authority then ascii "1" else ascii "2")).mpr prints with ⟨updated, update⟩
    exact ⟨updated.db, meetSeq, text, updated, update, rfl⟩

theorem change_chief_returns_iff :
    (∃ following, changeChief db call src dst mscode = .done following) ↔
      call.connection = .established ∧ (∃ meetSeq, meetSeqOf mscode = .done meetSeq) ∧
        (call.raisesAt ≠ some 0 →
          ∀ mnum, db.mnumOf src = some mnum → -99999999 ≤ mnum ∧ mnum ≤ 999999999) ∧
        (call.raisesAt ≠ some 0 → (call.raisesAt = some 1 → db.mnumOf src = none) →
          call.raisesAt ≠ some 2 → ∀ meetSeq, meetSeqOf mscode = .done meetSeq →
          ∀ mnum, (db.released src meetSeq).mnumOf dst = some mnum →
            -99999999 ≤ mnum ∧ mnum ≤ 999999999) := by
  unfold changeChief
  simp only [connected_done_iff, bind_done_iff, exists_and_left]
  apply and_congr_right
  intro made
  constructor
  · rintro ⟨following, meetSeq, text, handed, hand, rest⟩
    refine ⟨⟨meetSeq, text⟩, (update_role_returns_iff .bare 0 meetSeq _).mp ⟨handed, hand⟩, ?_⟩
    intro unraised idle later otherSeq otherText
    have reached := (second_reached_iff hand).1.mpr ⟨unraised, idle⟩
    rw [if_neg (by rw [reached]; exact Bool.noConfusion)] at rest
    rcases bind_done rest with ⟨updated, update, _⟩
    have prints := (update_role_returns_iff .bare 2 meetSeq _).mp ⟨updated, update⟩
    rw [(second_reached_iff hand).2 reached] at prints
    rw [← Outcome.done.inj (text.symm.trans otherText)]
    exact prints later
  · rintro ⟨⟨meetSeq, text⟩, srcPrints, dstPrints⟩
    rcases (update_role_returns_iff .bare 0 meetSeq (ascii "1")).mpr srcPrints with ⟨handed, hand⟩
    cases raised : handed.raised with
    | true => exact ⟨handed.db, meetSeq, text, handed, hand, if_pos raised⟩
    | false =>
        obtain ⟨reached, result⟩ := second_reached_iff hand
        rcases reached.mp raised with ⟨unraised, idle⟩
        have prints := fun later => dstPrints unraised idle later meetSeq text
        rw [← result raised] at prints
        rcases (update_role_returns_iff .bare 2 meetSeq (ascii "0")).mpr prints with
          ⟨updated, update⟩
        refine ⟨updated.db, meetSeq, text, handed, hand, ?_⟩
        rw [if_neg (by rw [raised]; exact Bool.noConfusion), update]
        rfl

end Returns

section Results

variable {db following : Database} {call : DbCall} {mcode mscode : ByteString}

/-- The participant row that SETTING reads for `mcode` and `mscode`. -/
def RowOf (db : Database) (mcode mscode : ByteString) (meet mnum : Int) : Prop :=
  ∃ number meetSeq, db.mnumOf mcode = some number ∧ meetSeqOf mscode = .done meetSeq ∧
    db.found meetSeq number = (meet, mnum)

theorem row_of_unique {meet otherMeet mnum otherMnum : Int} (row : RowOf db mcode mscode meet mnum)
    (other : RowOf db mcode mscode otherMeet otherMnum) : meet = otherMeet ∧ mnum = otherMnum := by
  obtain ⟨number, meetSeq, member, text, found⟩ := row
  obtain ⟨otherNumber, otherSeq, otherMember, otherText, otherFound⟩ := other
  cases member.symm.trans otherMember
  cases text.symm.trans otherText
  exact Prod.mk.inj (found.symm.trans otherFound)

/-- One row with another role, and every other as it is. -/
def Database.setRole (db : Database) (meet mnum : Int) (text : ByteString) : Database where
  members := db.members
  selected := db.selected
  matched := db.matched
  role otherMeet otherMnum :=
    if otherMeet = meet ∧ otherMnum = mnum then (db.role otherMeet otherMnum).map fun _ => some text
    else db.role otherMeet otherMnum

/-- The member is found, and the condition of an UPDATE for it and the meeting holds of
this row and of no other. -/
def Hits (db : Database) (quoting : Quoting) (mcode mscode : ByteString) (meet mnum : Int) :
    Prop :=
  ∃ number, db.mnumOf mcode = some number ∧ ∀ meetSeq, meetSeqOf mscode = .done meetSeq →
    ∀ rowMeet rowMnum stored, db.role rowMeet rowMnum = some stored →
      (db.matched quoting meetSeq number rowMeet rowMnum stored = true ↔
        rowMeet = meet ∧ rowMnum = mnum)

theorem update_hits {quoting : Quoting} {meetSeq : ByteString} {number meet mnum : Int}
    (hits : ∀ rowMeet rowMnum stored, db.role rowMeet rowMnum = some stored →
      (db.matched quoting meetSeq number rowMeet rowMnum stored = true ↔
        rowMeet = meet ∧ rowMnum = mnum)) (text : ByteString) :
    db.update quoting meetSeq number text = db.setRole meet mnum text := by
  unfold Database.update Database.setRole
  congr 1
  funext rowMeet rowMnum
  cases present : db.role rowMeet rowMnum with
  | none => simp
  | some stored =>
      have matches_iff := hits rowMeet rowMnum stored present
      by_cases here : rowMeet = meet ∧ rowMnum = mnum
      · rw [if_pos here]
        simp [matches_iff.mpr here]
      · have unmatched : db.matched quoting meetSeq number rowMeet rowMnum stored = false :=
          Bool.eq_false_iff.mpr fun isMatched => here (matches_iff.mp isMatched)
        rw [if_neg here]
        simp [unmatched]

/-- An accepted client has the flags that its row's role stands for. -/
theorem is_suited_accepts {checkAuth checkChief : Bool} {role : Int} {suited : Suited}
    (answer : isSuited db call mcode mscode checkAuth checkChief role = .done suited)
    (result : suited.result = true) :
    ∃ meet mnum text, RowOf db mcode mscode meet mnum ∧ db.role meet mnum = some (some text) ∧
      suited.role = roleNumber text ∧
      (suited.checkAuth, suited.checkChief) =
        grantedBy (roleNumber text) checkAuth checkChief := by
  unfold isSuited at answer
  dsimp only at answer
  split at answer
  · cases answer
  · cases answer
    cases result
  · split at answer
    · cases answer
      cases result
    · split at answer
      · cases answer
        cases result
      · rename_i mnum member
        obtain ⟨printed, print, rest⟩ := bind_done answer
        obtain ⟨meetSeq, text, answered⟩ := bind_done rest
        rw [sprintf_int_done print] at answered
        split at answered
        · cases answered
          cases result
        · split at answered
          · rename_i blob row
            cases answered
            exact ⟨_, _, blob, ⟨mnum, meetSeq, member, text, rfl⟩, row, rfl, rfl⟩
          · cases answered
            cases result
          · cases answered
            cases result

def Printed (db : Database) (mcode : ByteString) : Prop :=
  ∃ mnum, db.mnumOf mcode = some mnum ∧ sprintfInt mnum = .done mnum

theorem is_suited_printed {checkAuth checkChief : Bool} {role : Int} {suited : Suited}
    (answer : isSuited db call mcode mscode checkAuth checkChief role = .done suited)
    (result : suited.result = true) : Printed db mcode := by
  unfold isSuited at answer
  dsimp only at answer
  split at answer
  · cases answer
  · cases answer
    cases result
  · split at answer
    · cases answer
      cases result
    · split at answer
      · cases answer
        cases result
      · rename_i mnum member
        obtain ⟨printed, print, -⟩ := bind_done answer
        rw [sprintf_int_done print] at print
        exact ⟨mnum, member, print⟩

theorem printed_fits (printed : Printed db mcode) {mnum : Int}
    (member : db.mnumOf mcode = some mnum) : -99999999 ≤ mnum ∧ mnum ≤ 999999999 := by
  obtain ⟨other, found, print⟩ := printed
  rw [Option.some.inj (member.symm.trans found)]
  exact (sprintf_int_done_iff.mp print).2

theorem update_role_done {quoting : Quoting} {first : Nat} {meetSeq text : ByteString}
    {updated : Statements}
    (answer : updateRole db .succeeds quoting first meetSeq mcode text = .done updated) :
    updated.raised = false ∧
      (db.mnumOf mcode = none ∧ updated.db = db ∨
        ∃ mnum, db.mnumOf mcode = some mnum ∧
          updated.db = db.update quoting meetSeq mnum text) := by
  unfold updateRole at answer
  rw [if_neg (by simp [DbCall.succeeds])] at answer
  split at answer
  · rename_i missing
    cases answer
    exact ⟨rfl, .inl ⟨missing, rfl⟩⟩
  · rename_i mnum member
    obtain ⟨printed, print, rest⟩ := bind_done answer
    rw [sprintf_int_done print, if_neg (by simp [DbCall.succeeds])] at rest
    cases rest
    exact ⟨rfl, .inr ⟨mnum, member, rfl⟩⟩

theorem update_role_hits {quoting : Quoting} {first : Nat} {meetSeq text : ByteString}
    {updated : Statements} {meet mnum : Int} (decoded : meetSeqOf mscode = .done meetSeq)
    (hits : Hits db quoting mcode mscode meet mnum)
    (answer : updateRole db .succeeds quoting first meetSeq mcode text = .done updated) :
    updated.raised = false ∧ updated.db = db.setRole meet mnum text := by
  obtain ⟨number, member, rows⟩ := hits
  obtain ⟨unraised, ⟨missing, -⟩ | ⟨found, sameMember, result⟩⟩ := update_role_done answer
  · rw [missing] at member
    cases member
  · cases member.symm.trans sameMember
    exact ⟨unraised, result.trans (update_hits (rows meetSeq decoded) text)⟩

theorem change_auth_done {authority : Bool} {meet mnum : Int}
    (hits : Hits db .quoted mcode mscode meet mnum)
    (answer : changeAuth db .succeeds mcode authority mscode = .done following) :
    following = db.setRole meet mnum (if authority then ascii "1" else ascii "2") := by
  obtain ⟨-, meetSeq, decoded, rest⟩ := connected_done_iff.mp answer
  obtain ⟨updated, update, finished⟩ := bind_done rest
  rw [← Outcome.done.inj finished]
  exact (update_role_hits decoded hits update).2

/-- A successful `changeChief` whose UPDATEs hit one row each sets the role of the one
and then of the other. -/
theorem change_chief_done {dst : ByteString} {srcMeet srcMnum dstMeet dstMnum : Int}
    (srcHits : Hits db .bare mcode mscode srcMeet srcMnum)
    (dstHits : Hits (db.setRole srcMeet srcMnum (ascii "1")) .bare dst mscode dstMeet dstMnum)
    (answer : changeChief db .succeeds mcode dst mscode = .done following) :
    following =
      (db.setRole srcMeet srcMnum (ascii "1")).setRole dstMeet dstMnum (ascii "0") := by
  obtain ⟨-, meetSeq, decoded, rest⟩ := connected_done_iff.mp answer
  obtain ⟨handed, hand, later⟩ := bind_done rest
  obtain ⟨unraised, result⟩ := update_role_hits decoded srcHits hand
  rw [unraised, if_neg (by simp)] at later
  obtain ⟨updated, update, finished⟩ := bind_done later
  rw [result] at update
  rw [← Outcome.done.inj finished]
  exact (update_role_hits decoded dstHits update).2

theorem change_chief_returns {dst meetSeq : ByteString}
    (decoded : meetSeqOf mscode = .done meetSeq) (src : Printed db mcode)
    (printed : Printed (db.released mcode meetSeq) dst) :
    ∃ following, changeChief db .succeeds mcode dst mscode = .done following := by
  refine change_chief_returns_iff.mpr ⟨rfl, ⟨meetSeq, decoded⟩, ?_, ?_⟩
  · intro _ mnum member
    exact printed_fits src member
  · intro _ _ _ otherSeq otherText mnum member
    rw [← Outcome.done.inj (decoded.symm.trans otherText)] at member
    exact printed_fits printed member

end Results

section Faults

theorem meet_seq_of_faults (mscode : ByteString) :
    (meetSeqOf mscode).FaultsIn [.overrun, .noStatement] := by
  unfold meetSeqOf
  split
  · exact throws_faults
  · split
    · exact undefined_faults (by decide)
    · split
      · exact done_faults _
      · exact undefined_faults (by decide)

theorem is_suited_faults (db : Database) (call : DbCall) (mcode mscode : ByteString)
    (checkAuth checkChief : Bool) (role : Int) :
    (isSuited db call mcode mscode checkAuth checkChief role).FaultsIn
      [.overrun, .noStatement] := by
  unfold isSuited
  dsimp only
  split
  · exact throws_faults
  · exact done_faults _
  · split
    · exact done_faults _
    · split
      · exact done_faults _
      · apply bind_faults (sprintf_int_faults _)
        intro mnum
        apply bind_faults (meet_seq_of_faults mscode)
        intro meetSeq
        split
        · exact done_faults _
        · split
          · exact done_faults _
          · exact done_faults _
          · exact done_faults _

theorem update_role_faults (db : Database) (call : DbCall) (quoting : Quoting) (first : Nat)
    (meetSeq mcode text : ByteString) :
    (updateRole db call quoting first meetSeq mcode text).FaultsIn [.overrun, .noStatement] := by
  unfold updateRole
  split
  · exact done_faults _
  · split
    · exact done_faults _
    · apply bind_faults (sprintf_int_faults _)
      intro mnum
      split
      · exact done_faults _
      · exact done_faults _

theorem connected_faults {call : DbCall} {mscode : ByteString}
    {statements : ByteString → Outcome Database}
    (inner : ∀ meetSeq, (statements meetSeq).FaultsIn [.overrun, .noStatement]) :
    (connected call <| (meetSeqOf mscode).bind fun meetSeq =>
      stated call (statements meetSeq)).FaultsIn [.overrun, .noStatement] := by
  have rest := bind_faults (meet_seq_of_faults mscode) fun meetSeq =>
    (show (stated call (statements meetSeq)).FaultsIn [.overrun, .noStatement] by
      unfold stated
      split
      · exact undefined_faults (by decide)
      · exact inner meetSeq)
  unfold connected
  split
  · exact throws_faults
  · exact rest
  · exact rest

theorem change_auth_faults (db : Database) (call : DbCall) (dst : ByteString) (authority : Bool)
    (mscode : ByteString) :
    (changeAuth db call dst authority mscode).FaultsIn [.overrun, .noStatement] := by
  apply connected_faults
  intro meetSeq
  apply bind_faults (update_role_faults _ _ _ _ _ _ _)
  intro updated
  exact done_faults _

theorem change_chief_faults (db : Database) (call : DbCall) (src dst mscode : ByteString) :
    (changeChief db call src dst mscode).FaultsIn [.overrun, .noStatement] := by
  apply connected_faults
  intro meetSeq
  apply bind_faults (update_role_faults _ _ _ _ _ _ _)
  intro handed
  split
  · exact done_faults _
  · apply bind_faults (update_role_faults _ _ _ _ _ _ _)
    intro updated
    exact done_faults _

end Faults

end Collabo.MySQLConnector
