import Collabo.Library.SqlTokens
import Collabo.MySQLConnector
import Mathlib.Data.Nat.Digits.Lemmas

/-!
# The statements of the member database

The texts that `isSuited`, `changeAuth` and `changeChief` hand to the database,
put together by appending C strings. Each function is written a second time, for
the strings whose `c_str()` it is given, with the statements it hands out, and is
otherwise the one of the connector.
-/

namespace Collabo.ConnectorTexts

open SqlTokens Collabo.CString Collabo.MySQLConnector

set_option autoImplicit false

/-- What `%d` prints. -/
def decimalDigits (value : Nat) : ByteString :=
  if value = 0 then [48]
  else (Nat.digits 10 value).reverse.map fun digit => UInt8.ofNat (48 + digit)

def decimalText (value : Int) : ByteString :=
  if value < 0 then 45 :: decimalDigits value.natAbs else decimalDigits value.natAbs

/-- The statements of the three functions with the values they insert. The two
updates of `changeChief` set the role without quotes. -/
inductive Statement where
  | selectMember (mcode : ByteString)
  | selectParticipant (meetSeq : ByteString) (mnum : Int)
  | updateAuth (authority : Bool) (mnum : Int) (meetSeq : ByteString)
  | updateChief (chief : Bool) (mnum : Int) (meetSeq : ByteString)
  deriving DecidableEq, Repr

def Statement.text : Statement → ByteString
  | .selectMember mcode =>
      ascii "SELECT mnum FROM `member` WHERE mcode='" ++ cStr mcode ++ ascii "'"
  | .selectParticipant meetSeq mnum =>
      ascii "SELECT * FROM `participant` WHERE meet_seq='" ++ meetSeq ++ ascii "' AND mnum='" ++
        decimalText mnum ++ ascii "'"
  | .updateAuth authority mnum meetSeq =>
      (if authority then ascii "UPDATE `participant` SET role='1' WHERE mnum='"
        else ascii "UPDATE `participant` SET role='2' WHERE mnum='") ++
        decimalText mnum ++ ascii "'" ++ ascii " AND meet_seq='" ++ meetSeq ++ ascii "'"
  | .updateChief chief mnum meetSeq =>
      (if chief then ascii "UPDATE `participant` SET role=0 WHERE mnum="
        else ascii "UPDATE `participant` SET role=1 WHERE mnum=") ++
        decimalText mnum ++ ascii " AND meet_seq=" ++ meetSeq

def Statement.meetSeq : Statement → Option ByteString
  | .selectMember _ => none
  | .selectParticipant meetSeq _ => some meetSeq
  | .updateAuth _ _ meetSeq => some meetSeq
  | .updateChief _ _ meetSeq => some meetSeq

structure Traced (Value : Type) where
  statements : List Statement
  outcome : Outcome Value

def Traced.bind {Value Result : Type} (traced : Traced Value)
    (continuation : Value → Traced Result) : Traced Result :=
  match traced.outcome with
  | .done value =>
      { statements := traced.statements ++ (continuation value).statements
        outcome := (continuation value).outcome }
  | .throws => { statements := traced.statements, outcome := .throws }
  | .undefined fault => { statements := traced.statements, outcome := .undefined fault }

def silent {Value : Type} (outcome : Outcome Value) : Traced Value :=
  { statements := [], outcome := outcome }

def handed {Value : Type} (statement : Statement) (rest : Traced Value) : Traced Value :=
  { statements := statement :: rest.statements, outcome := rest.outcome }

def isSuitedTraced (db : Database) (call : DbCall) (mcode mscode : ByteString)
    (checkAuth checkChief : Bool) (role : Int) : Traced Suited :=
  let refused : Suited :=
    { result := false, checkAuth := checkAuth, checkChief := checkChief, role := role }
  match call.connection with
  | .raises => silent .throws
  | .null => silent (.done refused)
  | .established =>
      handed (.selectMember mcode) <|
      if call.raisesAt = some 0 then silent (.done refused)
      else
        match db.mnumOf (cStr mcode) with
        | none => silent (.done refused)
        | some mnum =>
            (silent (sprintfInt mnum)).bind fun mnum =>
            (silent (meetSeqOf (cStr mscode))).bind fun meetSeq =>
            handed (.selectParticipant meetSeq mnum) <|
            if call.raisesAt = some 1 then silent (.done refused)
            else
              let row := db.found meetSeq mnum
              match db.role row.1 row.2 with
              | some (some text) =>
                  let intAuth := roleNumber text
                  let granted := grantedBy intAuth checkAuth checkChief
                  silent <| .done
                    { result := true
                      checkAuth := granted.1
                      checkChief := granted.2
                      role := intAuth }
              | some none => silent (.done refused)
              | none => silent (.done refused)

/-- The member's number is looked up and, if there is one, the statement made of it
sets the role. -/
def updateRoleTraced (db : Database) (call : DbCall) (quoting : Quoting) (first : Nat)
    (meetSeq mcode text : ByteString) (update : Int → Statement) : Traced Statements :=
  handed (.selectMember mcode) <|
  if call.raisesAt = some first then silent (.done { db := db, raised := true })
  else
    match db.mnumOf (cStr mcode) with
    | none => silent (.done { db := db, raised := false })
    | some mnum =>
        (silent (sprintfInt mnum)).bind fun mnum =>
        handed (update mnum) <|
        if call.raisesAt = some (first + 1) then silent (.done { db := db, raised := true })
        else
          silent (.done { db := db.update quoting meetSeq mnum text, raised := false })

def connectedTraced (call : DbCall) (rest : Traced Database) : Traced Database :=
  match call.connection with
  | .raises => silent .throws
  | .null => rest
  | .established => rest

def statedTraced (call : DbCall) (statements : Traced Database) : Traced Database :=
  if call.connection = .null then silent (.undefined .noStatement) else statements

def changeAuthTraced (db : Database) (call : DbCall) (dst : ByteString) (authority : Bool)
    (mscode : ByteString) : Traced Database :=
  connectedTraced call <|
    (silent (meetSeqOf (cStr mscode))).bind fun meetSeq =>
    statedTraced call <|
    (updateRoleTraced db call .quoted 0 meetSeq dst (if authority then ascii "1" else ascii "2")
      fun mnum => .updateAuth authority mnum meetSeq).bind
      fun updated => silent (.done updated.db)

def changeChiefTraced (db : Database) (call : DbCall) (src dst mscode : ByteString) :
    Traced Database :=
  connectedTraced call <|
    (silent (meetSeqOf (cStr mscode))).bind fun meetSeq =>
    statedTraced call <|
    (updateRoleTraced db call .bare 0 meetSeq src (ascii "1")
      fun mnum => .updateChief false mnum meetSeq).bind fun handed =>
    if handed.raised then silent (.done handed.db)
    else
      (updateRoleTraced handed.db call .bare 2 meetSeq dst (ascii "0")
        fun mnum => .updateChief true mnum meetSeq).bind fun updated => silent (.done updated.db)

section Outcomes

variable {Value Result : Type}

@[simp] theorem silent_outcome (outcome : Outcome Value) : (silent outcome).outcome = outcome := rfl

@[simp] theorem handed_outcome (statement : Statement) (rest : Traced Value) :
    (handed statement rest).outcome = rest.outcome := rfl

@[simp] theorem bind_outcome (traced : Traced Value) (continuation : Value → Traced Result) :
    (traced.bind continuation).outcome =
      traced.outcome.bind fun value => (continuation value).outcome := by
  unfold Traced.bind
  cases traced.outcome <;> rfl

theorem is_suited_traced (db : Database) (call : DbCall) (mcode mscode : ByteString)
    (checkAuth checkChief : Bool) (role : Int) :
    (isSuitedTraced db call mcode mscode checkAuth checkChief role).outcome =
      isSuited db call (cStr mcode) (cStr mscode) checkAuth checkChief role := by
  unfold isSuitedTraced isSuited
  dsimp only
  cases call.connection with
  | raises => rfl
  | null => rfl
  | established =>
      rw [handed_outcome]
      by_cases raised : call.raisesAt = some 0
      · simp only [if_pos raised, silent_outcome]
      · simp only [if_neg raised]
        cases db.mnumOf (cStr mcode) with
        | none => rfl
        | some mnum =>
            simp only [bind_outcome, silent_outcome, handed_outcome]
            congr
            funext printed
            congr
            funext meetSeq
            by_cases later : call.raisesAt = some 1
            · simp only [if_pos later, silent_outcome]
            · simp only [if_neg later]
              rcases db.role (db.found meetSeq printed).1 (db.found meetSeq printed).2 with
                missing | _ | text
              · rfl
              · rfl
              · rfl

theorem update_role_traced (db : Database) (call : DbCall) (quoting : Quoting) (first : Nat)
    (meetSeq mcode text : ByteString) (update : Int → Statement) :
    (updateRoleTraced db call quoting first meetSeq mcode text update).outcome =
      updateRole db call quoting first meetSeq (cStr mcode) text := by
  unfold updateRoleTraced updateRole
  rw [handed_outcome]
  by_cases raised : call.raisesAt = some first
  · simp only [if_pos raised, silent_outcome]
  · simp only [if_neg raised]
    cases db.mnumOf (cStr mcode) with
    | none => rfl
    | some mnum =>
        simp only [bind_outcome, silent_outcome, handed_outcome]
        congr
        funext printed
        split_ifs
        · rfl
        · rfl

theorem connected_traced (call : DbCall) (statements : Traced Database) :
    (connectedTraced call statements).outcome = connected call statements.outcome := by
  unfold connectedTraced connected
  cases call.connection <;> rfl

theorem stated_traced (call : DbCall) (statements : Traced Database) :
    (statedTraced call statements).outcome = stated call statements.outcome := by
  unfold statedTraced stated
  split_ifs
  · rfl
  · rfl

theorem change_auth_traced (db : Database) (call : DbCall) (dst : ByteString) (authority : Bool)
    (mscode : ByteString) :
    (changeAuthTraced db call dst authority mscode).outcome =
      changeAuth db call (cStr dst) authority (cStr mscode) := by
  unfold changeAuthTraced changeAuth
  simp only [connected_traced, stated_traced, bind_outcome, silent_outcome, update_role_traced]

theorem change_chief_traced (db : Database) (call : DbCall) (src dst mscode : ByteString) :
    (changeChiefTraced db call src dst mscode).outcome =
      changeChief db call (cStr src) (cStr dst) (cStr mscode) := by
  unfold changeChiefTraced changeChief
  simp only [connected_traced, stated_traced, bind_outcome, silent_outcome, update_role_traced]
  congr
  funext meetSeq
  congr
  funext handed
  split_ifs
  · rfl
  · simp only [bind_outcome, silent_outcome, update_role_traced]

end Outcomes

def Traced.All {Value : Type} (condition : Statement → Prop) (traced : Traced Value) : Prop :=
  ∀ statement ∈ traced.statements, condition statement

section All

variable {Value Result : Type} {condition : Statement → Prop}

theorem all_silent (outcome : Outcome Value) : (silent outcome).All condition :=
  fun _ member => nomatch member

theorem all_handed_iff {statement : Statement} {rest : Traced Value} :
    (handed statement rest).All condition ↔ condition statement ∧ rest.All condition :=
  List.forall_mem_cons

theorem all_bind_iff {traced : Traced Value} {continuation : Value → Traced Result} :
    (traced.bind continuation).All condition ↔
      traced.All condition ∧
        ∀ value, traced.outcome = .done value → (continuation value).All condition := by
  unfold Traced.bind Traced.All
  cases traced.outcome with
  | done value =>
      simp only [List.forall_mem_append]
      constructor
      · rintro ⟨before, behind⟩
        refine ⟨before, ?_⟩
        intro other same
        cases same
        exact behind
      · rintro ⟨before, behind⟩
        exact ⟨before, behind value rfl⟩
  | throws =>
      refine ⟨fun before => ⟨before, ?_⟩, And.left⟩
      intro other same
      cases same
  | undefined fault =>
      refine ⟨fun before => ⟨before, ?_⟩, And.left⟩
      intro other same
      cases same

theorem all_silent_bind_iff {outcome : Outcome Value} {continuation : Value → Traced Result} :
    ((silent outcome).bind continuation).All condition ↔
      ∀ value, outcome = .done value → (continuation value).All condition :=
  all_bind_iff.trans (and_iff_right (all_silent outcome))

end All

section Numbers

theorem decimal_digits_ne_nil (value : Nat) : decimalDigits value ≠ [] := by
  unfold decimalDigits
  split_ifs with zero
  · exact List.cons_ne_nil _ _
  · intro empty
    rw [List.map_eq_nil_iff, List.reverse_eq_nil_iff] at empty
    exact zero (Nat.digits_eq_nil_iff_eq_zero.mp empty)

theorem decimal_digits_digit (value : Nat) :
    ∀ char ∈ decimalDigits value, SqlTokens.isDigit char = true := by
  have shown : ∀ digit < 10, SqlTokens.isDigit (UInt8.ofNat (48 + digit)) = true := by decide
  unfold decimalDigits
  split_ifs with zero
  · intro char member
    rw [List.mem_singleton.mp member]
    decide
  · intro char member
    rcases List.mem_map.mp member with ⟨digit, digitMember, same⟩
    rw [← same]
    exact shown digit (Nat.digits_lt_base (by decide) (List.mem_reverse.mp digitMember))

theorem decimal_digits_length_le_iff (value count : Nat) (some : 0 < count) :
    (decimalDigits value).length ≤ count ↔ value < 10 ^ count := by
  unfold decimalDigits
  split_ifs with zero
  · rw [zero]
    exact iff_of_true some (Nat.pow_pos (by decide))
  · rw [List.length_map, List.length_reverse]
    exact Nat.digits_length_le_iff (by decide) value

theorem sprintf_int_eq (value : Int) :
    sprintfInt value =
      if (decimalText value).length + 1 ≤ 10 then .done value else .undefined .overrun := by
  have fits : (decimalText value).length + 1 ≤ 10 ↔ -99999999 ≤ value ∧ value ≤ 999999999 := by
    unfold decimalText
    split_ifs with negative
    · rw [List.length_cons]
      have digits := decimal_digits_length_le_iff value.natAbs 8 (by decide)
      omega
    · have digits := decimal_digits_length_le_iff value.natAbs 9 (by decide)
      omega
  unfold sprintfInt
  simp only [fits]

end Numbers

end Collabo.ConnectorTexts
