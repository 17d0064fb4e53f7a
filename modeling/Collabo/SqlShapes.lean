import Collabo.MeetingNumbers

/-!
# The shape of the database statements

What MySQL reads in the texts that the connector puts together. A value between
quotes is one literal only where it is plain, and one without quotes only where it
is a number. Nothing is escaped before it is appended.
-/

namespace Collabo.SqlShapes

open SqlTokens Collabo.CString Collabo.MySQLConnector Collabo.ConnectorTexts
  Collabo.MeetingNumbers

set_option autoImplicit false

def keyword (literal : String) : Token := .word (ascii literal)

def table (literal : String) : Token := .quoted 96 (ascii literal)

def equals : Token := .symbol 61

def numberTokens (value : Int) : List Token :=
  if value < 0 then [.symbol 45, .number (decimalDigits value.natAbs)]
  else [.number (decimalDigits value.natAbs)]

/-- The tokens that the author of a statement wrote, with the given values in place. -/
def shape : Statement → List Token
  | .selectMember mcode =>
      [keyword "SELECT", keyword "mnum", keyword "FROM", table "member", keyword "WHERE",
        keyword "mcode", equals, .quoted 39 mcode]
  | .selectParticipant meetSeq mnum =>
      [keyword "SELECT", .symbol 42, keyword "FROM", table "participant", keyword "WHERE",
        keyword "meet_seq", equals, .quoted 39 meetSeq, keyword "AND", keyword "mnum", equals,
        .quoted 39 (decimalText mnum)]
  | .updateAuth authority mnum meetSeq =>
      [keyword "UPDATE", table "participant", keyword "SET", keyword "role", equals,
        .quoted 39 (if authority then ascii "1" else ascii "2"), keyword "WHERE", keyword "mnum",
        equals, .quoted 39 (decimalText mnum), keyword "AND", keyword "meet_seq", equals,
        .quoted 39 meetSeq]
  | .updateChief chief mnum meetSeq =>
      [keyword "UPDATE", table "participant", keyword "SET", keyword "role", equals,
        .number (if chief then ascii "0" else ascii "1"), keyword "WHERE", keyword "mnum",
        equals] ++ numberTokens mnum ++ [keyword "AND", keyword "meet_seq", equals, .number meetSeq]

def WellShaped (statement : Statement) : Prop := lex statement.text = some (shape statement)

instance (statement : Statement) : Decidable (WellShaped statement) :=
  inferInstanceAs (Decidable (_ = _))

/-- The values that come from a client are what MySQL reads back. -/
def Insertable : Statement → Prop
  | .selectMember mcode => 0 ∉ mcode ∧ Plain 39 mcode
  | .selectParticipant meetSeq _ => Plain 39 meetSeq
  | .updateAuth _ _ meetSeq => Plain 39 meetSeq
  | .updateChief _ _ meetSeq => IsNumber meetSeq

section Numbers

theorem digit_not_escape {char : UInt8} (digit : SqlTokens.isDigit char = true) :
    char ≠ 39 ∧ char ≠ 45 ∧ char ≠ 92 := by
  have other : ∀ mark : UInt8, SqlTokens.isDigit mark = false → char ≠ mark := by
    intro mark noDigit same
    rw [same, noDigit] at digit
    cases digit
  exact ⟨other 39 (by decide), other 45 (by decide), other 92 (by decide)⟩

theorem decimal_text_chars (mnum : Int) : ∀ char ∈ decimalText mnum, char ≠ 39 ∧ char ≠ 92 := by
  have digits : ∀ char ∈ decimalDigits mnum.natAbs, char ≠ 39 ∧ char ≠ 92 := by
    intro char member
    have digit := digit_not_escape (decimal_digits_digit _ char member)
    exact ⟨digit.1, digit.2.2⟩
  unfold decimalText
  split_ifs
  · intro char member
    rcases List.mem_cons.mp member with sign | later
    · rw [sign]
      decide
    · exact digits char later
  · exact digits

theorem decimal_text_plain (mnum : Int) : Plain 39 (decimalText mnum) :=
  plain_of_not_mem (fun member => (decimal_text_chars mnum 39 member).1 rfl)
    fun member => (decimal_text_chars mnum 92 member).2 rfl

def signTokens (value : Int) : List Token := if value < 0 then [.symbol 45] else []

theorem number_tokens_eq (value : Int) :
    numberTokens value = signTokens value ++ [.number (decimalDigits value.natAbs)] := by
  unfold numberTokens signTokens
  split_ifs <;> rfl

theorem decimal_digits_part (value : Nat) :
    numberPart (decimalDigits value) = some .whole :=
  number_part_digits (decimal_digits_ne_nil value) (decimal_digits_digit value)

theorem run_decimal_text (tokens : List Token) (value : Int) :
    run { tokens := tokens, mode := .blank } (decimalText value) =
      { tokens := tokens ++ signTokens value,
        mode := .number .whole (decimalDigits value.natAbs) } := by
  have part := decimal_digits_part value.natAbs
  unfold decimalText signTokens
  split_ifs with negative
  · cases digits : decimalDigits value.natAbs with
    | nil => exact absurd digits (decimal_digits_ne_nil _)
    | cons first rest =>
        have firstDigit := decimal_digits_digit value.natAbs first
          (by rw [digits]; exact List.mem_cons_self)
        rw [digits] at part
        calc run { tokens := tokens, mode := .blank } (45 :: first :: rest)
            = run { tokens := tokens, mode := .dash } (first :: rest) := rfl
          _ = run { tokens := tokens ++ [.symbol 45], mode := .blank } (first :: rest) :=
              run_dash (digit_not_escape firstDigit).2.1
          _ = { tokens := tokens ++ [.symbol 45], mode := .number .whole (first :: rest) } :=
              run_number _ _ part
  · rw [List.append_nil]
    exact run_number _ _ part

end Numbers

section Statements

def memberStart : List Token :=
  [keyword "SELECT", keyword "mnum", keyword "FROM", table "member", keyword "WHERE",
    keyword "mcode", equals]

def participantStart : List Token :=
  [keyword "SELECT", .symbol 42, keyword "FROM", table "participant", keyword "WHERE",
    keyword "meet_seq", equals]

def updateStart (role : Token) : List Token :=
  [keyword "UPDATE", table "participant", keyword "SET", keyword "role", equals, role,
    keyword "WHERE", keyword "mnum", equals]

theorem select_member_start :
    run fresh (ascii "SELECT mnum FROM `member` WHERE mcode='") =
      { tokens := memberStart, mode := .quoted 39 [] } := by
  decide

theorem select_participant_start :
    run fresh (ascii "SELECT * FROM `participant` WHERE meet_seq='") =
      { tokens := participantStart, mode := .quoted 39 [] } := by
  decide

theorem update_auth_start (authority : Bool) :
    run fresh (if authority then ascii "UPDATE `participant` SET role='1' WHERE mnum='"
        else ascii "UPDATE `participant` SET role='2' WHERE mnum='") =
      { tokens := updateStart (.quoted 39 (if authority then ascii "1" else ascii "2")),
        mode := .quoted 39 [] } := by
  cases authority <;> decide

theorem update_chief_start (chief : Bool) :
    run fresh (if chief then ascii "UPDATE `participant` SET role=0 WHERE mnum="
        else ascii "UPDATE `participant` SET role=1 WHERE mnum=") =
      { tokens := updateStart (.number (if chief then ascii "0" else ascii "1")),
        mode := .blank } := by
  cases chief <;> decide

variable (tokens : List Token) (value : ByteString)

/-- Behind a closed literal the condition on the next column is read. -/
theorem run_and_mnum :
    run { tokens := tokens, mode := .closing 39 value } (ascii " AND mnum='") =
      { tokens := tokens ++ [.quoted 39 value] ++ [keyword "AND"] ++ [keyword "mnum"] ++ [equals],
        mode := .quoted 39 [] } := rfl

theorem run_and_meet_seq :
    run { tokens := tokens, mode := .closing 39 value } (ascii " AND meet_seq='") =
      { tokens := tokens ++ [.quoted 39 value] ++ [keyword "AND"] ++ [keyword "meet_seq"] ++
          [equals],
        mode := .quoted 39 [] } := rfl

theorem run_number_and_meet_seq :
    run { tokens := tokens, mode := .number .whole value } (ascii " AND meet_seq=") =
      { tokens := tokens ++ [.number value] ++ [keyword "AND"] ++ [keyword "meet_seq"] ++ [equals],
        mode := .blank } := rfl

/-- Within a literal the same text is a part of it, up to the quote. -/
theorem run_within_and_mnum :
    ∃ longer, run { tokens := tokens, mode := .quoted 39 value } (ascii " AND mnum='") =
      { tokens := tokens, mode := .closing 39 longer } := ⟨_, rfl⟩

/-- A number and a quote behind a closed literal leave another one open. -/
theorem run_unfinished (mnum : Int) :
    (run { tokens := tokens, mode := .closing 39 value } (decimalText mnum ++ ascii "'")).finish =
      none := by
  have blank : run { tokens := tokens, mode := .closing 39 value } (decimalText mnum) =
      run { tokens := tokens ++ [.quoted 39 value], mode := .blank } (decimalText mnum) := by
    have chars := decimal_text_chars mnum
    cases text : decimalText mnum with
    | nil =>
        have read := run_decimal_text [] mnum
        rw [text] at read
        cases congrArg Lexer.mode read
    | cons first rest =>
        rw [text] at chars
        exact run_closing (chars first List.mem_cons_self).1
  rw [run_append, blank, run_decimal_text]
  rfl

end Statements

section Shapes

theorem quote_eq : ascii "'" = [39] := by decide

theorem quote_and_mnum_eq : ascii "' AND mnum='" = [39] ++ ascii " AND mnum='" := by decide

theorem c_str_eq_self_iff {text : ByteString} : cStr text = text ↔ 0 ∉ text := by
  constructor
  · intro same
    rw [← same]
    exact fun member => absurd (List.mem_takeWhile_imp member) (by decide)
  · intro visible
    apply List.takeWhile_eq_self_iff.mpr
    intro char member
    apply decide_eq_true
    intro zero
    exact visible (zero ▸ member)

theorem lex_select_member (mcode : ByteString) :
    lex (Statement.selectMember mcode).text =
      (run { tokens := memberStart, mode := .quoted 39 [] } (cStr mcode ++ [39])).finish := by
  have text : (Statement.selectMember mcode).text =
      ascii "SELECT mnum FROM `member` WHERE mcode='" ++ (cStr mcode ++ [39]) := by
    simp only [Statement.text, quote_eq, List.append_assoc]
  rw [text, lex, run_append, select_member_start]

theorem select_member_iff (mcode : ByteString) :
    WellShaped (.selectMember mcode) ↔ Insertable (.selectMember mcode) := by
  unfold WellShaped
  rw [lex_select_member]
  constructor
  · intro finished
    have shorter : (cStr mcode).length ≤ mcode.length := (List.takeWhile_sublist _).length_le
    rcases quoted_end (.inl rfl) shorter finished with ⟨same, plain⟩
    exact ⟨c_str_eq_self_iff.mp same, same ▸ plain⟩
  · rintro ⟨visible, plain⟩
    rw [c_str_eq_self_iff.mpr visible, run_quoted (.inl rfl) plain]
    rfl

theorem lex_select_participant (meetSeq : ByteString) (mnum : Int) :
    lex (Statement.selectParticipant meetSeq mnum).text =
      (run (run (run { tokens := participantStart, mode := .quoted 39 [] } (meetSeq ++ [39]))
        (ascii " AND mnum='")) (decimalText mnum ++ ascii "'")).finish := by
  have text : (Statement.selectParticipant meetSeq mnum).text =
      ascii "SELECT * FROM `participant` WHERE meet_seq='" ++ ((meetSeq ++ [39]) ++
        (ascii " AND mnum='" ++ (decimalText mnum ++ ascii "'"))) := by
    simp only [Statement.text, quote_and_mnum_eq, List.append_assoc]
  rw [text, lex, run_append, run_append _ (meetSeq ++ [39]), run_append _ (ascii " AND mnum='"),
    select_participant_start]

theorem select_participant_iff (meetSeq : ByteString) (mnum : Int) :
    WellShaped (.selectParticipant meetSeq mnum) ↔
      Insertable (.selectParticipant meetSeq mnum) := by
  unfold WellShaped
  rw [lex_select_participant]
  constructor
  · have marked : Marked 39 participantStart meetSeq
        (run { tokens := participantStart, mode := .quoted 39 [] } (meetSeq ++ [39])) :=
      marked_run (.inl rfl) meetSeq
    generalize run { tokens := participantStart, mode := .quoted 39 [] } (meetSeq ++ [39]) =
      lexer at marked
    intro finished
    have expected : participantStart ++ [.quoted 39 meetSeq] <+:
        shape (.selectParticipant meetSeq mnum) := ⟨_, rfl⟩
    cases marked with
    | plain plain => exact plain
    | shorter value shorter =>
        have grown := (run_tokens _ (decimalText mnum ++ ascii "'")).trans (finish_tokens finished)
        rw [run_and_mnum] at grown
        have first : participantStart ++ [.quoted 39 value] <+:
            shape (.selectParticipant meetSeq mnum) := by
          refine List.IsPrefix.trans ?_ grown
          simp only [List.append_assoc]
          exact List.prefix_append_right_inj _ |>.mpr (List.prefix_append _ _)
        cases next_token_unique first expected
        exact absurd shorter (Nat.lt_irrefl _)
    | within value =>
        rcases run_within_and_mnum participantStart value with ⟨longer, within⟩
        rw [within, run_unfinished] at finished
        cases finished
    | closed value lexer shorter behind =>
        have first := behind.trans ((run_tokens _ _).trans ((run_tokens _ _).trans
          (finish_tokens finished)))
        cases next_token_unique first expected
        exact absurd shorter (Nat.lt_irrefl _)
  · intro plain
    rw [run_quoted (.inl rfl) plain, run_and_mnum, quote_eq,
      run_quoted (.inl rfl) (decimal_text_plain mnum)]
    rfl

theorem update_auth_iff (authority : Bool) (mnum : Int) (meetSeq : ByteString) :
    WellShaped (.updateAuth authority mnum meetSeq) ↔
      Insertable (.updateAuth authority mnum meetSeq) := by
  have text : (Statement.updateAuth authority mnum meetSeq).text =
      (if authority then ascii "UPDATE `participant` SET role='1' WHERE mnum='"
        else ascii "UPDATE `participant` SET role='2' WHERE mnum='") ++
        ((decimalText mnum ++ [39]) ++ (ascii " AND meet_seq='" ++ (meetSeq ++ [39]))) := by
    simp only [Statement.text, quote_eq, List.append_assoc]
  unfold WellShaped
  rw [text, lex, run_append, run_append _ (decimalText mnum ++ [39]),
    run_append _ (ascii " AND meet_seq='"), update_auth_start,
    run_quoted (.inl rfl) (decimal_text_plain mnum), run_and_meet_seq]
  exact quoted_end_iff (.inl rfl) meetSeq

theorem update_chief_iff (chief : Bool) (mnum : Int) (meetSeq : ByteString) :
    WellShaped (.updateChief chief mnum meetSeq) ↔
      Insertable (.updateChief chief mnum meetSeq) := by
  have text : (Statement.updateChief chief mnum meetSeq).text =
      (if chief then ascii "UPDATE `participant` SET role=0 WHERE mnum="
        else ascii "UPDATE `participant` SET role=1 WHERE mnum=") ++
        (decimalText mnum ++ (ascii " AND meet_seq=" ++ meetSeq)) := by
    simp only [Statement.text, List.append_assoc]
  unfold WellShaped
  rw [text, lex, run_append, run_append _ (decimalText mnum), run_append _ (ascii " AND meet_seq="),
    update_chief_start, run_decimal_text, run_number_and_meet_seq]
  have same : shape (.updateChief chief mnum meetSeq) =
      updateStart (.number (if chief then ascii "0" else ascii "1")) ++ signTokens mnum ++
        [.number (decimalDigits mnum.natAbs)] ++ [keyword "AND"] ++ [keyword "meet_seq"] ++
        [equals] ++ [.number meetSeq] := by
    simp only [shape, number_tokens_eq, List.append_assoc]
    rfl
  rw [same]
  apply number_end_iff
  have digits : IsNumber (decimalDigits mnum.natAbs) := by
    rw [IsNumber, decimal_digits_part]
    rfl
  have role : IsNumber (if chief then ascii "0" else ascii "1") := by cases chief <;> decide
  have start : Sound (updateStart (.number (if chief then ascii "0" else ascii "1"))) := by
    intro text member
    have text_eq : text = if chief then ascii "0" else ascii "1" := by
      simpa [updateStart, keyword, table, equals] using member
    rw [text_eq]
    exact role
  have sign : Sound (signTokens mnum) := by
    intro text member
    unfold signTokens at member
    split_ifs at member
    · cases List.mem_singleton.mp member
    · cases member
  have number : Sound [.number (decimalDigits mnum.natAbs)] := by
    intro text member
    cases List.mem_singleton.mp member
    exact digits
  have columns := sound_append (sound_append start sign) number
  exact other_sound (other_sound (other_sound columns nofun) nofun) nofun

theorem well_shaped_iff (statement : Statement) : WellShaped statement ↔ Insertable statement := by
  cases statement with
  | selectMember mcode => exact select_member_iff mcode
  | selectParticipant meetSeq mnum => exact select_participant_iff meetSeq mnum
  | updateAuth authority mnum meetSeq => exact update_auth_iff authority mnum meetSeq
  | updateChief chief mnum meetSeq => exact update_chief_iff chief mnum meetSeq

end Shapes

section Calls

variable (db : Database) (call : DbCall) (src dst mcode mscode : ByteString)

structure Finds (first : Nat) (member : ByteString) : Prop where
  unraised : call.raisesAt ≠ some first
  found : db.mnumOf (cStr member) ≠ none
  prints : MnumPrints db member

/-- A lookup inserts the member, and what it finds goes with the meeting number. -/
def FindsInsertable (first : Nat) (member : ByteString) (condition : Prop) : Prop :=
  Insertable (.selectMember member) ∧ (Finds db call first member → condition)

def SuitedInsertable : Prop :=
  call.connection = .established →
    FindsInsertable db call 0 mcode
      (∀ meetSeq, meetSeqOf (cStr mscode) = .done meetSeq → Plain 39 meetSeq)

def AuthInsertable : Prop :=
  call.connection = .established → ∀ meetSeq, meetSeqOf (cStr mscode) = .done meetSeq →
    FindsInsertable db call 0 dst (Plain 39 meetSeq)

/-- The second lookup is made after the first update, unless that or its lookup raised. -/
def ChiefInsertable : Prop :=
  call.connection = .established → ∀ meetSeq, meetSeqOf (cStr mscode) = .done meetSeq →
    FindsInsertable db call 0 src (IsNumber meetSeq) ∧
      (call.raisesAt ≠ some 0 → (call.raisesAt = some 1 → db.mnumOf (cStr src) = none) →
        MnumPrints db src →
          FindsInsertable (db.released (cStr src) meetSeq) call 2 dst (IsNumber meetSeq))

end Calls

section Inserted

variable {db : Database} {call : DbCall} {src dst mcode mscode : ByteString}

theorem finds_iff {first : Nat} {member : ByteString} :
    Finds db call first member ↔
      call.raisesAt ≠ some first ∧
        ∃ mnum, db.mnumOf (cStr member) = some mnum ∧ sprintfInt mnum = .done mnum := by
  constructor
  · rintro ⟨unraised, found, prints⟩
    rcases Option.ne_none_iff_exists'.mp found with ⟨mnum, same⟩
    exact ⟨unraised, mnum, same, sprintf_int_done_iff.mpr ⟨rfl, prints mnum same⟩⟩
  · rintro ⟨unraised, mnum, same, print⟩
    refine ⟨unraised, by rw [same]; exact Option.some_ne_none mnum, ?_⟩
    intro other found
    rw [same] at found
    cases found
    exact (sprintf_int_done_iff.mp print).2

theorem update_role_shaped_iff {quoting : Quoting} {first : Nat}
    {meetSeq member text : ByteString} {update : Int → Statement} {condition : Prop}
    (inserted : ∀ mnum, WellShaped (update mnum) ↔ condition) :
    (updateRoleTraced db call quoting first meetSeq member text update).All WellShaped ↔
      FindsInsertable db call first member condition := by
  unfold updateRoleTraced FindsInsertable
  rw [all_handed_iff, well_shaped_iff, finds_iff]
  apply and_congr_right
  intro _
  by_cases raised : call.raisesAt = some first
  · rw [if_pos raised]
    exact iff_of_true (all_silent _) fun finds => absurd raised finds.1
  · rw [if_neg raised]
    cases found : db.mnumOf (cStr member) with
    | none =>
        refine iff_of_true (all_silent _) ?_
        rintro ⟨_, mnum, same, _⟩
        cases same
    | some mnum =>
        rw [all_silent_bind_iff]
        constructor
        · rintro shaped ⟨_, other, same, print⟩
          cases same
          exact (inserted mnum).mp (all_handed_iff.mp (shaped mnum print)).1
        · intro insertable printed print
          cases sprintf_int_done print
          have shaped := (inserted mnum).mpr (insertable ⟨raised, mnum, rfl, print⟩)
          refine all_handed_iff.mpr ⟨shaped, ?_⟩
          split_ifs
          · exact all_silent _
          · exact all_silent _

theorem is_suited_shaped_iff (made : call.connection = .established) (checkAuth checkChief : Bool)
    (role : Int) :
    (isSuitedTraced db call mcode mscode checkAuth checkChief role).All WellShaped ↔
      FindsInsertable db call 0 mcode
        (∀ meetSeq, meetSeqOf (cStr mscode) = .done meetSeq → Plain 39 meetSeq) := by
  unfold isSuitedTraced FindsInsertable
  simp only [made]
  rw [all_handed_iff, well_shaped_iff, finds_iff]
  apply and_congr_right
  intro _
  by_cases raised : call.raisesAt = some 0
  · rw [if_pos raised]
    exact iff_of_true (all_silent _) fun finds => absurd raised finds.1
  · rw [if_neg raised]
    cases found : db.mnumOf (cStr mcode) with
    | none =>
        refine iff_of_true (all_silent _) ?_
        rintro ⟨_, mnum, same, _⟩
        cases same
    | some mnum =>
        rw [all_silent_bind_iff]
        constructor
        · rintro shaped ⟨_, other, same, print⟩ meetSeq text
          cases same
          have behind := all_silent_bind_iff.mp (shaped mnum print) meetSeq text
          exact (select_participant_iff meetSeq mnum).mp (all_handed_iff.mp behind).1
        · intro insertable printed print
          cases sprintf_int_done print
          refine all_silent_bind_iff.mpr fun meetSeq text => ?_
          have plain := insertable ⟨raised, mnum, rfl, print⟩ meetSeq text
          refine all_handed_iff.mpr ⟨(select_participant_iff meetSeq mnum).mpr plain, ?_⟩
          split_ifs
          · exact all_silent _
          · rcases db.role (db.found meetSeq mnum).1 (db.found meetSeq mnum).2 with
              missing | _ | text
            · exact all_silent _
            · exact all_silent _
            · exact all_silent _

theorem change_auth_shaped_iff (made : call.connection = .established) (authority : Bool) :
    (changeAuthTraced db call dst authority mscode).All WellShaped ↔
      ∀ meetSeq, meetSeqOf (cStr mscode) = .done meetSeq →
        FindsInsertable db call 0 dst (Plain 39 meetSeq) := by
  unfold changeAuthTraced connectedTraced statedTraced
  simp only [made, reduceCtorEq, if_false]
  rw [all_silent_bind_iff]
  apply forall₂_congr
  intro meetSeq text
  rw [all_bind_iff, update_role_shaped_iff fun mnum => update_auth_iff authority mnum meetSeq]
  exact and_iff_left fun _ _ => all_silent _

theorem change_chief_shaped_iff (made : call.connection = .established) :
    (changeChiefTraced db call src dst mscode).All WellShaped ↔
      ∀ meetSeq, meetSeqOf (cStr mscode) = .done meetSeq →
        FindsInsertable db call 0 src (IsNumber meetSeq) ∧
          (call.raisesAt ≠ some 0 → (call.raisesAt = some 1 → db.mnumOf (cStr src) = none) →
            MnumPrints db src →
              FindsInsertable (db.released (cStr src) meetSeq) call 2 dst (IsNumber meetSeq)) := by
  unfold changeChiefTraced connectedTraced statedTraced
  simp only [made, reduceCtorEq, if_false]
  rw [all_silent_bind_iff]
  apply forall₂_congr
  intro meetSeq text
  rw [all_bind_iff, update_role_shaped_iff fun mnum => update_chief_iff false mnum meetSeq]
  apply and_congr_right
  intro _
  have second : ∀ handed : Statements,
      ((updateRoleTraced handed.db call .bare 2 meetSeq dst (ascii "0")
        fun mnum => .updateChief true mnum meetSeq).bind
          fun updated => silent (.done updated.db)).All WellShaped ↔
        FindsInsertable handed.db call 2 dst (IsNumber meetSeq) := by
    intro handed
    rw [all_bind_iff, update_role_shaped_iff fun mnum => update_chief_iff true mnum meetSeq]
    exact and_iff_left fun _ _ => all_silent _
  constructor
  · intro shaped unraised idle prints
    rcases (update_role_returns_iff .bare 0 meetSeq (ascii "1")).mpr fun _ => prints
      with ⟨handed, hand⟩
    have later := shaped handed ((update_role_traced _ _ _ _ _ _ _ _).trans hand)
    obtain ⟨reached, result⟩ := second_reached_iff hand
    have unstopped := reached.mpr ⟨unraised, idle⟩
    rw [if_neg (by rw [unstopped]; exact Bool.noConfusion), second, result unstopped] at later
    exact later
  · intro insertable handed returned
    have hand := (update_role_traced _ _ _ _ _ _ _ _).symm.trans returned
    split_ifs with raised
    · exact all_silent _
    · obtain ⟨reached, result⟩ := second_reached_iff hand
      have unstopped := Bool.eq_false_iff.mpr raised
      rcases reached.mp unstopped with ⟨unraised, idle⟩
      have prints :=
        (update_role_returns_iff .bare 0 meetSeq (ascii "1")).mp ⟨handed, hand⟩ unraised
      rw [second, result unstopped]
      exact insertable unraised idle prints

/-- Each statement of the three functions is read as it was meant just when the
members and the meeting number that get into it are what their quotes can hold. -/
theorem well_shaped_statements_iff (db : Database) (call : DbCall)
    (src dst mcode mscode : ByteString) (checkAuth checkChief authority : Bool) (role : Int) :
    ((isSuitedTraced db call mcode mscode checkAuth checkChief role).All WellShaped ↔
      SuitedInsertable db call mcode mscode) ∧
    ((changeAuthTraced db call dst authority mscode).All WellShaped ↔
      AuthInsertable db call dst mscode) ∧
    ((changeChiefTraced db call src dst mscode).All WellShaped ↔
      ChiefInsertable db call src dst mscode) := by
  cases made : call.connection with
  | established =>
      simp only [SuitedInsertable, AuthInsertable, ChiefInsertable, made, true_imp_iff]
      exact ⟨is_suited_shaped_iff made checkAuth checkChief role,
        change_auth_shaped_iff made authority, change_chief_shaped_iff made⟩
  | null =>
      simp only [SuitedInsertable, AuthInsertable, ChiefInsertable, made, isSuitedTraced,
        changeAuthTraced, changeChiefTraced, connectedTraced, statedTraced, reduceCtorEq,
        false_imp_iff, if_true]
      have nothing : ((silent (meetSeqOf (cStr mscode))).bind fun _ =>
          (silent (.undefined .noStatement) : Traced Database)).All WellShaped :=
        all_silent_bind_iff.mpr fun _ _ => all_silent _
      exact ⟨iff_of_true (all_silent _) trivial, iff_of_true nothing trivial,
        iff_of_true nothing trivial⟩
  | raises =>
      simp only [SuitedInsertable, AuthInsertable, ChiefInsertable, made, isSuitedTraced,
        changeAuthTraced, changeChiefTraced, connectedTraced, reduceCtorEq, false_imp_iff]
      exact ⟨iff_of_true (all_silent _) trivial, iff_of_true (all_silent _) trivial,
        iff_of_true (all_silent _) trivial⟩

/-- A member code with a quote in it makes the condition of the SELECT true of
every member. -/
theorem quote_changes_condition :
    lex (Statement.selectMember (ascii "' OR '1'='1")).text =
        some (memberStart ++
          [.quoted 39 [], keyword "OR", .quoted 39 (ascii "1"), equals, .quoted 39 (ascii "1")]) ∧
      ¬∀ (db : Database) (call : DbCall) (src dst mcode mscode : ByteString)
        (checkAuth checkChief authority : Bool) (role : Int),
        (isSuitedTraced db call mcode mscode checkAuth checkChief role).All WellShaped ∧
          (changeAuthTraced db call dst authority mscode).All WellShaped ∧
          (changeChiefTraced db call src dst mscode).All WellShaped := by
  refine ⟨by decide, ?_⟩
  intro always
  have db : Database :=
    { members := fun _ _ => none, selected := fun _ text mnum => (atoi text, mnum)
      matched := fun _ text mnum meet member _ => meet = atoi text ∧ member = mnum
      role := fun _ _ => none }
  have shaped := (always db .succeeds [] [] (ascii "' OR '1'='1") [] false false false 0).1
  have first : WellShaped (.selectMember (ascii "' OR '1'='1")) :=
    shaped _ List.mem_cons_self
  exact absurd first (by decide)

end Inserted

end Collabo.SqlShapes
