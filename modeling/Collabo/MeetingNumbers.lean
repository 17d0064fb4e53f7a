import Collabo.CInt
import Collabo.ConnectorTexts

/-!
# The meeting number in the member database

All three functions decode `mscode` and copy what stands in front of its first
`from` into ten bytes that were set to zero. The search ends at a zero byte of
the decoded text, its failure is not checked, and the length of the copy is the
difference of two pointers.
-/

namespace Collabo.MeetingNumbers

open Collabo.CInt Collabo.CString Collabo.MySQLConnector Collabo.ConnectorTexts

set_option autoImplicit false

/-- `p - decoded.c_str()` as the `size_t` of the copy, where `p` is `NULL` if nothing
was found and the text lies at `address`. -/
def copyLength (address : Nat) (found : Option Nat) : Nat :=
  match found with
  | some offset => offset
  | none => sizeT (-(address : Int))

/-- The statements from `strstr` to the `append` that reads `meetSeqChar`. -/
def copyMeetSeq (address : Nat) (decoded : ByteString) : Outcome ByteString :=
  (strncpy (List.replicate 10 0) decoded
    (copyLength address (strstr (ascii "from") (cStr decoded)))).bind cStringOf

/-- The text stands in front of the first occurrence of `needle`. -/
structure TextBefore (needle hay text : ByteString) : Prop where
  occurs : text ++ needle <+: hay
  first : ∀ other, other ++ needle <+: hay → text.length ≤ other.length

/-- The text in front of `from` fits the buffer, and no zero byte hides `from`. -/
structure MeetSeq (decoded text : ByteString) : Prop where
  before : TextBefore (ascii "from") decoded text
  visible : 0 ∉ text
  fits : text.length ≤ 9

def Exact (mscode : ByteString) (statement : Statement) : Prop :=
  ∀ meetSeq, statement.meetSeq = some meetSeq →
    ∃ decoded, Base64.decode (cStr mscode) = some decoded ∧
      TextBefore (ascii "from") decoded meetSeq

/-- A call that gets a connection, be it `NULL`, hands out exact numbers only and
returns, or with `NULL` gets to the use of the statement that was not made. -/
def Extracts {Value : Type} (call : DbCall) (mscode : ByteString) (traced : Traced Value) : Prop :=
  call.connection ≠ .raises →
    ((∃ value, traced.outcome = .done value) ∨
      call.connection = .null ∧ traced.outcome = .undefined .noStatement) ∧
      traced.All (Exact mscode)

def Extractable (mscode : ByteString) : Prop :=
  ∃ decoded meetSeq, Base64.decode (cStr mscode) = some decoded ∧ MeetSeq decoded meetSeq

def MnumPrints (db : Database) (mcode : ByteString) : Prop :=
  ∀ mnum, db.mnumOf (cStr mcode) = some mnum → -99999999 ≤ mnum ∧ mnum ≤ 999999999

section Conditions

variable (db : Database) (call : DbCall) (src dst mcode mscode : ByteString)

/-- `isSuited` extracts the number once it has found the member. -/
def SuitedExtractable : Prop :=
  call.connection = .established → call.raisesAt ≠ some 0 → db.mnumOf (cStr mcode) ≠ none →
    MnumPrints db mcode ∧ Extractable mscode

/-- The updates extract it first, also with a connection that is `NULL`. The second
member is looked up after the first update. -/
def AuthExtractable : Prop :=
  call.connection ≠ .raises →
    Extractable mscode ∧
      (call.connection = .established → call.raisesAt ≠ some 0 → MnumPrints db dst)

def ChiefExtractable : Prop :=
  call.connection ≠ .raises →
    Extractable mscode ∧
      (call.connection = .established →
        (call.raisesAt ≠ some 0 → MnumPrints db src) ∧
          (call.raisesAt ≠ some 0 → (call.raisesAt = some 1 → db.mnumOf (cStr src) = none) →
            call.raisesAt ≠ some 2 → ∀ meetSeq, meetSeqOf (cStr mscode) = .done meetSeq →
            MnumPrints (db.released (cStr src) meetSeq) dst))

end Conditions

section Search

theorem text_before_cons {needle hay text : ByteString} {char : UInt8}
    (elsewhere : ¬needle <+: char :: hay) :
    TextBefore needle (char :: hay) text ↔
      ∃ rest, text = char :: rest ∧ TextBefore needle hay rest := by
  constructor
  · rintro ⟨occurs, first⟩
    cases text with
    | nil => exact absurd occurs elsewhere
    | cons head rest =>
        rcases List.cons_prefix_cons.mp occurs with ⟨same, later⟩
        refine ⟨rest, by rw [same], later, ?_⟩
        intro other found
        have longer := first (char :: other) (List.cons_prefix_cons.mpr ⟨rfl, found⟩)
        rw [List.length_cons, List.length_cons] at longer
        omega
  · rintro ⟨rest, same, occurs, first⟩
    rw [same]
    refine ⟨List.cons_prefix_cons.mpr ⟨rfl, occurs⟩, ?_⟩
    intro other found
    cases other with
    | nil => exact absurd found elsewhere
    | cons head later =>
        have longer := first later (List.cons_prefix_cons.mp found).2
        rw [List.length_cons, List.length_cons]
        omega

theorem strstr_some_iff {needle hay : ByteString} (nonempty : needle ≠ []) {index : Nat} :
    strstr needle hay = some index ↔ ∃ text, text.length = index ∧ TextBefore needle hay text := by
  induction hay generalizing index with
  | nil =>
      rw [strstr, if_neg nonempty]
      apply iff_of_false nofun
      rintro ⟨text, _, occurs, _⟩
      exact nonempty (List.append_eq_nil_iff.mp (List.prefix_nil.mp occurs)).2
  | cons char rest induction =>
      rw [strstr]
      by_cases here : needle.isPrefixOf (char :: rest) = true
      · have occurs := List.isPrefixOf_iff_prefix.mp here
        rw [if_pos here]
        constructor
        · intro same
          exact ⟨[], Option.some.inj same, occurs, fun _ _ => Nat.zero_le _⟩
        · rintro ⟨text, length, before⟩
          have none := before.first [] occurs
          rw [← length, Nat.le_zero.mp none]
      · have elsewhere := fun occurs => here (List.isPrefixOf_iff_prefix.mpr occurs)
        rw [if_neg here, Option.map_eq_some_iff]
        constructor
        · rintro ⟨offset, found, same⟩
          rcases induction.mp found with ⟨text, length, before⟩
          refine ⟨char :: text, ?_, (text_before_cons elsewhere).mpr ⟨text, rfl, before⟩⟩
          rw [List.length_cons, length, same]
        · rintro ⟨text, length, before⟩
          rcases (text_before_cons elsewhere).mp before with ⟨later, same, found⟩
          refine ⟨later.length, induction.mpr ⟨later, rfl, found⟩, ?_⟩
          rw [← length, same, List.length_cons]

theorem prefix_c_str_iff {text hay : ByteString} :
    text <+: cStr hay ↔ text <+: hay ∧ 0 ∉ text := by
  constructor
  · intro found
    exact ⟨found.trans (List.takeWhile_prefix _), fun member =>
      c_str_visible hay (found.subset member)⟩
  · rintro ⟨⟨rest, same⟩, visible⟩
    rw [← same, c_str_append visible]
    exact List.prefix_append _ _

theorem text_before_unique {needle hay text other : ByteString}
    (before : TextBefore needle hay text) (otherBefore : TextBefore needle hay other) :
    text = other := by
  have shorter := before.first other otherBefore.occurs
  have longer := otherBefore.first text before.occurs
  have found := (List.prefix_append text needle).trans before.occurs
  have otherFound := (List.prefix_append other needle).trans otherBefore.occurs
  exact (List.prefix_of_prefix_length_le found otherFound shorter).eq_of_length
    (Nat.le_antisymm shorter longer)

/-- A search in the C string finds what is not behind a zero byte. -/
theorem text_before_c_str_iff {needle hay text : ByteString} (clean : 0 ∉ needle) :
    TextBefore needle (cStr hay) text ↔ TextBefore needle hay text ∧ 0 ∉ text := by
  constructor
  · rintro ⟨occurs, first⟩
    rcases prefix_c_str_iff.mp occurs with ⟨found, visible⟩
    have textVisible : 0 ∉ text := fun member => visible (List.mem_append_left _ member)
    refine ⟨⟨found, ?_⟩, textVisible⟩
    intro other otherFound
    by_contra shorter
    have inText : other <+: text := by
      apply List.prefix_of_prefix_length_le ((List.prefix_append _ _).trans otherFound)
        ((List.prefix_append _ _).trans found)
      omega
    apply shorter
    apply first
    apply prefix_c_str_iff.mpr
    refine ⟨otherFound, ?_⟩
    intro member
    rcases List.mem_append.mp member with inOther | inNeedle
    · exact textVisible (inText.subset inOther)
    · exact clean inNeedle
  · rintro ⟨⟨occurs, first⟩, visible⟩
    refine ⟨prefix_c_str_iff.mpr ⟨occurs, ?_⟩, ?_⟩
    · intro member
      rcases List.mem_append.mp member with inText | inNeedle
      · exact visible inText
      · exact clean inNeedle
    · intro other otherFound
      exact first other (prefix_c_str_iff.mp otherFound).1

end Search

section Extraction

theorem from_visible : 0 ∉ ascii "from" := by decide

theorem find_from_iff {decoded : ByteString} {offset : Nat} :
    strstr (ascii "from") (cStr decoded) = some offset ↔
      ∃ text, text.length = offset ∧ TextBefore (ascii "from") decoded text ∧ 0 ∉ text := by
  have found := @strstr_some_iff (ascii "from") (cStr decoded) (by decide) offset
  simp only [text_before_c_str_iff from_visible] at found
  exact found

/-- The meeting number is the text in front of `from` where that fits the buffer. -/
theorem meet_seq_of_done_iff {mscode meetSeq : ByteString} :
    meetSeqOf mscode = .done meetSeq ↔
      ∃ decoded, Base64.decode mscode = some decoded ∧ MeetSeq decoded meetSeq := by
  unfold meetSeqOf
  cases decodes : Base64.decode mscode with
  | none =>
      apply iff_of_false nofun
      rintro ⟨decoded, same, _⟩
      cases same
  | some decoded =>
      dsimp only
      cases search : strstr (ascii "from") (cStr decoded) with
      | none =>
          apply iff_of_false nofun
          rintro ⟨other, same, extracted⟩
          cases same
          have found := find_from_iff.mpr ⟨_, rfl, extracted.before, extracted.visible⟩
          rw [search] at found
          cases found
      | some offset =>
          dsimp only
          rcases find_from_iff.mp search with ⟨text, length, before, visible⟩
          have taken : (cStr decoded).take offset = text := by
            rcases prefix_c_str_iff.mpr ⟨(List.prefix_append _ _).trans before.occurs, visible⟩
              with ⟨rest, same⟩
            rw [← same, ← length, List.take_left]
          rw [taken]
          constructor
          · intro done
            split_ifs at done with small
            cases done
            exact ⟨decoded, rfl, before, visible, length ▸ small⟩
          · rintro ⟨other, same, extracted⟩
            cases same
            have sameText := text_before_unique before extracted.before
            have fits := extracted.fits
            rw [← sameText] at fits ⊢
            rw [if_pos (length ▸ fits)]

theorem copy_length_none {address : Nat} (mapped : 0 < address) (low : address < 2 ^ 63) :
    2 ^ 63 < copyLength address none := by
  change 2 ^ 63 < (-(address : Int) % 2 ^ 64).toNat
  omega

theorem c_string_of_copied {text : ByteString} (visible : 0 ∉ text) (room : Nat) :
    cStringOf (text ++ List.replicate room 0) =
      if 0 < room then .done text else .undefined .overrun := by
  unfold cStringOf
  split_ifs with terminated some some
  · rw [c_str_append visible]
    have none : cStr (List.replicate room 0) = [] := by
      cases room with
      | zero => rfl
      | succ room => rfl
    rw [none, List.append_nil]
  · rcases List.mem_append.mp terminated with inText | behind
    · exact absurd inText visible
    · exact absurd (Nat.pos_of_ne_zero (List.mem_replicate.mp behind).1) some
  · exact absurd (List.mem_append_right text (List.mem_replicate.mpr ⟨by omega, rfl⟩)) terminated
  · rfl

/-- Byte by byte the copy gives the number that the functions go on with, wherever
the decoded text lies. -/
theorem copy_meet_seq_eq {mscode decoded : ByteString} {address : Nat} (mapped : 0 < address)
    (low : address < 2 ^ 63) (decodes : Base64.decode mscode = some decoded) :
    copyMeetSeq address decoded = meetSeqOf mscode := by
  unfold copyMeetSeq meetSeqOf
  rw [decodes]
  dsimp only
  cases search : strstr (ascii "from") (cStr decoded) with
  | none =>
      have huge := copy_length_none mapped low
      have outside : ¬copyLength address none ≤ (List.replicate 10 (0 : UInt8)).length := by
        rw [List.length_replicate]
        omega
      rw [strncpy, if_neg outside]
      rfl
  | some offset =>
      rcases find_from_iff.mp search with ⟨text, length, before, visible⟩
      rcases prefix_c_str_iff.mpr ⟨(List.prefix_append _ _).trans before.occurs, visible⟩
        with ⟨rest, shown⟩
      have taken : (cStr decoded).take offset = text := by rw [← shown, ← length, List.take_left]
      have copied : (cStr decoded ++ List.replicate offset 0).take offset = text := by
        rw [← shown, List.append_assoc, ← length, List.take_left]
      dsimp only [copyLength]
      rw [strncpy, List.length_replicate, copied, List.drop_replicate, taken]
      split_ifs with copies small small
      · rw [Outcome.bind, c_string_of_copied visible, if_pos (by omega)]
      · rw [Outcome.bind, c_string_of_copied visible, if_neg (by omega)]
      · omega
      · rfl

end Extraction

section Functions

variable {db : Database} {call : DbCall} {src dst mcode mscode : ByteString}

theorem extractable_iff :
    Extractable mscode ↔ ∃ meetSeq, meetSeqOf (cStr mscode) = .done meetSeq := by
  simp only [meet_seq_of_done_iff]
  exact ⟨fun ⟨decoded, meetSeq, extracted⟩ => ⟨meetSeq, decoded, extracted⟩,
    fun ⟨meetSeq, decoded, extracted⟩ => ⟨decoded, meetSeq, extracted⟩⟩

theorem exact_of_done {meetSeq : ByteString} (text : meetSeqOf (cStr mscode) = .done meetSeq)
    {statement : Statement} (inserted : statement.meetSeq = some meetSeq) :
    Exact mscode statement := by
  rcases meet_seq_of_done_iff.mp text with ⟨decoded, decodes, extracted⟩
  intro other same
  rw [inserted] at same
  cases same
  exact ⟨decoded, decodes, extracted.before⟩

theorem select_member_exact (mcode : ByteString) : Exact mscode (.selectMember mcode) := by
  intro meetSeq inserted
  cases inserted

theorem is_suited_exact (checkAuth checkChief : Bool) (role : Int) :
    (isSuitedTraced db call mcode mscode checkAuth checkChief role).All (Exact mscode) := by
  unfold isSuitedTraced
  dsimp only
  cases call.connection with
  | raises => exact all_silent _
  | null => exact all_silent _
  | established =>
      refine all_handed_iff.mpr ⟨select_member_exact mcode, ?_⟩
      by_cases raised : call.raisesAt = some 0
      · rw [if_pos raised]
        exact all_silent _
      · rw [if_neg raised]
        cases db.mnumOf (cStr mcode) with
        | none => exact all_silent _
        | some mnum =>
            refine all_silent_bind_iff.mpr fun printed _ => ?_
            refine all_silent_bind_iff.mpr fun meetSeq text => ?_
            refine all_handed_iff.mpr ⟨exact_of_done text rfl, ?_⟩
            split_ifs
            · exact all_silent _
            · rcases db.role (db.found meetSeq printed).1 (db.found meetSeq printed).2 with
                missing | _ | text
              · exact all_silent _
              · exact all_silent _
              · exact all_silent _

theorem update_role_exact {quoting : Quoting} {first : Nat} {meetSeq text : ByteString}
    {update : Int → Statement} (inserted : ∀ mnum, Exact mscode (update mnum)) :
    (updateRoleTraced db call quoting first meetSeq mcode text update).All (Exact mscode) := by
  unfold updateRoleTraced
  refine all_handed_iff.mpr ⟨select_member_exact mcode, ?_⟩
  by_cases raised : call.raisesAt = some first
  · rw [if_pos raised]
    exact all_silent _
  · rw [if_neg raised]
    cases db.mnumOf (cStr mcode) with
    | none => exact all_silent _
    | some mnum =>
        refine all_silent_bind_iff.mpr fun printed _ => ?_
        refine all_handed_iff.mpr ⟨inserted printed, ?_⟩
        split_ifs
        · exact all_silent _
        · exact all_silent _

theorem connected_exact {statements : ByteString → Traced Database}
    (inner : ∀ meetSeq, meetSeqOf (cStr mscode) = .done meetSeq →
      (statements meetSeq).All (Exact mscode)) :
    (connectedTraced call <| (silent (meetSeqOf (cStr mscode))).bind fun meetSeq =>
      statedTraced call (statements meetSeq)).All (Exact mscode) := by
  have rest : ((silent (meetSeqOf (cStr mscode))).bind fun meetSeq =>
      statedTraced call (statements meetSeq)).All (Exact mscode) := by
    refine all_silent_bind_iff.mpr fun meetSeq text => ?_
    unfold statedTraced
    split_ifs
    · exact all_silent _
    · exact inner meetSeq text
  unfold connectedTraced
  cases call.connection with
  | raises => exact all_silent _
  | null => exact rest
  | established => exact rest

theorem change_auth_exact (authority : Bool) :
    (changeAuthTraced db call dst authority mscode).All (Exact mscode) := by
  apply connected_exact
  intro meetSeq text
  refine all_bind_iff.mpr ⟨update_role_exact fun mnum => exact_of_done text rfl, ?_⟩
  exact fun updated _ => all_silent _

theorem change_chief_exact :
    (changeChiefTraced db call src dst mscode).All (Exact mscode) := by
  apply connected_exact
  intro meetSeq text
  refine all_bind_iff.mpr ⟨update_role_exact fun mnum => exact_of_done text rfl, ?_⟩
  intro updated _
  split_ifs
  · exact all_silent _
  · refine all_bind_iff.mpr ⟨update_role_exact fun mnum => exact_of_done text rfl, ?_⟩
    exact fun _ _ => all_silent _

theorem meet_seq_of_stated (mscode : ByteString) : meetSeqOf mscode ≠ .undefined .noStatement := by
  unfold meetSeqOf
  split
  · exact nofun
  · split
    · exact nofun
    · split
      · exact nofun
      · exact nofun

/-- With `NULL` the two updates get past the extraction or fail in it. -/
theorem null_extracts_iff (null : call.connection = .null)
    {statements : ByteString → Outcome Database} {outcome : Outcome Database}
    (same : outcome = connected call ((meetSeqOf (cStr mscode)).bind fun meetSeq =>
      stated call (statements meetSeq))) :
    ((∃ value, outcome = .done value) ∨
      call.connection = .null ∧ outcome = .undefined .noStatement) ↔ Extractable mscode := by
  rw [extractable_iff, same]
  simp only [connected, stated, null, if_true, true_and]
  cases text : meetSeqOf (cStr mscode) with
  | done meetSeq => exact iff_of_true (.inr rfl) ⟨meetSeq, rfl⟩
  | throws => exact iff_of_false (by simp [Outcome.bind]) (by simp)
  | undefined fault =>
      have other : fault ≠ .noStatement := by
        intro isStatement
        rw [isStatement] at text
        exact meet_seq_of_stated _ text
      exact iff_of_false (by simp [Outcome.bind, other]) (by simp)

/-- The extraction is safe in each of the three functions just when what is decoded
and what is printed fit, as far as the function gets. -/
theorem extraction_iff (db : Database) (call : DbCall) (src dst mcode mscode : ByteString)
    (checkAuth checkChief authority : Bool) (role : Int) :
    (Extracts call mscode (isSuitedTraced db call mcode mscode checkAuth checkChief role) ↔
      SuitedExtractable db call mcode mscode) ∧
    (Extracts call mscode (changeAuthTraced db call dst authority mscode) ↔
      AuthExtractable db call dst mscode) ∧
    (Extracts call mscode (changeChiefTraced db call src dst mscode) ↔
      ChiefExtractable db call src dst mscode) := by
  cases made : call.connection with
  | raises =>
      simp only [Extracts, SuitedExtractable, AuthExtractable, ChiefExtractable, made, ne_eq,
        not_true, false_imp_iff, reduceCtorEq, and_self]
  | null =>
      have unmade : call.connection ≠ .established := by
        rw [made]
        decide
      have refuses : (isSuitedTraced db call mcode mscode checkAuth checkChief role).outcome =
          .done { result := false, checkAuth, checkChief, role } := by
        simp only [isSuitedTraced, made]
        rfl
      refine ⟨?_, ?_, ?_⟩
      · refine iff_of_true ?_ ?_
        · intro _
          exact ⟨.inl ⟨_, refuses⟩, is_suited_exact checkAuth checkChief role⟩
        · exact fun isMade => absurd isMade unmade
      · have extracts := null_extracts_iff made
          (change_auth_traced db call dst authority mscode)
        unfold Extracts AuthExtractable
        rw [and_iff_left (change_auth_exact authority), extracts]
        exact forall_congr' fun _ => (and_iff_left fun isMade => absurd isMade unmade).symm
      · have extracts := null_extracts_iff made (change_chief_traced db call src dst mscode)
        unfold Extracts ChiefExtractable
        rw [and_iff_left change_chief_exact, extracts]
        exact forall_congr' fun _ => (and_iff_left fun isMade => absurd isMade unmade).symm
  | established =>
      simp only [Extracts, SuitedExtractable, AuthExtractable, ChiefExtractable, made, reduceCtorEq,
        false_and, or_false, ne_eq, not_false_eq_true, true_imp_iff]
      refine ⟨?_, ?_, ?_⟩
      · rw [and_iff_left (is_suited_exact checkAuth checkChief role), is_suited_traced,
          is_suited_returns_iff, made, or_iff_right nofun, and_iff_right rfl, ← extractable_iff]
        rfl
      · rw [and_iff_left (change_auth_exact authority), change_auth_traced,
          change_auth_returns_iff, and_iff_right made, ← extractable_iff]
        rfl
      · rw [and_iff_left change_chief_exact, change_chief_traced, change_chief_returns_iff,
          and_iff_right made, ← extractable_iff]
        rfl

/-- A text without `from` makes the copy larger than its buffer. -/
theorem extraction_overrun :
    ¬∀ (db : Database) (call : DbCall) (src dst mcode mscode : ByteString)
      (checkAuth checkChief authority : Bool) (role : Int),
      Extracts call mscode (isSuitedTraced db call mcode mscode checkAuth checkChief role) ∧
        Extracts call mscode (changeAuthTraced db call dst authority mscode) ∧
        Extracts call mscode (changeChiefTraced db call src dst mscode) := by
  intro always
  have db : Database :=
    { members := fun _ _ => some 7, selected := fun _ text mnum => (atoi text, mnum)
      matched := fun _ text mnum meet member _ => meet = atoi text ∧ member = mnum
      role := fun _ _ => none }
  rcases always db .succeeds [] [] [] (ascii "YWJj") false false false 0 with ⟨_, changes, _⟩
  rcases (changes (by decide)).1 with ⟨after, returned⟩ | ⟨null, _⟩
  · rw [change_auth_traced] at returned
    obtain ⟨_, meetSeq, text, _⟩ := connected_done_iff.mp returned
    have overrun : meetSeqOf (cStr (ascii "YWJj")) = .undefined .overrun := by decide
    rw [overrun] at text
    cases text
  · cases null

end Functions

end Collabo.MeetingNumbers
