import Collabo.ListedConnections

/-!
# What a stored role grants

`isSuited` is called with the privileges that the connection has, and leaves them
where the role that is stored reads as none of the three. A text that is no
number reads as 0, the role of a chief, and so does one whose first four bytes
are zeros.
-/

namespace Collabo.StoredRoles

open UniqueTable Collabo.CString Collabo.MySQLConnector Collabo.ClientTable Collabo.CollaboServer
  Collabo.ServerSteps Collabo.ListedConnections

set_option autoImplicit false

/-- A decimal numeral, with a sign or without, and the number that it denotes. -/
inductive Numeral : ByteString → Int → Prop where
  | digits {digits : ByteString} (nonempty : digits ≠ [])
      (all : ∀ char ∈ digits, isDigit char = true) : Numeral digits (decimalValue digits)
  | plus {digits : ByteString} (nonempty : digits ≠ [])
      (all : ∀ char ∈ digits, isDigit char = true) : Numeral (43 :: digits) (decimalValue digits)
  | minus {digits : ByteString} (nonempty : digits ≠ [])
      (all : ∀ char ∈ digits, isDigit char = true) : Numeral (45 :: digits) (-decimalValue digits)

structure Privileges where
  checkAuth : Bool
  checkChief : Bool
  role : Int
  deriving DecidableEq, Repr

def noPrivileges : Privileges where
  checkAuth := false
  checkChief := false
  role := -1

/-- A call of `isSuited` but for its reference parameters. -/
structure Request where
  db : Database
  dbCall : DbCall
  mcode : ByteString
  mscode : ByteString

def Request.answer (request : Request) (incoming : Privileges) : Outcome Suited :=
  isSuited request.db request.dbCall request.mcode request.mscode incoming.checkAuth
    incoming.checkChief incoming.role

def Accepts (request : Request) (incoming outgoing : Privileges) : Prop :=
  request.answer incoming =
    .done
      { result := true
        checkAuth := outgoing.checkAuth
        checkChief := outgoing.checkChief
        role := outgoing.role }

def StoredText (request : Request) (text : ByteString) : Prop :=
  ∃ meet mnum, RowOf request.db request.mcode request.mscode meet mnum ∧
    request.db.role meet mnum = some (some text)

structure Reads (request : Request) (text : ByteString) : Prop where
  established : request.dbCall.connection = .established
  firstQuery : request.dbCall.raisesAt ≠ some 0
  printed : Printed request.db request.mcode
  secondQuery : request.dbCall.raisesAt ≠ some 1
  stored : StoredText request text

/-- Accepted calls that read the same text leave the same privileges, whatever they
were called with. -/
def SameForSameText (request : Request) : Prop :=
  ∀ text other incoming otherIncoming outgoing otherOutgoing,
    StoredText request text → StoredText other text → Accepts request incoming outgoing →
    Accepts other otherIncoming otherOutgoing → outgoing = otherOutgoing

def ChiefOnlyForZero (request : Request) : Prop :=
  ∀ text incoming outgoing, StoredText request text → Accepts request incoming outgoing →
    outgoing.checkChief = true → Numeral text 0

def privilegesOf (client : Client) : Privileges where
  checkAuth := client.authority
  checkChief := client.chief
  role := client.role

/-- The message is a SETTING that calls `isSuited` with these codes. -/
structure Sets (json : Json) (request : Request) : Prop where
  identifier : json.int "identifier" = some 4
  mcode : (json.text "mcode").map cStr = some request.mcode
  mscode : (json.text "mscode").map cStr = some request.mscode

/-- What an entry has after a SETTING of its connection is what a connection without
privileges would be given. -/
def SettingKeepsNothing (request : Request) : Prop :=
  ∀ server following ws json lib entry, server.db = request.db → Listed server →
    Sets json request →
    onMsgPtr server ws (some json) request.dbCall lib = .returns following →
    entry ∈ following.clientList.entries → entry.ws = ws →
    Accepts request noPrivileges (privilegesOf entry)

structure RoleDecides (request : Request) : Prop where
  same : SameForSameText request
  chief : ChiefOnlyForZero request
  setting : SettingKeepsNothing request

/-- The texts that are read as a role, and as the role of a chief only where they
denote it. -/
def KnownRole (text : ByteString) : Prop :=
  roleNumber text = 1 ∨ roleNumber text = 2 ∨ roleNumber text = 0 ∧ Numeral text 0

section Calls

variable {request : Request} {incoming outgoing : Privileges} {text : ByteString}

def granted (text : ByteString) (incoming : Privileges) : Privileges where
  checkAuth := (grantedBy (roleNumber text) incoming.checkAuth incoming.checkChief).1
  checkChief := (grantedBy (roleNumber text) incoming.checkAuth incoming.checkChief).2
  role := roleNumber text

theorem stored_text_unique {other : ByteString} (stored : StoredText request text)
    (otherStored : StoredText request other) : text = other := by
  obtain ⟨meet, mnum, row, present⟩ := stored
  obtain ⟨otherMeet, otherMnum, otherRow, otherPresent⟩ := otherStored
  obtain ⟨rfl, rfl⟩ := row_of_unique row otherRow
  exact Option.some.inj (Option.some.inj (present.symm.trans otherPresent))

theorem reads_accepts (reads : Reads request text) (incoming : Privileges) :
    Accepts request incoming (granted text incoming) := by
  obtain ⟨meet, mnum, row, present⟩ := reads.stored
  obtain ⟨number, meetSeq, isMember, sequence, found⟩ := row
  obtain ⟨printed, member, print⟩ := reads.printed
  have same : printed = number := Option.some.inj (member.symm.trans isMember)
  rw [same] at member print
  unfold Accepts Request.answer isSuited
  simp only [reads.established, if_neg reads.firstQuery, member, print, sequence,
    if_neg reads.secondQuery, found, present, Outcome.bind]
  rfl

theorem accepts_reads (accepts : Accepts request incoming outgoing) :
    ∃ text, Reads request text ∧ outgoing = granted text incoming := by
  obtain ⟨meet, mnum, text, row, present, role, flags⟩ := is_suited_accepts accepts rfl
  have printed := is_suited_printed accepts rfl
  refine ⟨text, ⟨?_, ?_, printed, ?_, meet, mnum, row, present⟩, ?_⟩
  · unfold Accepts Request.answer isSuited at accepts
    cases connection : request.dbCall.connection with
    | established => rfl
    | null =>
        simp only [connection] at accepts
        cases accepts
    | raises =>
        simp only [connection] at accepts
        cases accepts
  · intro raised
    unfold Accepts Request.answer isSuited at accepts
    simp only [raised, if_true] at accepts
    split at accepts
    · cases accepts
    · cases accepts
    · cases accepts
  · intro raised
    obtain ⟨printed, member, print⟩ := printed
    obtain ⟨_, meetSeq, _, sequence, _⟩ := row
    unfold Accepts Request.answer isSuited at accepts
    simp only [raised, member, print, sequence, Outcome.bind, if_true] at accepts
    split at accepts
    · cases accepts
    · cases accepts
    · cases accepts
  · unfold granted
    rw [← flags, ← role]

theorem known_granted (known : KnownRole text) (incoming other : Privileges) :
    granted text incoming = granted text other := by
  unfold granted
  rcases known with one | two | ⟨zero, -⟩
  · rw [one]
    rfl
  · rw [two]
    rfl
  · rw [zero]
    rfl

theorem known_chief (known : KnownRole text)
    (chief : (granted text incoming).checkChief = true) : Numeral text 0 := by
  unfold granted at chief
  rcases known with one | two | ⟨-, numeral⟩
  · rw [one] at chief
    cases chief
  · rw [two] at chief
    cases chief
  · exact numeral

theorem zero_chief (zero : roleNumber text = 0) (incoming : Privileges) :
    (granted text incoming).checkChief = true := by
  unfold granted
  rw [zero]
  rfl

theorem unknown_chief (unknown : ¬(roleNumber text = 0 ∨ roleNumber text = 1 ∨ roleNumber text = 2))
    (incoming : Privileges) : (granted text incoming).checkChief = incoming.checkChief := by
  obtain ⟨notZero, others⟩ := not_or.mp unknown
  obtain ⟨notOne, notTwo⟩ := not_or.mp others
  unfold granted grantedBy
  rw [if_neg notZero, if_neg notOne, if_neg notTwo]

theorem presents_request {json : Json} {info : Client} (sets : Sets json request)
    (presents : Presents json info) :
    cStr info.mcode = request.mcode ∧ cStr info.mscode = request.mscode := by
  have mcode := sets.mcode
  have mscode := sets.mscode
  rw [presents.mcode] at mcode
  rw [presents.mscode] at mscode
  exact ⟨Option.some.inj mcode, Option.some.inj mscode⟩

/-- The entry of the sender after a SETTING has what its call of `isSuited` left. -/
theorem setting_entry {server following : Server} {client entry : Client} {json : Json}
    {lib : EncoderSession.Libav} (sameDb : server.db = request.db) (listed : Listed server)
    (sets : Sets json request) (member : client ∈ server.clientList.entries)
    (returned : onSetting server client json request.dbCall lib = .returns following)
    (entryMember : entry ∈ following.clientList.entries) (own : entry.ws = client.ws) :
    Accepts request (privilegesOf client) (privilegesOf entry) := by
  rcases on_setting_outcome sets.identifier returned with ⟨info, cleared, presents, accepts, rfl⟩ |
    closed
  · obtain ⟨mcode, mscode⟩ := presents_request sets presents
    have answered := accepts.suited
    rw [sameDb, mcode, mscode] at answered
    rcases (logged_in_entries listed member accepts).mp entryMember
      with rfl | ⟨before, -, different⟩
    · exact answered
    · have sameEntry := List.inj_on_of_nodup_map listed.distinct before member own
      exact absurd (congrArg Client.mcode sameEntry) different
  · exact absurd own ((closed_entries listed closed).mp entryMember).2

end Calls

section Decided

variable {request : Request}

theorem known_setting (known : ∀ text, Reads request text → KnownRole text) :
    SettingKeepsNothing request := by
  intro server following ws json lib entry sameDb listed sets returned entryMember own
  unfold onMsgPtr at returned
  split at returned
  · cases returned
  · rename_i client found
    obtain ⟨member, rfl⟩ := find_ws_some found
    simp only [sets.identifier] at returned
    have accepts := setting_entry sameDb listed sets member returned entryMember own
    obtain ⟨text, reads, left⟩ := accepts_reads accepts
    rw [left, known_granted (known text reads) (privilegesOf client) noPrivileges]
    exact reads_accepts reads noPrivileges

/-- The stored role alone decides what an accepted call grants if and only if it is
read as 1 or 2, or is read as 0 and denotes it. -/
theorem role_decides_iff (request : Request) :
    RoleDecides request ↔ ∀ text, Reads request text → KnownRole text := by
  constructor
  · intro decides text reads
    by_cases known : roleNumber text = 0 ∨ roleNumber text = 1 ∨ roleNumber text = 2
    · rcases known with zero | one | two
      · have accepts := reads_accepts reads noPrivileges
        have numeral := decides.chief text _ _ reads.stored accepts (zero_chief zero noPrivileges)
        exact .inr (.inr ⟨zero, numeral⟩)
      · exact .inl one
      · exact .inr (.inl two)
    · -- a chief and a connection without privileges are left what they have
      have chief := reads_accepts reads ⟨true, true, 0⟩
      have none := reads_accepts reads noPrivileges
      have same := decides.same text request _ _ _ _ reads.stored reads.stored chief none
      have flags := congrArg Privileges.checkChief same
      rw [unknown_chief known, unknown_chief known] at flags
      cases flags
  · intro known
    refine ⟨?_, ?_, known_setting known⟩
    · intro text other incoming otherIncoming outgoing otherOutgoing stored otherStored accepts
        otherAccepts
      obtain ⟨read, reads, left⟩ := accepts_reads accepts
      obtain ⟨otherRead, otherReads, otherLeft⟩ := accepts_reads otherAccepts
      rw [left, otherLeft, stored_text_unique reads.stored stored,
        stored_text_unique otherReads.stored otherStored]
      apply known_granted
      rw [← stored_text_unique reads.stored stored]
      exact known read reads
    · intro text incoming outgoing stored accepts chief
      obtain ⟨read, reads, left⟩ := accepts_reads accepts
      rw [left] at chief
      rw [← stored_text_unique reads.stored stored]
      exact known_chief (known read reads) chief

end Decided

section Sample

/-- `a` is a chief by the text `0`, and what is stored for `b` is the text given. -/
def storedDatabase (text : String) : Database where
  members _ mcode :=
    if mcode = ascii "a" then some 1 else if mcode = ascii "b" then some 2 else none
  selected _ text mnum := (atoi text, mnum)
  matched _ text mnum meet member _ := meet = atoi text ∧ member = mnum
  role _ mnum :=
    if mnum = 1 then some (some (ascii "0"))
    else if mnum = 2 then some (some (ascii text))
    else none

def storedRequest (text : String) : Request where
  db := storedDatabase text
  dbCall := .succeeds
  mcode := ascii "b"
  mscode := ascii "MWZyb20="

theorem stored_request_text (text : String) : StoredText (storedRequest text) (ascii text) := by
  have sequence : meetSeqOf (ascii "MWZyb20=") = .done (ascii "1") := by decide
  exact ⟨atoi (ascii "1"), 2, ⟨2, ascii "1", rfl, sequence, rfl⟩, rfl⟩

theorem three_denotes_three : ¬Numeral (ascii "3") 0 := by
  intro numeral
  have same : ascii "3" = [51] := by decide
  rw [same] at numeral
  generalize zero : (0 : Int) = value at numeral
  cases numeral with
  | digits nonempty all => exact absurd zero (by decide)

theorem letters_denote_nothing : ¬Numeral (ascii "abc") 0 := by
  intro numeral
  have same : ascii "abc" = [97, 98, 99] := by decide
  rw [same] at numeral
  generalize (0 : Int) = value at numeral
  cases numeral with
  | digits nonempty all => exact absurd (all 97 (by simp)) (by decide)

/-- A chief that logs in as `b` stays chief where the role stored is 3, which gives
nothing to a connection without privileges. Letters make anybody chief. -/
theorem three_keeps_chief :
    Accepts (storedRequest "3") ⟨true, true, 0⟩ ⟨true, true, 3⟩ ∧
      Accepts (storedRequest "3") noPrivileges ⟨false, false, 3⟩ ∧
      ¬RoleDecides (storedRequest "3") ∧
      Accepts (storedRequest "abc") noPrivileges ⟨true, true, 0⟩ ∧
      ¬RoleDecides (storedRequest "abc") := by
  have kept : Accepts (storedRequest "3") ⟨true, true, 0⟩ ⟨true, true, 3⟩ := by
    unfold Accepts
    decide
  have given : Accepts (storedRequest "3") noPrivileges ⟨false, false, 3⟩ := by
    unfold Accepts
    decide
  have letters : Accepts (storedRequest "abc") noPrivileges ⟨true, true, 0⟩ := by
    unfold Accepts
    decide
  refine ⟨kept, given, ?_, letters, ?_⟩
  · intro decides
    exact three_denotes_three (decides.chief _ _ _ (stored_request_text "3") kept rfl)
  · intro decides
    exact letters_denote_nothing (decides.chief _ _ _ (stored_request_text "abc") letters rfl)

end Sample

end Collabo.StoredRoles
