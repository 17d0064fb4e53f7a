import Collabo.MemberMessages
import Mathlib.Algebra.Order.Group.Nat

/-!
# The list of members

CONNECTEDMEMBERINFO has no count: a receiver reads records until the message
ends. The size has a header for every entry of the table, but the records are
those of the logged-in entries, and the rest of the memory is sent as it was.
-/

namespace Collabo.MemberList

open ByteBuffer FieldCodecs UniqueTable PartialRuns Collabo.CInt Collabo.CString
  Collabo.ClientTable Collabo.MediaStream Collabo.CollaboServer Collabo.ServerSteps
  Collabo.MemberMessages

set_option autoImplicit false

def record (member : Member) : ByteString := (memberPieces member).flatten

def decodeMembers : ByteString → Option (List Member)
  | [] => none
  | identifier :: rest =>
      if identifier = MsgIdentifier.connectedMemberInfoProcess.byte then memberCodec.all rest
      else none

/-- The message is its identifier and the records, nothing is sent that was not
written, and a receiver reads the members back. -/
structure Lists (heap : Nat → UInt8) (members : List Member) (buffer : Buffer) : Prop where
  bytes : buffer.message heap =
    MsgIdentifier.connectedMemberInfoProcess.byte :: (members.map record).flatten
  written : buffer.sent = bytesWritten buffer.writes
  parsed : decodeMembers (buffer.message heap) = some members

/-- The messages of SETTING list the logged-in entries, each as ACCESSMEMBER does. -/
structure MembersListed (heap : Nat → UInt8) (clientList : ClientList) : Prop where
  list : ∃ buffer, connectedMemberInfoProcess clientList = some buffer ∧
    Lists heap (connectedMembers clientList) buffer
  alerts : ∀ client ∈ clientList.entries, client.role ≠ -1 →
    ∃ alert, accessMemberProcess client = some alert ∧
      alert.message heap =
        MsgIdentifier.accessMemberProcess.byte :: record (memberOf client)

def loggedIn (entries : List Client) : List Client :=
  entries.filter fun client => client.role ≠ -1

def recordLength (client : Client) : Nat :=
  14 + (client.mcode.length + client.custom.length + client.name.length)

def loggedSum (length : Client → Nat) (entries : List Client) : Nat :=
  ((loggedIn entries).map length).sum

def textLengths (text : Client → ByteString) : List Client → Nat :=
  loggedSum fun client => (text client).length

section Lengths

theorem logged_in_cons (client : Client) (rest : List Client) :
    loggedIn (client :: rest) =
      if client.role ≠ -1 then client :: loggedIn rest else loggedIn rest := by
  unfold loggedIn
  rw [List.filter_cons]
  simp only [decide_eq_true_eq]

theorem logged_sum_cons (length : Client → Nat) (client : Client) (rest : List Client) :
    loggedSum length (client :: rest) =
      if client.role ≠ -1 then length client + loggedSum length rest
      else loggedSum length rest := by
  unfold loggedSum
  rw [logged_in_cons]
  by_cases present : client.role ≠ -1
  · rw [if_pos present, if_pos present, List.map_cons, List.sum_cons]
  · rw [if_neg present, if_neg present]

theorem record_length (client : Client) :
    (record (memberOf client)).length = recordLength client := by
  simp [record, memberPieces, memberOf, recordLength, int_bytes_length]
  omega

theorem records_length (clients : List Client) :
    ((clients.map memberOf).map record).flatten.length = (clients.map recordLength).sum := by
  rw [List.length_flatten, List.map_map, List.map_map]
  congr 1
  apply List.map_congr_left
  intro client _
  exact record_length client

theorem flat_map_pieces (clients : List Client) :
    (clients.flatMap fun client => memberPieces (memberOf client)).flatten =
      ((clients.map memberOf).map record).flatten := by
  rw [List.flatMap_def, List.flatten_flatten, List.map_map, List.map_map]
  rfl

theorem record_lengths_eq (entries : List Client) :
    loggedSum recordLength entries = 14 * (loggedIn entries).length +
      (textLengths Client.mcode entries + textLengths Client.custom entries +
        textLengths Client.name entries) := by
  unfold textLengths loggedSum
  induction loggedIn entries with
  | nil => rfl
  | cons client rest induction =>
      simp only [List.map_cons, List.sum_cons, List.length_cons, induction, recordLength]
      omega

end Lengths

section Sums

variable {text : Client → ByteString}

theorem add_size_fold (entries : List Client) {total : Int} (wrapped : wrapInt total = total) :
    entries.foldl (addSize text) total = wrapInt (total + textLengths text entries) := by
  induction entries generalizing total with
  | nil =>
      have empty : textLengths text [] = 0 := rfl
      rw [List.foldl_nil, empty, Nat.cast_zero, Int.add_zero, wrapped]
  | cons client rest induction =>
      rw [List.foldl_cons, addSize, textLengths, logged_sum_cons]
      by_cases present : client.role ≠ -1
      · rw [if_pos present, if_pos present, induction (wrap_int_wrap _), wrap_int_add,
          Nat.cast_add, ← Int.add_assoc]
        rfl
      · rw [if_neg present, if_neg present]
        exact induction wrapped

theorem add_sizes_fold (entries : List Client) (sizes : Sizes) :
    entries.foldl addSizes sizes =
      { mcodeSizes := entries.foldl (addSize Client.mcode) sizes.mcodeSizes
        customSizes := entries.foldl (addSize Client.custom) sizes.customSizes
        nameSizes := entries.foldl (addSize Client.name) sizes.nameSizes } := by
  induction entries generalizing sizes with
  | nil => rfl
  | cons client rest induction => exact induction (addSizes sizes client)

end Sums

section Copies

theorem member_writes_laid_out (place : Nat) {client : Client}
    (short : recordLength client < 2 ^ 31) :
    memberWrites place client = some (laidOut place (memberPieces (memberOf client))) := by
  unfold recordLength at short
  unfold memberWrites
  simp only [Option.bind_eq_bind]
  rw [int_size_eq (by omega), int_size_eq (by omega), int_size_eq (by omega), copied_whole,
    Option.bind_some, copied_whole, Option.bind_some, copied_whole, Option.bind_some]
  simp [laidOut, memberPieces, memberOf, int_bytes_length]
  omega

theorem copy_members_laid_out (entries : List Client) (place : Nat)
    (short : place + loggedSum recordLength entries < 2 ^ 31) :
    copyMembers place entries =
      some (laidOut place
        ((loggedIn entries).flatMap fun client => memberPieces (memberOf client))) := by
  induction entries generalizing place with
  | nil => rfl
  | cons client rest induction =>
      rw [logged_sum_cons] at short
      rw [copyMembers, logged_in_cons]
      by_cases present : client.role ≠ -1
      · rw [if_pos present] at short
        have lengths : recordLength client =
            14 + (client.mcode.length + client.custom.length + client.name.length) := rfl
        have own : intSum 14 [(client.mcode.length : Int), (client.custom.length : Int),
            (client.name.length : Int)] = some (14 + [(client.mcode.length : Int),
              (client.custom.length : Int), (client.name.length : Int)].sum) :=
          int_sum_some (by omega) (by simp) (by simp; omega)
        have following : intSum place [14 + [(client.mcode.length : Int),
            (client.custom.length : Int), (client.name.length : Int)].sum] =
              some ((place + recordLength client : Nat) : Int) := by
          rw [intSum, if_pos (by constructor <;> simp <;> omega), intSum]
          simp [lengths]
          omega
        rw [if_pos present, if_pos present, member_writes_laid_out place (by omega)]
        simp only [Option.bind_eq_bind]
        rw [Option.bind_some, int_size_eq (by omega), int_size_eq (by omega),
          int_size_eq (by omega), own, Option.bind_some, following, Option.bind_some,
          induction (place + recordLength client) (by omega), Option.bind_some, List.flatMap_cons,
          laid_out_append]
        have whole := record_length client
        unfold record at whole
        rw [whole]
      · rw [if_neg present] at short
        rw [if_neg present, if_neg present]
        exact induction place short

theorem copied_length {text piece : ByteString} {count : Int}
    (done : copied text count = some piece) : (piece.length : Int) = count := by
  unfold copied at done
  split_ifs at done with inside
  rw [← Option.some.inj done, List.length_take, List.length_append, List.length_singleton]
  omega

theorem bytes_written_append (first second : List (Write UInt8)) :
    bytesWritten (first ++ second) = bytesWritten first + bytesWritten second := by
  unfold bytesWritten
  rw [List.map_append, List.sum_append]

theorem member_writes_length {place : Int} {client : Client} {writes : List (Write UInt8)}
    (done : memberWrites place client = some writes) :
    (bytesWritten writes : Int) =
      14 + [intSize client.mcode, intSize client.custom, intSize client.name].sum := by
  unfold memberWrites at done
  simp only [Option.bind_eq_bind, Option.bind_eq_some_iff] at done
  rcases done with ⟨mcode, mcodeDone, custom, customDone, name, nameDone, same⟩
  rw [← Option.some.inj same, ← copied_length mcodeDone, ← copied_length customDone,
    ← copied_length nameDone]
  simp [bytesWritten, int_bytes_length]
  omega

theorem copy_members_fit {entries : List Client} {place : Int} {writes : List (Write UInt8)}
    (fits : FitsInt place) (done : copyMembers place entries = some writes) :
    FitsInt (place + bytesWritten writes) := by
  induction entries generalizing place writes with
  | nil =>
      rw [← Option.some.inj done]
      simpa [bytesWritten] using fits
  | cons client rest induction =>
      rw [copyMembers] at done
      by_cases present : client.role ≠ -1
      · rw [if_pos present] at done
        simp only [Option.bind_eq_bind, Option.bind_eq_some_iff] at done
        rcases done with ⟨own, ownDone, length, lengthSum, following, followingSum, later,
          laterDone, same⟩
        have placed := induction (int_sum_fits fits followingSum) laterDone
        have moved := int_sum_eq followingSum
        rw [List.sum_singleton, int_sum_eq lengthSum, ← member_writes_length ownDone] at moved
        rw [← Option.some.inj same, bytes_written_append, Nat.cast_add, ← Int.add_assoc, ← moved]
        exact placed
      · rw [if_neg present] at done
        exact induction fits done

end Copies

section Tables

variable {clientList : ClientList}

theorem connected_members_eq (clientList : ClientList) :
    connectedMembers clientList = (loggedIn (mcodeOrder clientList)).map memberOf := rfl

theorem mcode_order_perm (clientList : ClientList) :
    (mcodeOrder clientList).Perm clientList.entries :=
  List.perm_insertionSort _ clientList.entries

theorem sizes_eq {entries : List Client} (short : 1 + loggedSum recordLength entries < 2 ^ 31) :
    entries.foldl addSizes { mcodeSizes := 0, customSizes := 0, nameSizes := 0 } =
      { mcodeSizes := textLengths Client.mcode entries
        customSizes := textLengths Client.custom entries
        nameSizes := textLengths Client.name entries } := by
  have lengths := record_lengths_eq entries
  have zero : wrapInt 0 = 0 := rfl
  rw [add_sizes_fold, add_size_fold entries zero, add_size_fold entries zero,
    add_size_fold entries zero, Int.zero_add, Int.zero_add, Int.zero_add,
    wrap_int_fits (by omega) (by omega), wrap_int_fits (by omega) (by omega),
    wrap_int_fits (by omega) (by omega)]

theorem strings_sum {entries : List Client} (short : 1 + loggedSum recordLength entries < 2 ^ 31) :
    intSum 1 [(textLengths Client.mcode entries : Int), (textLengths Client.custom entries : Int),
        (textLengths Client.name entries : Int)] =
      some (1 + [(textLengths Client.mcode entries : Int),
        (textLengths Client.custom entries : Int),
        (textLengths Client.name entries : Int)].sum) := by
  have lengths := record_lengths_eq entries
  exact int_sum_some (by omega) (by simp) (by simp; omega)

theorem connected_built {buffer : Buffer}
    (built : connectedMemberInfoProcess clientList = some buffer) :
    ∃ strings writes,
      (let sizes := (mcodeOrder clientList).foldl addSizes
        { mcodeSizes := 0, customSizes := 0, nameSizes := 0 }
      intSum 1 [sizes.mcodeSizes, sizes.customSizes, sizes.nameSizes] = some strings) ∧
      copyMembers 1 (mcodeOrder clientList) = some writes ∧
      (buffer.sent : Int) = strings + 14 * clientList.size ∧
      buffer.writes =
        { place := 0, items := [MsgIdentifier.connectedMemberInfoProcess.byte] } :: writes := by
  unfold connectedMemberInfoProcess at built
  simp only [Option.bind_eq_bind, Option.bind_eq_some_iff] at built
  rcases built with ⟨size, sized, writes, copies, sent, summed, allocation⟩
  rw [sized] at summed
  rw [← Option.some.inj summed] at allocation
  unfold allocated at allocation
  split_ifs at allocation with inside
  refine ⟨size, writes, sized, copies, ?_, ?_⟩
  · rw [← Option.some.inj allocation]
    exact Int.toNat_of_nonneg inside.1
  · rw [← Option.some.inj allocation]

theorem message_length (buffer : Buffer) (heap : Nat → UInt8) :
    (buffer.message heap).length = buffer.sent := by
  unfold Buffer.message readOut
  rw [List.length_map, List.length_range]

/-- A message that lists the members has a header for each entry and no more. -/
theorem listed_all_logged_in {heap : Nat → UInt8} {buffer : Buffer}
    (built : connectedMemberInfoProcess clientList = some buffer)
    (lists : Lists heap (connectedMembers clientList) buffer) :
    1 + loggedSum recordLength (mcodeOrder clientList) < 2 ^ 31 ∧
      (loggedIn (mcodeOrder clientList)).length = clientList.size := by
  rcases connected_built built with ⟨strings, writes, summed, copies, sent, written⟩
  have length := message_length buffer heap
  rw [lists.bytes, List.length_cons, connected_members_eq, records_length] at length
  have fits := copy_members_fit (by decide) copies
  have total := lists.written
  rw [written] at total
  unfold bytesWritten at total fits
  rw [List.map_cons, List.sum_cons, List.length_singleton] at total
  have sums : loggedSum recordLength (mcodeOrder clientList) =
      ((loggedIn (mcodeOrder clientList)).map recordLength).sum := rfl
  have short : 1 + loggedSum recordLength (mcodeOrder clientList) < 2 ^ 31 := by
    have upper := fits.2
    omega
  refine ⟨short, ?_⟩
  have lengths := record_lengths_eq (mcodeOrder clientList)
  dsimp only at summed
  rw [sizes_eq short, strings_sum short] at summed
  have strings_eq := Option.some.inj summed
  simp only [List.sum_cons, List.sum_nil] at strings_eq
  omega

theorem logged_in_order_iff :
    (loggedIn (mcodeOrder clientList)).length = clientList.size ↔
      ∀ client ∈ clientList.entries, client.role ≠ -1 := by
  have order := mcode_order_perm clientList
  unfold loggedIn Table.size
  rw [← order.length_eq, List.length_filter_eq_length_iff]
  constructor
  · intro present client member
    exact of_decide_eq_true (present client (order.mem_iff.mpr member))
  · intro present client member
    exact decide_eq_true (present client (order.mem_iff.mp member))

theorem logged_sum_order (present : ∀ client ∈ clientList.entries, client.role ≠ -1) :
    loggedSum recordLength (mcodeOrder clientList) =
      (clientList.entries.map recordLength).sum := by
  have order := mcode_order_perm clientList
  have all : loggedIn (mcodeOrder clientList) = mcodeOrder clientList := by
    apply List.filter_eq_self.mpr
    intro client member
    exact decide_eq_true (present client (order.mem_iff.mp member))
  unfold loggedSum
  rw [all]
  exact (order.map recordLength).sum_eq

end Tables

section Listing

variable {clientList : ClientList} {heap : Nat → UInt8}

theorem record_length_le {client : Client} (member : client ∈ clientList.entries)
    (present : client.role ≠ -1) :
    recordLength client ≤ loggedSum recordLength (mcodeOrder clientList) := by
  apply List.le_sum_of_mem
  apply List.mem_map_of_mem
  exact List.mem_filter.mpr
    ⟨(mcode_order_perm clientList).mem_iff.mpr member, decide_eq_true present⟩

theorem alert_carries {client : Client} (short : 1 + recordLength client < 2 ^ 31) :
    ∃ alert, accessMemberProcess client = some alert ∧
      alert.message heap =
        MsgIdentifier.accessMemberProcess.byte :: record (memberOf client) := by
  unfold recordLength at short
  refine ⟨_, access_member_process_filled (by omega), ?_⟩
  rw [filled_message]
  rfl

theorem records_parsed
    (short : 1 + loggedSum recordLength (mcodeOrder clientList) < 2 ^ 31) :
    memberCodec.all ((connectedMembers clientList).map record).flatten =
      some (connectedMembers clientList) := by
  have records : (connectedMembers clientList).map record =
      (connectedMembers clientList).map memberCodec.encode :=
    List.map_congr_left fun member _ => (member_encode member).symm
  rw [records]
  apply all_encode
  · intro member listed
    rw [connected_members_eq] at listed
    rcases List.mem_map.mp listed with ⟨client, clientListed, rfl⟩
    have own : recordLength client ≤ loggedSum recordLength (mcodeOrder clientList) :=
      List.le_sum_of_mem (List.mem_map_of_mem clientListed)
    have lengths : recordLength client =
        14 + (client.mcode.length + client.custom.length + client.name.length) := rfl
    exact member_valid (by omega)
  · intro member _
    rw [member_encode]
    exact List.cons_ne_nil _ _

theorem connected_filled
    (short : 1 + loggedSum recordLength (mcodeOrder clientList) < 2 ^ 31)
    (all : (loggedIn (mcodeOrder clientList)).length = clientList.size) :
    connectedMemberInfoProcess clientList = some (filled
      ([MsgIdentifier.connectedMemberInfoProcess.byte] ::
        (loggedIn (mcodeOrder clientList)).flatMap fun client =>
          memberPieces (memberOf client))) := by
  have copies := copy_members_laid_out (mcodeOrder clientList) 1 short
  have lengths := record_lengths_eq (mcodeOrder clientList)
  have sum : 1 + [(textLengths Client.mcode (mcodeOrder clientList) : Int),
      (textLengths Client.custom (mcodeOrder clientList) : Int),
      (textLengths Client.name (mcodeOrder clientList) : Int)].sum + 14 * clientList.size =
        (1 + loggedSum recordLength (mcodeOrder clientList) : Nat) := by
    simp only [List.sum_cons, List.sum_nil]
    omega
  unfold connectedMemberInfoProcess
  simp only [Option.bind_eq_bind]
  rw [sizes_eq short]
  dsimp only
  rw [strings_sum short, Option.bind_some, ← Nat.cast_one, copies, Option.bind_some,
    Option.bind_some, Nat.cast_one, sum]
  apply allocated_filled
  · rfl
  · rw [List.flatten_cons, List.length_append, List.length_singleton, flat_map_pieces,
      records_length]
    rfl
  · omega

theorem members_listed
    (short : 1 + loggedSum recordLength (mcodeOrder clientList) < 2 ^ 31)
    (all : (loggedIn (mcodeOrder clientList)).length = clientList.size) :
    MembersListed heap clientList where
  list := by
    refine ⟨_, connected_filled short all, ?_⟩
    have bytes : (filled ([MsgIdentifier.connectedMemberInfoProcess.byte] ::
        (loggedIn (mcodeOrder clientList)).flatMap fun client =>
          memberPieces (memberOf client))).message heap =
        MsgIdentifier.connectedMemberInfoProcess.byte ::
          ((connectedMembers clientList).map record).flatten := by
      rw [filled_message, List.flatten_cons, flat_map_pieces]
      rfl
    constructor
    · exact bytes
    · exact (laid_out_length 0 _).symm
    · rw [bytes, decodeMembers, if_pos rfl]
      exact records_parsed short
  alerts client member present := by
    have own := record_length_le member present
    exact alert_carries (by omega)

end Listing

/-- SETTING lists the logged-in entries exactly where the table has no other ones
and the message is shorter than 2^31. -/
theorem members_listed_iff (heap : Nat → UInt8) (clientList : ClientList) :
    MembersListed heap clientList ↔
      (∀ client ∈ clientList.entries, client.role ≠ -1) ∧
        1 + (clientList.entries.map recordLength).sum < 2 ^ 31 := by
  constructor
  · intro listed
    rcases listed.list with ⟨buffer, built, lists⟩
    rcases listed_all_logged_in built lists with ⟨short, all⟩
    have present := logged_in_order_iff.mp all
    rw [logged_sum_order present] at short
    exact ⟨present, short⟩
  · rintro ⟨present, short⟩
    rw [← logged_sum_order present] at short
    exact members_listed short (logged_in_order_iff.mpr present)

def secondLogin : List ServerEvent :=
  [opensEvent 1, settingEvent 1 "a", opensEvent 2, settingEvent 1 "b"]

def secondLoginEntry : Client where
  ws := 1
  chief := false
  authority := true
  role := 1
  mcode := ascii "b"
  mscode := ascii "MWZyb20="
  custom := []
  name := []

def secondLoginBuffer : Buffer where
  size := 30
  writes :=
    [{ place := 0, items := [7] }, { place := 1, items := [1] }, { place := 2, items := [0] },
      { place := 3, items := [1, 0, 0, 0] }, { place := 7, items := [0, 0, 0, 0] },
      { place := 11, items := [0, 0, 0, 0] }, { place := 15, items := ascii "b" },
      { place := 16, items := [] }, { place := 16, items := [] }]
  sent := 30

/-- The message has 14 bytes more than were written, which a receiver takes for a
second member where the memory was zero. -/
theorem second_login_lists_nobody :
    connectedMemberInfoProcess (after step sampleServer secondLogin).clientList =
        some secondLoginBuffer ∧
      bytesWritten secondLoginBuffer.writes = 16 ∧
      (decodeMembers (secondLoginBuffer.message fun _ => 0)).map (List.map Member.mcode) =
        some [ascii "b", []] ∧
      (connectedMembers (after step sampleServer secondLogin).clientList).map Member.mcode =
        [ascii "b"] ∧
      ¬MembersListed (fun _ => 0) (after step sampleServer secondLogin).clientList := by
  have listed : (connectedMembers (after step sampleServer secondLogin).clientList).map
      Member.mcode = [ascii "b"] := rfl
  have order : mcodeOrder (after step sampleServer secondLogin).clientList =
      [connected 2, secondLoginEntry] := rfl
  have size : (after step sampleServer secondLogin).clientList.size = 2 := rfl
  have built : connectedMemberInfoProcess (after step sampleServer secondLogin).clientList =
      some secondLoginBuffer := by
    unfold connectedMemberInfoProcess
    rw [order, size]
    decide +kernel
  have parsed : (decodeMembers (secondLoginBuffer.message fun _ => 0)).map (List.map Member.mcode) =
      some [ascii "b", []] := by
    decide
  refine ⟨built, rfl, parsed, listed, ?_⟩
  intro all
  rcases all.list with ⟨buffer, sameBuilt, lists⟩
  rw [built] at sameBuilt
  rw [Option.some.inj sameBuilt, lists.parsed, Option.map_some, listed] at parsed
  exact absurd parsed (by decide)

end Collabo.MemberList
