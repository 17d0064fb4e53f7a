import Collabo.CInt
import Collabo.Library.ByteBuffer
import Collabo.Library.FieldCodecs
import Collabo.RoleAgreement

/-!
# The messages about members

The buffers of AUTHPROCESS, CHIEFPROCESS, ACCESSMEMBERPROCESS and
CONNECTEDMEMBERINFOPROCESS, written at the offsets of the source. A buffer is
missing where an `int` overflows, the allocation is refused or a copy leaves its
memory. The codecs say how a receiver reads the messages by their length fields.
-/

namespace Collabo.MemberMessages

open ByteBuffer FieldCodecs UniqueTable Collabo.CInt Collabo.CString Collabo.ClientTable
  Collabo.MediaStream Collabo.CollaboServer Collabo.RoleAgreement

set_option autoImplicit false

inductive MsgIdentifier where
  | initVideo
  | decodeVideo
  | initImage
  | decodeImage
  | authProcess
  | chiefProcess
  | accessMemberProcess
  | connectedMemberInfoProcess
  deriving DecidableEq, Repr

def MsgIdentifier.byte : MsgIdentifier → UInt8
  | .initVideo => 0
  | .decodeVideo => 1
  | .initImage => 2
  | .decodeImage => 3
  | .authProcess => 4
  | .chiefProcess => 5
  | .accessMemberProcess => 6
  | .connectedMemberInfoProcess => 7

/-- The size of the allocation, the writes into it and the length that is sent. -/
structure Buffer where
  size : Nat
  writes : List (Write UInt8)
  sent : Nat
  deriving DecidableEq, Repr

/-- The bytes that are sent from memory that held `heap` before. -/
def Buffer.message (buffer : Buffer) (heap : Nat → UInt8) : ByteString :=
  readOut (contents heap buffer.writes) buffer.sent

def bytesWritten (writes : List (Write UInt8)) : Nat :=
  (writes.map fun write => write.items.length).sum

def allocated (size sent : Int) (writes : List (Write UInt8)) : Option Buffer :=
  if 0 ≤ size ∧ size < 2 ^ 63 ∧ 0 ≤ sent ∧ sent ≤ size ∧ Inside size.toNat writes then
    some { size := size.toNat, writes := writes, sent := sent.toNat }
  else none

def intSize (text : ByteString) : Int := wrapInt text.length

/-- A `memcpy` of so many bytes from `c_str()`, behind which there is a zero. -/
def copied (text : ByteString) (count : Int) : Option ByteString :=
  if 0 ≤ count ∧ count ≤ text.length + 1 then some ((text ++ [0]).take count.toNat) else none

def flag (value : Bool) : UInt8 := if value then 1 else 0

/-- `mIt` is the entry after its modification. -/
def authProcess (mIt : Client) : Option Buffer := do
  let mcodeSize := intSize mIt.mcode
  let size ← intSum 6 [mcodeSize]
  let mcode ← copied mIt.mcode mcodeSize
  let sent ← intSum 6 [mcodeSize]
  allocated size sent
    [{ place := 0, items := [MsgIdentifier.authProcess.byte] },
      { place := 1, items := [flag mIt.authority] },
      { place := 2, items := intBytes mcodeSize },
      { place := 6, items := mcode }]

/-- The sizes are those of the entries, the bytes those of the sender's copy and of
the message. -/
def chiefProcess (srcIt dstIt client : Client) (chiefDst : ByteString) : Option Buffer := do
  let srcMcodeSize := intSize srcIt.mcode
  let dstMcodeSize := intSize dstIt.mcode
  let size ← intSum 9 [srcMcodeSize, dstMcodeSize]
  let src ← copied client.mcode srcMcodeSize
  let dst ← copied chiefDst dstMcodeSize
  let sent ← intSum 9 [srcMcodeSize, dstMcodeSize]
  allocated size sent
    [{ place := 0, items := [MsgIdentifier.chiefProcess.byte] },
      { place := 1, items := intBytes srcMcodeSize },
      { place := 5, items := intBytes dstMcodeSize },
      { place := 9, items := src },
      { place := (9 + srcMcodeSize).toNat, items := dst }]

def accessMemberProcess (client : Client) : Option Buffer := do
  let cliMcodeSize := intSize client.mcode
  let cliCustomSize := intSize client.custom
  let cliNameSize := intSize client.name
  let size ← intSum 15 [cliMcodeSize, cliCustomSize, cliNameSize]
  let mcode ← copied client.mcode cliMcodeSize
  let custom ← copied client.custom cliCustomSize
  let name ← copied client.name cliNameSize
  let sent ← intSum 15 [cliMcodeSize, cliCustomSize, cliNameSize]
  allocated size sent
    [{ place := 0, items := [MsgIdentifier.accessMemberProcess.byte] },
      { place := 1, items := [flag client.authority] },
      { place := 2, items := [flag client.chief] },
      { place := 3, items := intBytes cliMcodeSize },
      { place := 7, items := intBytes cliCustomSize },
      { place := 11, items := intBytes cliNameSize },
      { place := 15, items := mcode },
      { place := (15 + cliMcodeSize).toNat, items := custom },
      { place := (15 + cliMcodeSize + cliCustomSize).toNat, items := name }]

def mcodeOrder (clientList : ClientList) : List Client :=
  clientList.entries.insertionSort fun left right => left.mcode ≤ right.mcode

structure Sizes where
  mcodeSizes : Int
  customSizes : Int
  nameSizes : Int

def addSize (text : Client → ByteString) (total : Int) (client : Client) : Int :=
  if client.role ≠ -1 then wrapInt (total + (text client).length) else total

def addSizes (sizes : Sizes) (client : Client) : Sizes where
  mcodeSizes := addSize Client.mcode sizes.mcodeSizes client
  customSizes := addSize Client.custom sizes.customSizes client
  nameSizes := addSize Client.name sizes.nameSizes client

def memberWrites (memcpyedSize : Int) (client : Client) : Option (List (Write UInt8)) := do
  let mcodeSize := intSize client.mcode
  let customSize := intSize client.custom
  let nameSize := intSize client.name
  let mcode ← copied client.mcode mcodeSize
  let custom ← copied client.custom customSize
  let name ← copied client.name nameSize
  some
    [{ place := memcpyedSize.toNat, items := [flag client.authority] },
      { place := (memcpyedSize + 1).toNat, items := [flag client.chief] },
      { place := (memcpyedSize + 2).toNat, items := intBytes mcodeSize },
      { place := (memcpyedSize + 6).toNat, items := intBytes customSize },
      { place := (memcpyedSize + 10).toNat, items := intBytes nameSize },
      { place := (memcpyedSize + 14).toNat, items := mcode },
      { place := (memcpyedSize + 14 + mcodeSize).toNat, items := custom },
      { place := (memcpyedSize + 14 + mcodeSize + customSize).toNat, items := name }]

def copyMembers : Int → List Client → Option (List (Write UInt8))
  | _, [] => some []
  | memcpyedSize, client :: rest =>
      if client.role ≠ -1 then do
        let writes ← memberWrites memcpyedSize client
        let record ← intSum 14 [intSize client.mcode, intSize client.custom, intSize client.name]
        let following ← intSum memcpyedSize [record]
        let later ← copyMembers following rest
        some (writes ++ later)
      else copyMembers memcpyedSize rest

/-- The last product is a `size_t`, and so is the sum with it: a table has fewer
entries than that has values. -/
def connectedMemberInfoProcess (clientList : ClientList) : Option Buffer := do
  let sizes := (mcodeOrder clientList).foldl addSizes
    { mcodeSizes := 0, customSizes := 0, nameSizes := 0 }
  let size ← intSum 1 [sizes.mcodeSizes, sizes.customSizes, sizes.nameSizes]
  let writes ← copyMembers 1 (mcodeOrder clientList)
  let sent ← intSum 1 [sizes.mcodeSizes, sizes.customSizes, sizes.nameSizes]
  allocated (size + 14 * clientList.size) (sent + 14 * clientList.size)
    ({ place := 0, items := [MsgIdentifier.connectedMemberInfoProcess.byte] } :: writes)

section Codecs

def flagCodec : Codec UInt8 Bool where
  encode value := [flag value]
  read
    | [] => none
    | byte :: rest => some (byte ≠ 0, rest)
  valid _ := True
  read_encode := by
    intro value _ rest
    cases value
    · rfl
    · rfl

def intCodec : Codec UInt8 Int := (items 4).built intBytes intOf

def textCodec (size : Int) : Codec UInt8 ByteString := items size.toNat

def authCodec : Codec UInt8 (Bool × ByteString) :=
  (((constant MsgIdentifier.authProcess.byte).pair (flagCodec.pair intCodec)).andThen
    fun header => textCodec header.2.2).built
    (fun fields => (((), fields.1, (fields.2.length : Int)), fields.2))
    (fun parsed => (parsed.1.2.1, parsed.2))

def chiefCodec : Codec UInt8 (ByteString × ByteString) :=
  (((constant MsgIdentifier.chiefProcess.byte).pair (intCodec.pair intCodec)).andThen
    fun header => (textCodec header.2.1).pair (textCodec header.2.2)).built
    (fun fields => (((), (fields.1.length : Int), (fields.2.length : Int)), fields))
    (fun parsed => parsed.2)

/-- The header of 14 bytes and the three strings. -/
def memberCodec : Codec UInt8 Member :=
  ((flagCodec.pair (flagCodec.pair (intCodec.pair (intCodec.pair intCodec)))).andThen
    fun header => (textCodec header.2.2.1).pair
      ((textCodec header.2.2.2.1).pair (textCodec header.2.2.2.2))).built
    (fun member =>
      ((member.authority, member.chief, (member.mcode.length : Int),
          (member.custom.length : Int), (member.name.length : Int)),
        member.mcode, member.custom, member.name))
    (fun parsed =>
      { authority := parsed.1.1
        chief := parsed.1.2.1
        mcode := parsed.2.1
        custom := parsed.2.2.1
        name := parsed.2.2.2 })

def accessCodec : Codec UInt8 Member :=
  ((constant MsgIdentifier.accessMemberProcess.byte).pair memberCodec).built
    (fun member => ((), member)) Prod.snd

end Codecs

inductive Fields where
  | auth (authority : Bool) (mcode : ByteString)
  | chief (src dst : ByteString)
  | access (member : Member)
  deriving DecidableEq, Repr

def decode : ByteString → Option Fields
  | [] => none
  | identifier :: rest =>
      if identifier = MsgIdentifier.authProcess.byte then
        (authCodec.whole (identifier :: rest)).map fun fields => .auth fields.1 fields.2
      else if identifier = MsgIdentifier.chiefProcess.byte then
        (chiefCodec.whole (identifier :: rest)).map fun fields => .chief fields.1 fields.2
      else if identifier = MsgIdentifier.accessMemberProcess.byte then
        (accessCodec.whole (identifier :: rest)).map .access
      else none

/-- The copies that CHIEF works with: both entries are found under the strings
whose bytes are sent. -/
structure ChiefChange where
  client : Client
  chiefDst : ByteString
  srcIt : Client
  dstIt : Client
  srcFound : srcIt.mcode = client.mcode
  dstFound : dstIt.mcode = chiefDst

inductive MemberMessage where
  | auth (mIt : Client)
  | chief (change : ChiefChange)
  | access (client : Client)

def MemberMessage.buffer : MemberMessage → Option Buffer
  | .auth mIt => authProcess mIt
  | .chief change => chiefProcess change.srcIt change.dstIt change.client change.chiefDst
  | .access client => accessMemberProcess client

def MemberMessage.fields : MemberMessage → Fields
  | .auth mIt => .auth mIt.authority mIt.mcode
  | .chief change => .chief change.client.mcode change.chiefDst
  | .access client => .access (memberOf client)

def MemberMessage.strings : MemberMessage → Nat
  | .auth mIt => mIt.mcode.length
  | .chief change => change.client.mcode.length + change.chiefDst.length
  | .access client => client.mcode.length + client.custom.length + client.name.length

def MemberMessage.header : MemberMessage → Nat
  | .auth _ => 6
  | .chief _ => 9
  | .access _ => 15

/-- A receiver gets the fields, every byte of the buffer is written exactly once,
and all of it is sent. -/
structure Carries (buffer : Buffer) (fields : Fields) : Prop where
  decoded : ∀ heap, decode (buffer.message heap) = some fields
  inside : Inside buffer.size buffer.writes
  once : ∀ place < buffer.size, timesWritten buffer.writes place = 1
  whole : buffer.sent = buffer.size

/-- A message of the handlers is built, and a receiver gets its fields from it. -/
def Sent (message : MemberMessage) : Prop :=
  ∃ buffer, message.buffer = some buffer ∧ Carries buffer message.fields

def fieldsOf : StcMsg → Option Fields
  | .initVideo _ => none
  | .decodeVideo _ => none
  | .authProcess authority mcode => some (.auth authority mcode)
  | .chiefProcess src dst => some (.chief src dst)
  | .accessMemberProcess member => some (.access member)
  | .connectedMemberInfoProcess _ _ => none

def filled (pieces : List ByteString) : Buffer where
  size := pieces.flatten.length
  writes := laidOut 0 pieces
  sent := pieces.flatten.length

def memberPieces (member : Member) : List ByteString :=
  [[flag member.authority], [flag member.chief], intBytes member.mcode.length,
    intBytes member.custom.length, intBytes member.name.length, member.mcode, member.custom,
    member.name]

def authPieces (authority : Bool) (mcode : ByteString) : List ByteString :=
  [[MsgIdentifier.authProcess.byte], [flag authority], intBytes mcode.length, mcode]

def chiefPieces (src dst : ByteString) : List ByteString :=
  [[MsgIdentifier.chiefProcess.byte], intBytes src.length, intBytes dst.length, src, dst]

section Pieces

variable {text : ByteString}

theorem int_size_eq (small : text.length < 2 ^ 31) : intSize text = text.length :=
  wrap_int_fits (by omega) (by omega)

theorem copied_whole (text : ByteString) : copied text text.length = some text := by
  unfold copied
  rw [if_pos ⟨by omega, by omega⟩, Int.toNat_natCast, List.take_left]

theorem laid_out_length (place : Nat) (pieces : List ByteString) :
    bytesWritten (laidOut place pieces) = pieces.flatten.length := by
  induction pieces generalizing place with
  | nil => rfl
  | cons piece rest induction =>
      have tail := induction (place + piece.length)
      unfold bytesWritten at tail ⊢
      rw [laidOut, List.map_cons, List.sum_cons, tail, List.flatten_cons, List.length_append]

theorem filled_message (pieces : List ByteString) (heap : Nat → UInt8) :
    (filled pieces).message heap = pieces.flatten := by
  have sent := read_out_laid_out heap pieces 0
  rw [Nat.add_zero] at sent
  exact sent.trans (List.append_nil _)

theorem filled_carries {pieces : List ByteString} {fields : Fields}
    (decoded : decode pieces.flatten = some fields) : Carries (filled pieces) fields where
  decoded heap := by
    rw [filled_message]
    exact decoded
  inside := by
    have inside := @laid_out_inside UInt8 0 pieces
    rw [Nat.zero_add] at inside
    exact inside
  once place inside := by
    apply laid_out_written_once pieces (Nat.zero_le place)
    rw [Nat.zero_add]
    exact inside
  whole := rfl

theorem allocated_filled {pieces : List ByteString} {writes : List (Write UInt8)} {size : Int}
    (laid : writes = laidOut 0 pieces) (same : size = pieces.flatten.length)
    (small : size < 2 ^ 31) : allocated size size writes = some (filled pieces) := by
  have inside := @laid_out_inside UInt8 0 pieces
  rw [Nat.zero_add] at inside
  unfold allocated
  rw [laid, same] at *
  rw [Int.toNat_natCast, if_pos ⟨by omega, by omega, by omega, le_refl _, inside⟩]
  rfl

end Pieces

section Messages

theorem auth_process_filled {mIt : Client} (short : 6 + mIt.mcode.length < 2 ^ 31) :
    authProcess mIt = some (filled (authPieces mIt.authority mIt.mcode)) := by
  have size : intSum 6 [(mIt.mcode.length : Int)] = some (6 + [(mIt.mcode.length : Int)].sum) :=
    int_sum_some (by omega) (by simp) (by simp; omega)
  unfold authProcess
  simp only [Option.bind_eq_bind]
  rw [int_size_eq (by omega), size, Option.bind_some, copied_whole, Option.bind_some,
    Option.bind_some]
  apply allocated_filled
  · simp [authPieces, laidOut, int_bytes_length]
  · simp [authPieces, int_bytes_length]
    omega
  · simp
    omega

theorem chief_process_filled (change : ChiefChange)
    (short : 9 + (change.client.mcode.length + change.chiefDst.length) < 2 ^ 31) :
    chiefProcess change.srcIt change.dstIt change.client change.chiefDst =
      some (filled (chiefPieces change.client.mcode change.chiefDst)) := by
  have size : intSum 9 [(change.client.mcode.length : Int), (change.chiefDst.length : Int)] =
      some (9 + [(change.client.mcode.length : Int), (change.chiefDst.length : Int)].sum) :=
    int_sum_some (by omega) (by simp) (by simp; omega)
  unfold chiefProcess
  simp only [Option.bind_eq_bind]
  rw [change.srcFound, change.dstFound, int_size_eq (by omega), int_size_eq (by omega), size,
    Option.bind_some, copied_whole, Option.bind_some, copied_whole, Option.bind_some,
    Option.bind_some]
  apply allocated_filled
  · simp [chiefPieces, laidOut, int_bytes_length]
    omega
  · simp [chiefPieces, int_bytes_length]
    omega
  · simp
    omega

theorem access_member_process_filled {client : Client}
    (short : 15 + (client.mcode.length + client.custom.length + client.name.length) < 2 ^ 31) :
    accessMemberProcess client = some (filled
      ([MsgIdentifier.accessMemberProcess.byte] :: memberPieces (memberOf client))) := by
  have size : intSum 15 [(client.mcode.length : Int), (client.custom.length : Int),
      (client.name.length : Int)] = some (15 + [(client.mcode.length : Int),
        (client.custom.length : Int), (client.name.length : Int)].sum) :=
    int_sum_some (by omega) (by simp) (by simp; omega)
  unfold accessMemberProcess
  simp only [Option.bind_eq_bind]
  rw [int_size_eq (by omega), int_size_eq (by omega), int_size_eq (by omega), size,
    Option.bind_some, copied_whole, Option.bind_some, copied_whole, Option.bind_some,
    copied_whole, Option.bind_some, Option.bind_some]
  apply allocated_filled
  · simp [laidOut, memberPieces, memberOf, int_bytes_length]
    omega
  · simp [memberPieces, memberOf, int_bytes_length]
    omega
  · simp
    omega

end Messages

section Decoding

theorem int_valid {length : Nat} (small : length < 2 ^ 31) : intCodec.valid (length : Int) :=
  ⟨rfl, int_of_int_bytes ⟨by omega, by omega⟩⟩

theorem text_valid (text : ByteString) : (textCodec text.length).valid text :=
  (Int.toNat_natCast text.length).symm

theorem member_valid {client : Client}
    (short : client.mcode.length + client.custom.length + client.name.length < 2 ^ 31) :
    memberCodec.valid (memberOf client) := by
  have mcode : client.mcode.length < 2 ^ 31 := by omega
  have custom : client.custom.length < 2 ^ 31 := by omega
  have name : client.name.length < 2 ^ 31 := by omega
  exact ⟨⟨⟨trivial, trivial, int_valid mcode, int_valid custom, int_valid name⟩,
    text_valid client.mcode, text_valid client.custom, text_valid client.name⟩, rfl⟩

theorem auth_encode (authority : Bool) (mcode : ByteString) :
    authCodec.encode (authority, mcode) = (authPieces authority mcode).flatten := by
  simp [authCodec, authPieces, flagCodec, intCodec, textCodec]

theorem chief_encode (src dst : ByteString) :
    chiefCodec.encode (src, dst) = (chiefPieces src dst).flatten := by
  simp [chiefCodec, chiefPieces, intCodec, textCodec]

theorem member_encode (member : Member) :
    memberCodec.encode member = (memberPieces member).flatten := by
  simp [memberCodec, memberPieces, flagCodec, intCodec, textCodec]

theorem decode_auth {authority : Bool} {mcode : ByteString} (small : mcode.length < 2 ^ 31) :
    decode (authPieces authority mcode).flatten = some (.auth authority mcode) := by
  have whole : authCodec.whole (authCodec.encode (authority, mcode)) = some (authority, mcode) :=
    whole_encode ⟨⟨⟨trivial, trivial, int_valid small⟩, text_valid mcode⟩, rfl⟩
  have front : (authPieces authority mcode).flatten =
      MsgIdentifier.authProcess.byte :: (authPieces authority mcode).tail.flatten := rfl
  rw [auth_encode, front] at whole
  rw [front, decode, if_pos rfl, whole]
  rfl

theorem decode_chief {src dst : ByteString} (srcSmall : src.length < 2 ^ 31)
    (dstSmall : dst.length < 2 ^ 31) :
    decode (chiefPieces src dst).flatten = some (.chief src dst) := by
  have whole : chiefCodec.whole (chiefCodec.encode (src, dst)) = some (src, dst) :=
    whole_encode ⟨⟨⟨trivial, int_valid srcSmall, int_valid dstSmall⟩, text_valid src,
      text_valid dst⟩, rfl⟩
  have front : (chiefPieces src dst).flatten =
      MsgIdentifier.chiefProcess.byte :: (chiefPieces src dst).tail.flatten := rfl
  rw [chief_encode, front] at whole
  rw [front, decode, if_neg (by decide), if_pos rfl, whole]
  rfl

theorem decode_access {member : Member} (valid : memberCodec.valid member) :
    decode (MsgIdentifier.accessMemberProcess.byte :: (memberPieces member).flatten) =
      some (.access member) := by
  have whole : accessCodec.whole (accessCodec.encode member) = some member :=
    whole_encode ⟨⟨trivial, valid⟩, rfl⟩
  have front : accessCodec.encode member =
      MsgIdentifier.accessMemberProcess.byte :: (memberPieces member).flatten := by
    simp [accessCodec, member_encode]
  rw [front] at whole
  rw [decode, if_neg (by decide), if_neg (by decide), if_pos rfl, whole]
  rfl

end Decoding

section Handlers

variable {server : Server} {client dst : Client}

theorem authority_entry (member : dst ∈ server.clientList.entries) :
    ∃ mIt, (modifyClient server dst.mcode
        (ClientTable.changeAuth (!dst.authority))).clientList.find dst.mcode = some mIt ∧
      fieldsOf (.authProcess (!dst.authority) dst.mcode) =
        some (MemberMessage.auth mIt).fields := by
  have changed : ClientTable.changeAuth (!dst.authority) dst ∈ (modifyClient server dst.mcode
      (ClientTable.changeAuth (!dst.authority))).clientList.entries :=
    (mem_modify (ClientTable.changeAuth (!dst.authority)) (fun _ => rfl)).mpr
      (.inl ⟨dst, member, rfl, rfl⟩)
  have found := find_of_mem changed
  exact ⟨_, found, rfl⟩

theorem chief_entries (srcMember : client ∈ server.clientList.entries)
    (dstMember : dst ∈ server.clientList.entries) :
    ∃ change : ChiefChange, change.client = client ∧ change.chiefDst = dst.mcode ∧
      (handOver server client.mcode dst.mcode).clientList.find client.mcode = some change.srcIt ∧
      (handOver server client.mcode dst.mcode).clientList.find dst.mcode = some change.dstIt ∧
      fieldsOf (.chiefProcess client.mcode dst.mcode) =
        some (MemberMessage.chief change).fields := by
  have found : ∀ held ∈ server.clientList.entries,
      (handOver server client.mcode dst.mcode).clientList.find held.mcode =
        some (handed client.mcode dst.mcode held) := by
    intro held member
    rw [← handed_mcode client.mcode dst.mcode held]
    apply find_of_mem
    rw [hand_over_entries]
    exact List.mem_map_of_mem member
  exact ⟨{ client := client, chiefDst := dst.mcode, srcIt := handed client.mcode dst.mcode client
           dstIt := handed client.mcode dst.mcode dst, srcFound := handed_mcode _ _ _
           dstFound := handed_mcode _ _ _ }, rfl, rfl, found client srcMember,
    found dst dstMember, rfl⟩

end Handlers

/-- Where the header and the strings together are shorter than 2^31, the three
messages are decoded to their fields, written once and sent whole. -/
theorem messages_carry_fields (message : MemberMessage)
    (short : message.header + message.strings < 2 ^ 31) : Sent message := by
  cases message with
  | auth mIt =>
      exact ⟨_, auth_process_filled short,
        filled_carries (decode_auth (Nat.lt_of_add_left_lt short))⟩
  | chief change =>
      have lengths : change.client.mcode.length + change.chiefDst.length < 2 ^ 31 :=
        Nat.lt_of_add_left_lt short
      exact ⟨_, chief_process_filled change short,
        filled_carries (decode_chief (by omega) (by omega))⟩
  | access client =>
      exact ⟨_, access_member_process_filled short,
        filled_carries (decode_access (member_valid (Nat.lt_of_add_left_lt short)))⟩

def zeroInMcode : Client where
  ws := 1
  chief := true
  authority := false
  role := 1
  mcode := [97, 0, 98]
  mscode := ascii "MWZyb20="
  custom := ascii "desk"
  name := []

theorem messages_carry_fields_zero : Sent (.access zeroInMcode) :=
  messages_carry_fields (.access zeroInMcode) (by decide)

def longMcode : Client where
  ws := 1
  chief := false
  authority := true
  role := 1
  mcode := List.replicate (2 ^ 31 - 1) 97
  mscode := []
  custom := []
  name := []

/-- The length with its header is no `int`. -/
theorem long_mcode_not_sent :
    (MemberMessage.auth longMcode).strings < 2 ^ 31 ∧ ¬Sent (.auth longMcode) := by
  have length : longMcode.mcode.length = 2 ^ 31 - 1 := List.length_replicate
  have unbuilt : authProcess longMcode = none := by
    unfold authProcess
    rw [int_size_eq (by omega), length]
    rfl
  constructor
  · have strings : (MemberMessage.auth longMcode).strings = longMcode.mcode.length := rfl
    omega
  · rintro ⟨buffer, built, _⟩
    have missing : (MemberMessage.auth longMcode).buffer = none := unbuilt
    rw [missing] at built
    cases built

end Collabo.MemberMessages
