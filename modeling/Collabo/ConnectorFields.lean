import Collabo.CString

/-!
# The fields of the connector

The constructor copies four C strings into arrays of 255 bytes that nothing has
written before. A string that reaches the limit of its copy is left without a
terminator, and what is read back goes on into the memory behind it.
-/

namespace Collabo.ConnectorFields

open Collabo.CString

set_option autoImplicit false

def MemberArray : Type := { bytes : ByteString // bytes.length = 255 }

structure MySQLContext where
  ip : ByteString
  id : ByteString
  pw : ByteString
  schema : ByteString

structure MySQLConnector where
  serverIp : MemberArray
  serverId : MemberArray
  serverPw : MemberArray
  serverSchema : MemberArray

/-- `strncpy` into a member, with a limit that the array has room for. -/
def MemberArray.strncpy (array : MemberArray) (source : ByteString) (count : Nat)
    (within : count ≤ 255) : MemberArray :=
  ⟨(cStr source ++ List.replicate count 0).take count ++ array.val.drop count, by
    rw [List.length_append, List.length_take, List.length_append, List.length_replicate,
      List.length_drop, array.property]
    omega⟩

theorem strncpy_member (array : MemberArray) (source : ByteString) {count : Nat}
    (within : count ≤ 255) :
    CString.strncpy array.val source count = .done (array.strncpy source count within).val := by
  have room : count ≤ array.val.length := by
    rw [array.property]
    exact within
  rw [CString.strncpy, if_pos room]
  rfl

def construct (memory : MySQLConnector) (ctx : MySQLContext) : MySQLConnector where
  serverIp := memory.serverIp.strncpy ctx.ip 15 (by decide)
  serverId := memory.serverId.strncpy ctx.id 255 (by decide)
  serverPw := memory.serverPw.strncpy ctx.pw 255 (by decide)
  serverSchema := memory.serverSchema.strncpy ctx.schema 255 (by decide)

def MemberArray.readBack (array : MemberArray) : Outcome ByteString := cStringOf array.val

/-- The array is terminated, and holds a string that is no longer than the limit. -/
structure FieldKept (array : MemberArray) (limit : Nat) (given : ByteString) : Prop where
  same : given.length ≤ limit → array.readBack = .done given
  terminated : 0 ∈ array.val

structure FieldsKept (memory : MySQLConnector) (ctx : MySQLContext) : Prop where
  serverIp : FieldKept (construct memory ctx).serverIp 15 (cStr ctx.ip)
  serverId : FieldKept (construct memory ctx).serverId 255 (cStr ctx.id)
  serverPw : FieldKept (construct memory ctx).serverPw 255 (cStr ctx.pw)
  serverSchema : FieldKept (construct memory ctx).serverSchema 255 (cStr ctx.schema)

/-- The string ends before the limit, or the memory behind the copy happens to end it. -/
def FieldFits (memory : MemberArray) (limit : Nat) (given : ByteString) : Prop :=
  given.length < limit ∨ given.length = limit ∧ memory.val[limit]? = some 0 ∨
    limit < given.length ∧ 0 ∈ memory.val.drop limit

structure FieldsFit (memory : MySQLConnector) (ctx : MySQLContext) : Prop where
  serverIp : FieldFits memory.serverIp 15 (cStr ctx.ip)
  serverId : (cStr ctx.id).length < 255
  serverPw : (cStr ctx.pw).length < 255
  serverSchema : (cStr ctx.schema).length < 255

section Copies

variable {memory : MemberArray} {source : ByteString} {limit : Nat} (within : limit ≤ 255)

theorem short_copied (short : (cStr source).length < limit) :
    ∃ rest, (memory.strncpy source limit within).val = cStr source ++ 0 :: rest := by
  obtain ⟨room, exact⟩ := Nat.exists_eq_add_of_lt short
  refine ⟨List.replicate room 0 ++ memory.val.drop limit, ?_⟩
  have filled : (cStr source ++ List.replicate limit 0).take limit =
      cStr source ++ List.replicate (room + 1) 0 := by
    rw [List.take_append, List.take_of_length_le (by omega), List.take_replicate]
    congr 2
    omega
  change (cStr source ++ List.replicate limit 0).take limit ++ memory.val.drop limit = _
  rw [filled, List.append_assoc, List.replicate_succ]
  rfl

theorem long_copied (long : limit ≤ (cStr source).length) :
    (memory.strncpy source limit within).val =
      (cStr source).take limit ++ memory.val.drop limit := by
  change (cStr source ++ List.replicate limit 0).take limit ++ memory.val.drop limit = _
  rw [List.take_append_of_le_length long]

theorem long_terminated_iff (long : limit ≤ (cStr source).length) :
    0 ∈ (memory.strncpy source limit within).val ↔ 0 ∈ memory.val.drop limit := by
  rw [long_copied within long, List.mem_append]
  exact or_iff_right fun member => c_str_visible source (List.mem_of_mem_take member)

theorem read_back_iff {array : MemberArray} {given : ByteString} :
    array.readBack = .done given ↔ 0 ∈ array.val ∧ cStr array.val = given := by
  unfold MemberArray.readBack cStringOf
  split_ifs with terminated
  · rw [Outcome.done.injEq]
    exact (and_iff_right terminated).symm
  · exact iff_of_false nofun fun kept => terminated kept.1

/-- What stands behind a string that fills its copy begins with a zero. -/
theorem full_read_back_iff (full : (cStr source).length = limit) :
    (memory.strncpy source limit within).readBack = .done (cStr source) ↔
      memory.val[limit]? = some 0 := by
  have copied := @long_copied memory source limit within full.ge
  rw [List.take_of_length_le full.le] at copied
  rw [read_back_iff, copied, c_str_append (c_str_visible source), List.append_right_eq_self]
  cases behind : memory.val.drop limit with
  | nil =>
      have outside := List.drop_eq_nil_iff.mp behind
      rw [List.getElem?_eq_none outside, List.append_nil]
      exact iff_of_false (fun kept => c_str_visible source kept.1) nofun
  | cons head rest =>
      have first : memory.val[limit]? = some head := by
        rw [← List.head?_drop, behind]
        rfl
      rw [first, Option.some.injEq]
      by_cases zero : head = 0
      · rw [zero]
        exact iff_of_true ⟨List.mem_append_right _ List.mem_cons_self, rfl⟩ rfl
      · apply iff_of_false _ zero
        intro kept
        have empty := kept.2
        simp [cStr, zero] at empty

theorem field_kept_iff :
    FieldKept (memory.strncpy source limit within) limit (cStr source) ↔
      FieldFits memory limit (cStr source) := by
  rcases Nat.lt_trichotomy (cStr source).length limit with short | full | long
  · obtain ⟨rest, copied⟩ := @short_copied memory source limit within short
    apply iff_of_true _ (.inl short)
    have terminated : 0 ∈ (memory.strncpy source limit within).val := by
      rw [copied]
      exact List.mem_append_right _ List.mem_cons_self
    refine ⟨fun _ => read_back_iff.mpr ⟨terminated, ?_⟩, terminated⟩
    rw [copied, c_str_append (c_str_visible source)]
    exact List.append_nil _
  · constructor
    · intro kept
      exact .inr (.inl ⟨full, (full_read_back_iff within full).mp (kept.same full.le)⟩)
    · intro fits
      have ends : memory.val[limit]? = some 0 := by
        rcases fits with short | ⟨_, ends⟩ | ⟨long, _⟩
        · omega
        · exact ends
        · omega
      have same := (full_read_back_iff within full).mpr ends
      exact ⟨fun _ => same, (read_back_iff.mp same).1⟩
  · constructor
    · intro kept
      exact .inr (.inr ⟨long, (long_terminated_iff within long.le).mp kept.terminated⟩)
    · intro fits
      have ends : 0 ∈ memory.val.drop limit := by
        rcases fits with short | ⟨full, _⟩ | ⟨_, ends⟩
        · omega
        · omega
        · exact ends
      have terminated := (long_terminated_iff within long.le).mpr ends
      exact ⟨fun short => absurd short (by omega), terminated⟩

theorem whole_kept_iff :
    FieldKept (memory.strncpy source 255 (Nat.le_refl 255)) 255 (cStr source) ↔
      (cStr source).length < 255 := by
  have outside : memory.val.length ≤ 255 := memory.property.le
  rw [field_kept_iff]
  unfold FieldFits
  rw [List.getElem?_eq_none outside, List.drop_of_length_le outside]
  simp

end Copies

/-- The fields are what was given, and terminated, just when each string ends
before its limit, except that the memory may happen to end the first one. -/
theorem fields_kept_iff (memory : MySQLConnector) (ctx : MySQLContext) :
    FieldsKept memory ctx ↔ FieldsFit memory ctx := by
  constructor
  · intro kept
    exact
      { serverIp := (field_kept_iff (by decide)).mp kept.serverIp
        serverId := whole_kept_iff.mp kept.serverId
        serverPw := whole_kept_iff.mp kept.serverPw
        serverSchema := whole_kept_iff.mp kept.serverSchema }
  · intro fits
    exact
      { serverIp := (field_kept_iff (by decide)).mpr fits.serverIp
        serverId := whole_kept_iff.mpr fits.serverId
        serverPw := whole_kept_iff.mpr fits.serverPw
        serverSchema := whole_kept_iff.mpr fits.serverSchema }

def startContext : MySQLContext where
  ip := ascii "163.180.117.201"
  id := ascii "ccubedev"
  pw := ascii "ccube123#"
  schema := ascii "ccbdb"

/-- Its address takes all fifteen bytes of its copy, and memory that was used
before does not end it. -/
theorem address_unterminated :
    ¬∀ (memory : MySQLConnector) (ctx : MySQLContext), FieldsKept memory ctx := by
  intro always
  let used : MemberArray := ⟨List.replicate 255 120, List.length_replicate⟩
  have kept := (always ⟨used, used, used, used⟩ startContext).serverIp
  have ends := (long_terminated_iff (by decide) (by decide)).mp kept.terminated
  rw [List.drop_replicate] at ends
  exact absurd (List.mem_replicate.mp ends).2 (by decide)

end Collabo.ConnectorFields
