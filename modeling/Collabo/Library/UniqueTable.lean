import Mathlib.Data.List.Nodup
import Mathlib.Data.List.Perm.Basic
import Mathlib.Tactic.Common

/-!
# Tables with a unique key

A table is a list of items no two of which share a key. An insertion whose key
is taken is rejected. A modification that gives an item the key of another one
erases it. An item may carry a further label that the table does not
enforce; the last section follows one through the operations.
-/

namespace UniqueTable

set_option autoImplicit false

structure Table (Item Key : Type*) (key : Item → Key) where
  entries : List Item
  unique : (entries.map key).Nodup

variable {Item Key : Type*} {key : Item → Key} [DecidableEq Key]

def Table.empty : Table Item Key key := ⟨[], List.nodup_nil⟩

def Table.size (table : Table Item Key key) : Nat := table.entries.length

def Table.find (table : Table Item Key key) (wanted : Key) : Option Item :=
  table.entries.find? fun item => key item = wanted

def Table.insert (table : Table Item Key key) (item : Item) : Table Item Key key :=
  if taken : key item ∈ table.entries.map key then table
  else
    { entries := table.entries ++ [item]
      unique := by
        rw [List.map_append, List.nodup_append]
        refine ⟨table.unique, by simp, ?_⟩
        intro held member added addedMember same
        rw [List.map_singleton, List.mem_singleton] at addedMember
        exact taken (addedMember ▸ same ▸ member) }

def Table.erase (table : Table Item Key key) (gone : Key) : Table Item Key key where
  entries := table.entries.filter fun item => key item ≠ gone
  unique := table.unique.sublist (List.filter_sublist.map key)

/-- The key list after the item under `old` has been given the key `new`. -/
private theorem rekeyed_nodup {keys : List Key} (unique : keys.Nodup) {old new : Key}
    (free : new = old ∨ new ∉ keys) :
    (keys.map fun held => if held = old then new else held).Nodup := by
  apply unique.map_on
  intro left leftMember right rightMember same
  by_cases leftOld : left = old <;> by_cases rightOld : right = old
  · exact leftOld.trans rightOld.symm
  · rw [if_pos leftOld, if_neg rightOld] at same
    rcases free with kept | absent
    · exact absurd (same.symm.trans kept) rightOld
    · exact absurd (same ▸ rightMember) absent
  · rw [if_neg leftOld, if_pos rightOld] at same
    rcases free with kept | absent
    · exact absurd (same.trans kept) leftOld
    · exact absurd (same ▸ leftMember) absent
  · rwa [if_neg leftOld, if_neg rightOld] at same

def Table.replace (table : Table Item Key key) (old : Key) (item : Item)
    (free : key item = old ∨ key item ∉ table.entries.map key) : Table Item Key key where
  entries := table.entries.map fun held => if key held = old then item else held
  unique := by
    have keys : (table.entries.map fun held => if key held = old then item else held).map key =
        (table.entries.map key).map fun held => if held = old then key item else held := by
      rw [List.map_map, List.map_map]
      apply List.map_congr_left
      intro held member
      simp only [Function.comp_apply]
      split_ifs <;> rfl
    rw [keys]
    exact rekeyed_nodup table.unique free

/-- Apply `change` to the item under `old`. If its new key is that of another
item, the changed item is erased. -/
def Table.modify (table : Table Item Key key) (old : Key) (change : Item → Item) :
    Table Item Key key :=
  match table.find old with
  | none => table
  | some item =>
      if free : key (change item) = old ∨ key (change item) ∉ table.entries.map key then
        table.replace old (change item) free
      else table.erase old

section Find

theorem find_some {table : Table Item Key key} {wanted : Key} {item : Item}
    (found : table.find wanted = some item) : item ∈ table.entries ∧ key item = wanted := by
  refine ⟨List.mem_of_find?_eq_some found, ?_⟩
  simpa using List.find?_some found

theorem find_none {table : Table Item Key key} {wanted : Key}
    (missing : table.find wanted = none) : wanted ∉ table.entries.map key := by
  intro member
  rcases List.mem_map.mp member with ⟨item, itemMember, same⟩
  have refused := List.find?_eq_none.mp missing item itemMember
  simp [same] at refused

omit [DecidableEq Key] in
theorem item_eq_of_key {table : Table Item Key key} {left right : Item}
    (leftMember : left ∈ table.entries) (rightMember : right ∈ table.entries)
    (same : key left = key right) : left = right :=
  List.inj_on_of_nodup_map table.unique leftMember rightMember same

theorem find_of_mem {table : Table Item Key key} {item : Item} (member : item ∈ table.entries) :
    table.find (key item) = some item := by
  cases found : table.find (key item) with
  | none => exact absurd (List.mem_map_of_mem member) (find_none found)
  | some other =>
      rcases find_some found with ⟨otherMember, same⟩
      exact congrArg some (item_eq_of_key otherMember member same)

end Find

section Membership

theorem insert_fresh_entries {table : Table Item Key key} {item : Item}
    (fresh : key item ∉ table.entries.map key) :
    (table.insert item).entries = table.entries ++ [item] := by
  rw [Table.insert, dif_neg fresh]

theorem insert_taken {table : Table Item Key key} {item : Item}
    (taken : key item ∈ table.entries.map key) : table.insert item = table := by
  rw [Table.insert, dif_pos taken]

theorem mem_erase {table : Table Item Key key} {gone : Key} {item : Item} :
    item ∈ (table.erase gone).entries ↔ item ∈ table.entries ∧ key item ≠ gone := by
  simp [Table.erase]

theorem mem_replace {table : Table Item Key key} {old : Key} {changed item : Item}
    {free : key changed = old ∨ key changed ∉ table.entries.map key}
    (present : old ∈ table.entries.map key) :
    item ∈ (table.replace old changed free).entries ↔
      item = changed ∨ item ∈ table.entries ∧ key item ≠ old := by
  simp only [Table.replace, List.mem_map]
  constructor
  · rintro ⟨held, member, rfl⟩
    by_cases same : key held = old
    · exact .inl (if_pos same)
    · rw [if_neg same]
      exact .inr ⟨member, same⟩
  · rintro (rfl | ⟨member, different⟩)
    · rcases List.mem_map.mp present with ⟨held, member, same⟩
      exact ⟨held, member, if_pos same⟩
    · exact ⟨item, member, if_neg different⟩

/-- A modification that collides with no other item changes exactly its item. -/
theorem modify_free {table : Table Item Key key} {item : Item} {change : Item → Item}
    (member : item ∈ table.entries)
    (free : key (change item) = key item ∨ key (change item) ∉ table.entries.map key) :
    table.modify (key item) change = table.replace (key item) (change item) free := by
  simp only [Table.modify, find_of_mem member, dif_pos free]

theorem mem_modify_free {table : Table Item Key key} {item other : Item} {change : Item → Item}
    (member : item ∈ table.entries)
    (free : key (change item) = key item ∨ key (change item) ∉ table.entries.map key) :
    other ∈ (table.modify (key item) change).entries ↔
      other = change item ∨ other ∈ table.entries ∧ key other ≠ key item := by
  rw [modify_free member free]
  exact mem_replace (List.mem_map_of_mem member)

theorem modify_entries {table : Table Item Key key} (change : Item → Item)
    (keepsKey : ∀ item, key (change item) = key item) (old : Key) :
    (table.modify old change).entries =
      table.entries.map fun item => if key item = old then change item else item := by
  cases found : table.find old with
  | none =>
      have missing := find_none found
      have result : table.modify old change = table := by simp only [Table.modify, found]
      rw [result]
      have kept : ∀ item ∈ table.entries,
          (if key item = old then change item else item) = id item := by
        intro item member
        apply if_neg
        intro same
        exact missing (same ▸ List.mem_map_of_mem member)
      rw [List.map_congr_left kept, List.map_id]
  | some item =>
      rcases find_some found with ⟨member, same⟩
      rw [← same, modify_free member (.inl (keepsKey item))]
      apply List.map_congr_left
      intro held heldMember
      by_cases sameKey : key held = key item
      · rw [if_pos sameKey, if_pos sameKey, item_eq_of_key heldMember member sameKey]
      · rw [if_neg sameKey, if_neg sameKey]

theorem mem_modify {table : Table Item Key key} (change : Item → Item)
    (keepsKey : ∀ item, key (change item) = key item) {old : Key} {item : Item} :
    item ∈ (table.modify old change).entries ↔
      (∃ held ∈ table.entries, key held = old ∧ item = change held) ∨
        item ∈ table.entries ∧ key item ≠ old := by
  rw [modify_entries change keepsKey, List.mem_map]
  constructor
  · rintro ⟨held, member, rfl⟩
    by_cases same : key held = old
    · rw [if_pos same]
      exact .inl ⟨held, member, same, rfl⟩
    · rw [if_neg same]
      exact .inr ⟨member, same⟩
  · rintro (⟨held, member, same, rfl⟩ | ⟨member, different⟩)
    · exact ⟨held, member, if_pos same⟩
    · exact ⟨item, member, if_neg different⟩

end Membership

section Labels

variable {Label : Type*} (label : Item → Label)

theorem erase_label_nodup {table : Table Item Key key} (gone : Key)
    (distinct : (table.entries.map label).Nodup) :
    ((table.erase gone).entries.map label).Nodup :=
  distinct.sublist (List.filter_sublist.map label)

/-- A modification that collides with no other item and keeps the label of its
item leaves the list of labels as it was. -/
theorem modify_label {table : Table Item Key key} {item : Item} {change : Item → Item}
    (member : item ∈ table.entries)
    (free : key (change item) = key item ∨ key (change item) ∉ table.entries.map key)
    (kept : label (change item) = label item) :
    (table.modify (key item) change).entries.map label = table.entries.map label := by
  rw [modify_free member free, Table.replace, List.map_map]
  apply List.map_congr_left
  intro held heldMember
  simp only [Function.comp_apply]
  by_cases same : key held = key item
  · rw [if_pos same, kept, item_eq_of_key heldMember member same]
  · rw [if_neg same]

theorem modify_keeps_label {table : Table Item Key key} (change : Item → Item)
    (keepsKey : ∀ item, key (change item) = key item)
    (keepsLabel : ∀ item, label (change item) = label item) (old : Key) :
    (table.modify old change).entries.map label = table.entries.map label := by
  rw [modify_entries change keepsKey, List.map_map]
  apply List.map_congr_left
  intro item _
  simp only [Function.comp_apply]
  by_cases same : key item = old
  · rw [if_pos same]
    exact keepsLabel item
  · rw [if_neg same]

end Labels

section Counts

variable {table : Table Item Key key} {item : Item} {change : Item → Item} (counted : Item → Bool)

/-- A modification that collides with no other item changes one place of the list. -/
theorem modify_split (member : item ∈ table.entries)
    (free : key (change item) = key item ∨ key (change item) ∉ table.entries.map key) :
    ∃ first last, table.entries = first ++ item :: last ∧
      (table.modify (key item) change).entries = first ++ change item :: last := by
  obtain ⟨first, last, split⟩ := List.append_of_mem member
  have unique := table.unique
  rw [split, List.map_append, List.map_cons, List.nodup_append, List.nodup_cons] at unique
  obtain ⟨_, ⟨notLast, _⟩, notFirst⟩ := unique
  have firstKept : ∀ held ∈ first,
      (if key held = key item then change item else held) = id held := by
    intro held heldMember
    apply if_neg
    exact notFirst _ (List.mem_map_of_mem heldMember) _ List.mem_cons_self
  have lastKept : ∀ held ∈ last,
      (if key held = key item then change item else held) = id held := by
    intro held heldMember
    apply if_neg
    intro same
    exact notLast (same ▸ List.mem_map_of_mem heldMember)
  refine ⟨first, last, split, ?_⟩
  rw [modify_free member free]
  change (table.entries.map fun held => if key held = key item then change item else held) = _
  rw [split, List.map_append, List.map_cons, if_pos rfl, List.map_congr_left firstKept,
    List.map_congr_left lastKept, List.map_id, List.map_id]

theorem erase_count_le (gone : Key) :
    (table.erase gone).entries.countP counted ≤ table.entries.countP counted :=
  List.Sublist.countP_le List.filter_sublist

theorem modify_count (member : item ∈ table.entries)
    (free : key (change item) = key item ∨ key (change item) ∉ table.entries.map key) :
    (table.modify (key item) change).entries.countP counted + (if counted item then 1 else 0) =
      table.entries.countP counted + (if counted (change item) then 1 else 0) := by
  obtain ⟨first, last, split, modified⟩ := modify_split member free
  rw [modified, split, List.countP_append, List.countP_append, List.countP_cons,
    List.countP_cons]
  omega

/-- A modification that keeps keys makes one more item count at most. -/
theorem modify_count_le (keepsKey : ∀ item, key (change item) = key item) (old : Key) :
    (table.modify old change).entries.countP counted ≤ table.entries.countP counted + 1 := by
  cases found : table.find old with
  | none =>
      have same : table.modify old change = table := by simp only [Table.modify, found]
      rw [same]
      omega
  | some item =>
      obtain ⟨member, same⟩ := find_some found
      have count := modify_count counted member (.inl (keepsKey item))
      rw [same] at count
      split_ifs at count <;> omega

theorem modify_keeps_count (keepsKey : ∀ item, key (change item) = key item)
    (keepsCount : ∀ item, counted (change item) = counted item) (old : Key) :
    (table.modify old change).entries.countP counted = table.entries.countP counted := by
  cases found : table.find old with
  | none =>
      have same : table.modify old change = table := by simp only [Table.modify, found]
      rw [same]
  | some item =>
      obtain ⟨member, same⟩ := find_some found
      have count := modify_count counted member (.inl (keepsKey item))
      rw [same, keepsCount] at count
      omega

end Counts

end UniqueTable
