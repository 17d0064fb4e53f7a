import Mathlib.Data.List.Nodup
import Mathlib.Logic.Function.Basic
import Mathlib.Tactic.Common

/-!
# Replicas of keyed items

A replica knows at most one item for each key. It learns from updates: a list of
all items, one item, or a change of the item under a key. It shows the items of
someone else's table where it knows each of them as it is there, and mirrors them
where it knows no others. An update tells it of some items if it takes a replica
that shows, or knows only, the items before to one of those.
-/

namespace KeyedReplica

set_option autoImplicit false

inductive Update (Item Key : Type*) where
  | lists (items : List Item)
  | puts (item : Item)
  | changes (wanted : Key) (change : Item → Item)

section Definitions

variable {Item Key : Type*} [DecidableEq Key] (key : Item → Key)

def learn (replica : Key → Option Item) : Update Item Key → Key → Option Item
  | .lists items => fun wanted => items.find? fun item => key item = wanted
  | .puts item => Function.update replica (key item) (some item)
  | .changes wanted change => Function.update replica wanted ((replica wanted).map change)

/-- What is known after some updates, before which nothing was. -/
def replay (updates : List (Update Item Key)) : Key → Option Item :=
  updates.foldl (learn key) fun _ => none

/-- `present` are the items of the table that the replica is compared with. -/
def Shows (replica : Key → Option Item) (present : Item → Prop) : Prop :=
  ∀ item, present item → replica (key item) = some item

def KnowsOnly (replica : Key → Option Item) (present : Item → Prop) : Prop :=
  ∀ wanted item, replica wanted = some item → present item ∧ key item = wanted

structure Mirrors (replica : Key → Option Item) (present : Item → Prop) : Prop where
  shows : Shows key replica present
  only : KnowsOnly key replica present

def Changed (present : Item → Prop) (wanted : Key) (change : Item → Item) (item : Item) : Prop :=
  (∃ held, present held ∧ key held = wanted ∧ item = change held) ∨
    present item ∧ key item ≠ wanted

/-- The items after one has been put in the place of that with its key. -/
def Put (present : Item → Prop) (new item : Item) : Prop :=
  item = new ∨ present item ∧ key item ≠ key new

structure Tells (before after : Key → Option Item) (present expected : Item → Prop) : Prop where
  shows : Shows key before present → Shows key after expected
  only : KnowsOnly key before present → KnowsOnly key after expected

/-- A replica was told of the items that are there later, and of nothing that was
not there before either, up to what is known of an item. -/
structure Follows (present later expected : Item → Prop) : Prop where
  told : ∀ item, later item → expected item
  kept : ∀ item, present item → ∃ other, expected other ∧ key other = key item
  origin : ∀ item, expected item → later item ∨ ∃ other, present other ∧ key other = key item

end Definitions

variable {Item Key : Type*} {key : Item → Key} {replica : Key → Option Item}
  {present : Item → Prop}

theorem shows_fewer {fewer : Item → Prop} (shown : Shows key replica present)
    (kept : ∀ item, fewer item → present item) : Shows key replica fewer := by
  intro item isPresent
  exact shown item (kept item isPresent)

theorem knows_only_more {more : Item → Prop} (only : KnowsOnly key replica present)
    (kept : ∀ item, present item → more item) : KnowsOnly key replica more := by
  intro wanted item known
  obtain ⟨isPresent, same⟩ := only wanted item known
  exact ⟨kept item isPresent, same⟩

theorem mirrors_of_tells {after : Key → Option Item} {expected : Item → Prop}
    (tells : Tells key replica after present expected) (mirrors : Mirrors key replica present) :
    Mirrors key after expected :=
  ⟨tells.shows mirrors.shows, tells.only mirrors.only⟩

theorem tells_nothing : Tells key replica replica present present := ⟨id, id⟩

theorem tells_then {between after : Key → Option Item} {expected final : Item → Prop}
    (first : Tells key replica between present expected)
    (second : Tells key between after expected final) : Tells key replica after present final :=
  ⟨second.shows ∘ first.shows, second.only ∘ first.only⟩

theorem tells_same {after : Key → Option Item} {expected other : Item → Prop}
    (tells : Tells key replica after present expected) (same : ∀ item, other item ↔ expected item) :
    Tells key replica after present other where
  shows shown := shows_fewer (tells.shows shown) fun item => (same item).mp
  only known := knows_only_more (tells.only known) fun item => (same item).mpr

/-- A replica that mirrors what it was told of mirrors what is there just when no
key is gone. -/
theorem knows_only_iff {later expected : Item → Prop} (mirrors : Mirrors key replica expected)
    (follows : Follows key present later expected) :
    KnowsOnly key replica later ↔
      ∀ item, present item → ∃ other, later other ∧ key other = key item := by
  constructor
  · intro only item isPresent
    obtain ⟨other, isExpected, same⟩ := follows.kept item isPresent
    have known := mirrors.shows other isExpected
    exact ⟨other, (only (key other) other known).1, same⟩
  · intro stays wanted item known
    obtain ⟨isExpected, sameKey⟩ := mirrors.only wanted item known
    rcases follows.origin item isExpected with isLater | ⟨other, isPresent, same⟩
    · exact ⟨isLater, sameKey⟩
    · obtain ⟨kept, isLater, keptKey⟩ := stays other isPresent
      have shown := mirrors.shows kept (follows.told kept isLater)
      rw [keptKey, same, sameKey, known] at shown
      rw [Option.some.inj shown]
      rw [Option.some.inj shown] at sameKey
      exact ⟨isLater, sameKey⟩

variable [DecidableEq Key]

theorem replay_append (updates more : List (Update Item Key)) :
    replay key (updates ++ more) = more.foldl (learn key) (replay key updates) :=
  List.foldl_append

theorem lists_shows {items : List Item} (unique : (items.map key).Nodup) :
    Shows key (learn key replica (.lists items)) fun item => item ∈ items := by
  intro item member
  simp only [learn]
  cases found : items.find? fun other => key other = key item with
  | none =>
      have refused := List.find?_eq_none.mp found item member
      exact absurd (decide_eq_true rfl) refused
  | some other =>
      have otherKey := List.find?_some found
      have otherMember := List.mem_of_find?_eq_some found
      have sameKey : key other = key item := by simpa using otherKey
      rw [List.inj_on_of_nodup_map unique otherMember member sameKey]

theorem lists_only (items : List Item) :
    KnowsOnly key (learn key replica (.lists items)) fun item => item ∈ items := by
  intro wanted item known
  have same := List.find?_some known
  exact ⟨List.mem_of_find?_eq_some known, by simpa using same⟩

theorem puts_shows (shown : Shows key replica present) (new : Item) :
    Shows key (learn key replica (.puts new)) (Put key present new) := by
  intro item isPresent
  simp only [learn]
  rcases isPresent with isNew | ⟨isHeld, different⟩
  · rw [isNew, Function.update_self]
  · rw [Function.update_of_ne different]
    exact shown item isHeld

theorem puts_only (only : KnowsOnly key replica present) (new : Item) :
    KnowsOnly key (learn key replica (.puts new)) (Put key present new) := by
  intro wanted item known
  simp only [learn] at known
  by_cases same : wanted = key new
  · rw [same, Function.update_self] at known
    rw [← Option.some.inj known, same]
    exact ⟨.inl rfl, rfl⟩
  · rw [Function.update_of_ne same] at known
    obtain ⟨isHeld, itemKey⟩ := only wanted item known
    refine ⟨.inr ⟨isHeld, ?_⟩, itemKey⟩
    rw [itemKey]
    exact same

theorem changes_shows (shown : Shows key replica present) (wanted : Key) {change : Item → Item}
    (keepsKey : ∀ item, key (change item) = key item) :
    Shows key (learn key replica (.changes wanted change))
      (Changed key present wanted change) := by
  intro item isPresent
  simp only [learn]
  rcases isPresent with ⟨held, isHeld, same, changed⟩ | ⟨isHeld, different⟩
  · rw [changed, keepsKey held, same, Function.update_self, ← same, shown held isHeld]
    rfl
  · rw [Function.update_of_ne different]
    exact shown item isHeld

theorem changes_only (only : KnowsOnly key replica present) (wanted : Key)
    {change : Item → Item} (keepsKey : ∀ item, key (change item) = key item) :
    KnowsOnly key (learn key replica (.changes wanted change))
      (Changed key present wanted change) := by
  intro other item known
  simp only [learn] at known
  by_cases same : other = wanted
  · rw [same, Function.update_self, Option.map_eq_some_iff] at known
    obtain ⟨held, heldKnown, changed⟩ := known
    obtain ⟨isHeld, heldKey⟩ := only wanted held heldKnown
    refine ⟨.inl ⟨held, isHeld, heldKey, changed.symm⟩, ?_⟩
    rw [← changed, keepsKey held, heldKey, same]
  · rw [Function.update_of_ne same] at known
    obtain ⟨isHeld, itemKey⟩ := only other item known
    refine ⟨.inr ⟨isHeld, ?_⟩, itemKey⟩
    rw [itemKey]
    exact same

theorem tells_puts (new : Item) :
    Tells key replica (learn key replica (.puts new)) present (Put key present new) :=
  ⟨fun shown => puts_shows shown new, fun only => puts_only only new⟩

theorem tells_changes (wanted : Key) {change : Item → Item}
    (keepsKey : ∀ item, key (change item) = key item) :
    Tells key replica (learn key replica (.changes wanted change)) present
      (Changed key present wanted change) :=
  ⟨fun shown => changes_shows shown wanted keepsKey,
    fun only => changes_only only wanted keepsKey⟩

end KeyedReplica
