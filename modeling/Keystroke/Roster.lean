namespace Keystroke

/-!
# Insertion-ordered collections with distinct keys

A roster holds items in the order in which their keys first appeared.  Entering
an item whose key is already present replaces the item in its place; otherwise
the item goes to the end.  The key of an item is computed from the item, so the
same structure serves for lists of pairs and for records that carry their own
identifier.
-/

/-- Items in insertion order, no two of which have the same key. -/
structure Roster
    {Item : Type}
    {Key : Type}
    (keyOf : Item → Key) where
  items : List Item
  distinct : (items.map keyOf).Nodup
  deriving Repr, DecidableEq

namespace Roster

variable
  {Item Key : Type}
  [DecidableEq Key]
  {keyOf : Item → Key}

/-- Replace the item with the same key, or append the item if there is none. -/
def enterItem
    (keyOf : Item → Key)
    (item : Item) :
    List Item → List Item
  | [] =>
      [item]
  | first :: rest =>
      if keyOf first = keyOf item then
        item :: rest
      else
        first :: enterItem keyOf item rest

/-- Entering an item adds its key at the end unless the key is present. -/
theorem map_enterItem
    (item : Item)
    (items : List Item) :
    (enterItem keyOf item items).map keyOf =
      if keyOf item ∈ items.map keyOf then
        items.map keyOf
      else
        items.map keyOf ++ [keyOf item] := by
  induction items with
  | nil =>
      simp [enterItem]
  | cons first rest inductionHypothesis =>
      by_cases same : keyOf first = keyOf item
      · simp [enterItem, same]
      · have different : ¬ keyOf item = keyOf first :=
          fun equal => same equal.symm
        simp only [enterItem, same, ↓reduceIte, List.map_cons,
          inductionHypothesis, List.mem_cons, different, false_or]
        split <;> simp

/-- Entering an item keeps the keys distinct. -/
theorem nodup_enterItem
    (item : Item)
    {items : List Item}
    (distinct : (items.map keyOf).Nodup) :
    ((enterItem keyOf item items).map keyOf).Nodup := by
  rw [map_enterItem]
  split
  · exact distinct
  · rename_i absent
    rw [List.nodup_append]
    refine ⟨distinct, by simp, ?_⟩
    intro key member other otherMember equal
    simp only [List.mem_singleton] at otherMember
    subst otherMember
    subst equal
    exact absent member

/-- The roster without items. -/
def empty :
    Roster keyOf where
  items := []
  distinct := by simp

/-- Enter an item, replacing the item that has its key. -/
def enter
    (roster : Roster keyOf)
    (item : Item) :
    Roster keyOf where
  items := enterItem keyOf item roster.items
  distinct := nodup_enterItem item roster.distinct

/-- Enter the items one after the other. -/
def enterAll
    (roster : Roster keyOf)
    (items : List Item) :
    Roster keyOf :=
  items.foldl enter roster

/-- The roster of a list in which a later item wins over an earlier one. -/
def ofList
    (items : List Item) :
    Roster keyOf :=
  empty.enterAll items

/-- The item with a given key. -/
def find?
    (roster : Roster keyOf)
    (key : Key) :
    Option Item :=
  roster.items.find? fun item => keyOf item = key

/-- Whether some item has the given key. -/
def contains
    (roster : Roster keyOf)
    (key : Key) :
    Bool :=
  (roster.find? key).isSome

/-- The number of items. -/
def size
    (roster : Roster keyOf) :
    Nat :=
  roster.items.length

/-- Whether there are no items. -/
def isEmpty
    (roster : Roster keyOf) :
    Bool :=
  roster.items.isEmpty

/-- Whether two rosters hold the same items, in whatever order. -/
def sameItems
    [DecidableEq Item]
    (roster other : Roster keyOf) :
    Bool :=
  roster.size == other.size &&
    roster.items.all fun item => other.find? (keyOf item) == some item

end Roster

end Keystroke
