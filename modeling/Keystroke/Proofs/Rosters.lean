import Keystroke.Roster
import Mathlib.Data.List.Nodup

namespace Keystroke.Roster

/-!
# What a roster holds

A roster is known by two views: its keys in their order, and the item that is
found under each key.  Entering an item changes both in a simple way, so after
any number of items have been entered, the keys stand in the order in which they
first appeared, and under each key stands the item that was entered last.
-/

variable
  {Item Key : Type}
  [DecidableEq Key]
  {keyOf : Item → Key}

/-! ## Keys and items -/

/-- An entered item is found by its key, and all others are found as before. -/
theorem find?_enter
    (roster : Roster keyOf)
    (item : Item)
    (key : Key) :
    (roster.enter item).find? key =
      if keyOf item = key then some item else roster.find? key := by
  rcases roster with ⟨items, distinct⟩
  simp only [enter, find?]
  clear distinct
  induction items with
  | nil =>
      by_cases same : keyOf item = key <;> simp [enterItem, same]
  | cons first rest inductionHypothesis =>
      by_cases replaced : keyOf first = keyOf item
      · by_cases same : keyOf item = key <;> simp [enterItem, replaced, same]
      · by_cases same : keyOf first = key
        · have other : keyOf item ≠ key := by
            intro equal
            exact replaced (same.trans equal.symm)
          rw [enterItem, if_neg replaced]
          simp [same, other]
        · rw [enterItem, if_neg replaced]
          simp [same, inductionHypothesis]

/-- An item is found by the keys of the items. -/
theorem isSome_find?
    {roster : Roster keyOf}
    {key : Key} :
    (roster.find? key).isSome ↔ key ∈ roster.items.map keyOf := by
  simp [find?, List.find?_isSome, List.mem_map]

/-- If no two items have the same key, an item is found by its key. -/
theorem find?_eq_some_of_nodup
    {items : List Item}
    (distinct : (items.map keyOf).Nodup)
    {key : Key}
    {item : Item} :
    items.find? (fun other => keyOf other = key) = some item ↔
      item ∈ items ∧ keyOf item = key := by
  constructor
  · intro found
    have isKey := List.find?_some found
    exact ⟨List.mem_of_find?_eq_some found, of_decide_eq_true isKey⟩
  · rintro ⟨member, isKey⟩
    have isFound :
        (items.find? fun other => decide (keyOf other = key)).isSome := by
      rw [List.find?_isSome]
      exact ⟨item, member, decide_eq_true isKey⟩
    obtain ⟨other, found⟩ := Option.isSome_iff_exists.mp isFound
    have otherKey := List.find?_some found
    have sameKey : keyOf other = keyOf item :=
      (of_decide_eq_true otherKey).trans isKey.symm
    rw [found, List.inj_on_of_nodup_map distinct
      (List.mem_of_find?_eq_some found) member sameKey]

/-- The items are those that are found under the keys. -/
theorem items_eq_filterMap
    (roster : Roster keyOf) :
    roster.items = (roster.items.map keyOf).filterMap roster.find? := by
  have isFound :
      ∀ item ∈ roster.items, roster.find? (keyOf item) = some item :=
    fun item member =>
      (find?_eq_some_of_nodup roster.distinct).mpr ⟨member, rfl⟩
  rw [List.filterMap_map]
  calc
    roster.items = roster.items.filterMap some :=
      List.filterMap_some.symm
    _ = roster.items.filterMap (roster.find? ∘ keyOf) :=
      List.filterMap_congr fun item member => (isFound item member).symm

/-! ## Histories -/

/-- The item that was entered last under a key. -/
def latestUnder?
    (keyOf : Item → Key)
    (history : List Item)
    (key : Key) :
    Option Item :=
  history.reverse.find? fun item => keyOf item = key

/-- One more item is the latest under its key. -/
theorem latestUnder?_append_singleton
    (history : List Item)
    (item : Item)
    (key : Key) :
    latestUnder? keyOf (history ++ [item]) key =
      if keyOf item = key then
        some item
      else
        latestUnder? keyOf history key := by
  by_cases isKey : keyOf item = key <;> simp [latestUnder?, isKey]

/-- The latest item under a key is one that was entered. -/
theorem mem_of_latestUnder?
    {history : List Item}
    {key : Key}
    {item : Item}
    (isLatest : latestUnder? keyOf history key = some item) :
    item ∈ history :=
  List.mem_reverse.mp (List.mem_of_find?_eq_some isLatest)

/-- Nothing is found under a key that was never entered. -/
theorem latestUnder?_eq_none
    {history : List Item}
    {key : Key} :
    latestUnder? keyOf history key = none ↔ key ∉ history.map keyOf := by
  simp [latestUnder?, List.find?_eq_none, List.mem_map]

/-- Keys that appear once are in the order of their first appearance. -/
theorem eraseDups_of_nodup
    {keys : List Key}
    (distinct : keys.Nodup) :
    keys.eraseDups = keys := by
  induction keys with
  | nil =>
      rfl
  | cons key rest inductionHypothesis =>
      obtain ⟨fresh, restDistinct⟩ := List.nodup_cons.mp distinct
      have others :
          rest.filter (fun other => !other == key) = rest := by
        rw [List.filter_eq_self]
        intro other member
        have different : other ≠ key := by
          intro same
          exact fresh (same ▸ member)
        simpa using different
      rw [List.eraseDups_cons, others, inductionHypothesis restDistinct]

/-- One more key appears first at the end, unless it has appeared before. -/
theorem eraseDups_append_singleton
    (keys : List Key)
    (key : Key) :
    (keys ++ [key]).eraseDups =
      if key ∈ keys then keys.eraseDups else keys.eraseDups ++ [key] := by
  rw [List.eraseDups_append]
  split
  · rename_i present
    simp [List.removeAll, present]
  · rename_i absent
    simp [List.removeAll, absent, List.eraseDups_cons]

/--
A roster that holds what was entered: its keys are in the order of their first
appearance, and under each key stands the item that was entered last.
-/
structure Holds
    (history : List Item)
    (roster : Roster keyOf) :
    Prop where
  keys_eq :
    roster.items.map keyOf = (history.map keyOf).eraseDups
  find?_eq :
    ∀ key, roster.find? key = latestUnder? keyOf history key

/-- A roster holds its own items. -/
theorem holds_items
    (roster : Roster keyOf) :
    Holds roster.items roster where
  keys_eq :=
    (eraseDups_of_nodup roster.distinct).symm
  find?_eq := by
    intro key
    -- With distinct keys it does not matter from which end one searches.
    have reversedDistinct : (roster.items.reverse.map keyOf).Nodup := by
      rw [List.map_reverse, List.nodup_reverse]
      exact roster.distinct
    apply Option.ext
    intro item
    rw [latestUnder?, find?_eq_some_of_nodup reversedDistinct,
      List.mem_reverse]
    exact find?_eq_some_of_nodup roster.distinct

/-- A roster still holds what was entered after one more item. -/
theorem Holds.enter
    {history : List Item}
    {roster : Roster keyOf}
    (holds : Holds history roster)
    (item : Item) :
    Holds (history ++ [item]) (roster.enter item) where
  keys_eq := by
    rw [Roster.enter, map_enterItem, List.map_append, List.map_singleton,
      eraseDups_append_singleton]
    simp only [holds.keys_eq, List.mem_eraseDups]
  find?_eq := by
    intro key
    rw [find?_enter, latestUnder?_append_singleton, holds.find?_eq]

/-- A roster holds what was entered, however many items there were. -/
theorem Holds.enterAll
    {history : List Item}
    {roster : Roster keyOf}
    (holds : Holds history roster)
    (items : List Item) :
    Holds (history ++ items) (roster.enterAll items) := by
  induction items generalizing history roster with
  | nil =>
      rw [List.append_nil]
      exact holds
  | cons item rest inductionHypothesis =>
      have continued := inductionHypothesis (holds.enter item)
      rwa [List.append_assoc, List.singleton_append] at continued

/-- The items of a roster are the latest ones, by the order of their keys. -/
theorem Holds.items_eq
    {history : List Item}
    {roster : Roster keyOf}
    (holds : Holds history roster) :
    roster.items =
      (history.map keyOf).eraseDups.filterMap
        (latestUnder? keyOf history) := by
  have sameItems : roster.find? = latestUnder? keyOf history :=
    funext holds.find?_eq
  rw [← holds.keys_eq, ← sameItems]
  exact roster.items_eq_filterMap

/-- A roster of a list holds the items of the list. -/
theorem holds_ofList
    (items : List Item) :
    Holds items (ofList items : Roster keyOf) :=
  (holds_items empty).enterAll items

/-- The keys of a roster of a list are those of the list. -/
theorem mem_keys_ofList
    {items : List Item}
    {key : Key} :
    key ∈ (ofList items : Roster keyOf).items.map keyOf ↔
      key ∈ items.map keyOf := by
  rw [(holds_ofList items).keys_eq, List.mem_eraseDups]

/-- The items of a roster of a list are among those of the list. -/
theorem mem_of_mem_ofList
    {items : List Item}
    {item : Item}
    (member : item ∈ (ofList items : Roster keyOf).items) :
    item ∈ items := by
  rw [(holds_ofList items).items_eq] at member
  obtain ⟨key, _, isLatest⟩ := List.mem_filterMap.mp member
  exact mem_of_latestUnder? isLatest

end Keystroke.Roster
