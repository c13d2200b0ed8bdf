import Keystroke.Device.Registry
import Keystroke.Proofs.Resolving
import Keystroke.Proofs.Rosters

namespace Keystroke

/-!
# The keys that devices know

A roster of a list has the keys of the list and no item of its own.  So a
standard vocabulary has a symbol for every key with a keyword and for nothing
else, in both families, and the devices that are always known can type all of
these keys.
-/

/-- Every key with a keyword is among all keys. -/
theorem Key.mem_all
    (key : Key) :
    key ∈ Key.all := by
  cases key with
  | function index =>
      simp [Key.all]
  | modifier held =>
      cases held <;> simp [Key.all, Modifier.all]
  | _ =>
      simp [Key.all]

namespace Vocabulary

/-- A standard vocabulary has items for the keys with a keyword only. -/
theorem isSome_find?_standard
    {family : Family}
    {kind : Kind} :
    ((standard family).find? kind).isSome ↔ ∃ key, kind = .key key := by
  rw [Roster.isSome_find?, standard, Roster.mem_keys_ofList, List.map_map,
    List.mem_map]
  constructor
  · rintro ⟨key, _, isKind⟩
    exact ⟨key, isKind.symm⟩
  · rintro ⟨key, isKind⟩
    exact ⟨key, key.mem_all, isKind.symm⟩

/-- A standard vocabulary has the standard symbol of every key. -/
theorem symbol?_standard
    (family : Family)
    (key : Key) :
    (standard family).symbol? (.key key) =
      some (standardSymbol family key) := by
  have known : ((standard family).find? (.key key)).isSome :=
    isSome_find?_standard.mpr ⟨key, rfl⟩
  obtain ⟨item, found⟩ := Option.isSome_iff_exists.mp known
  have isListed := Roster.mem_of_mem_ofList (List.mem_of_find?_eq_some found)
  obtain ⟨other, _, rfl⟩ := List.mem_map.mp isListed
  have sameKey := List.find?_some found
  simp only [decide_eq_true_eq, Kind.key.injEq] at sameKey
  rw [symbol?, found, sameKey]
  rfl

end Vocabulary

namespace Device

/-- A standard device knows the keys with a keyword and nothing else. -/
theorem knows_standard
    {id name : String}
    {family : Family}
    {kind : Kind} :
    (standard id name family).Knows kind ↔ ∃ key, kind = .key key := by
  rw [Knows, Vocabulary.symbol?, Option.isSome_map]
  exact Vocabulary.isSome_find?_standard

end Device

namespace Registry

/-- The devices that are always known are standard ones. -/
theorem exists_standard_of_mem_builtin
    {device : Device}
    (member : device ∈ builtin.items) :
    ∃ id name family, device = Device.standard id name family := by
  have listed := Roster.mem_of_mem_ofList member
  simp only [List.mem_cons, List.not_mem_nil, or_false] at listed
  rcases listed with shape | shape | shape | shape | shape <;>
    exact ⟨_, _, _, shape⟩

/-- The devices that are always known can type every key with a keyword. -/
theorem knows_of_mem_builtin
    {device : Device}
    (member : device ∈ builtin.items)
    (key : Key) :
    device.Knows (.key key) := by
  obtain ⟨id, name, family, rfl⟩ := exists_standard_of_mem_builtin member
  exact Device.knows_standard.mpr ⟨key, rfl⟩

end Registry

end Keystroke
