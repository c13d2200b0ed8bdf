import Keystroke.Device.Registry
import Keystroke.Proofs.Rosters

namespace Keystroke.Registry

/-!
# Registering devices

A registry is a map from identifiers to devices that remembers the order of the
identifiers.  Whatever devices are registered one after the other, with new or
with known identifiers, the list shows every identifier once, in the order of
the first registrations, and each identifier gives the device that was
registered last.
-/

/-- Register devices one after the other. -/
def registerAll
    (registry : Registry)
    (devices : List Device) :
    Registry :=
  devices.foldl register registry

/-- The device that was registered last under an identifier. -/
def lastRegistered?
    (history : List Device)
    (id : String) :
    Option Device :=
  Roster.latestUnder? Device.id history id

/--
A registry that is the map of its history.  The history has the devices in the
order in which they were registered, the oldest first.
-/
structure IsMapOf
    (history : List Device)
    (registry : Registry) :
    Prop where
  ids_distinct :
    (registry.items.map Device.id).Nodup
  ids_eq :
    registry.items.map Device.id = (history.map Device.id).eraseDups
  items_eq :
    registry.items =
      (history.map Device.id).eraseDups.filterMap (lastRegistered? history)
  find?_eq :
    ∀ id, registry.find? id = lastRegistered? history id
  resolve_eq_ok :
    ∀ id device,
      registry.resolve id = .ok device ↔
        lastRegistered? history id = some device
  resolve_eq_error :
    ∀ id failure,
      registry.resolve id = .error failure ↔
        failure = .unknownDevice id ∧ id ∉ history.map Device.id
  find?_register :
    ∀ device id,
      id ≠ device.id →
      (registry.register device).find? id = registry.find? id
  size_register :
    ∀ device,
      (registry.register device).size = registry.size ↔
        device.id ∈ registry.items.map Device.id

/-- Resolving an identifier gives the device that is found. -/
theorem resolve_eq_ok
    {registry : Registry}
    {id : String}
    {device : Device} :
    registry.resolve id = .ok device ↔ registry.find? id = some device := by
  unfold resolve
  split
  · rename_i found isFound
    rw [isFound, Except.ok.injEq, Option.some.injEq]
  · rename_i isMissing
    simp [isMissing]

/-- Resolving an identifier fails if no device is found. -/
theorem resolve_eq_error
    {registry : Registry}
    {id : String}
    {failure : Failure} :
    registry.resolve id = .error failure ↔
      failure = .unknownDevice id ∧ registry.find? id = none := by
  unfold resolve
  split
  · rename_i found isFound
    simp [isFound]
  · rename_i isMissing
    simp [isMissing, eq_comm]

/-- Registering a device adds one to the list unless its identifier is known. -/
theorem size_register
    (registry : Registry)
    (device : Device) :
    (registry.register device).size =
      if device.id ∈ registry.items.map Device.id then
        registry.size
      else
        registry.size + 1 := by
  have sameSize :
      (registry.register device).size =
        ((registry.register device).items.map Device.id).length :=
    (List.length_map Device.id).symm
  rw [sameSize, register, Roster.enter, Roster.map_enterItem]
  split <;> simp [Roster.size]

/-- A registry that holds what was registered is the map of its history. -/
theorem isMapOf_of_holds
    {history : List Device}
    {registry : Registry}
    (holds : Roster.Holds history registry) :
    IsMapOf history registry where
  ids_distinct :=
    registry.distinct
  ids_eq :=
    holds.keys_eq
  items_eq :=
    holds.items_eq
  find?_eq :=
    holds.find?_eq
  resolve_eq_ok := by
    intro id device
    rw [resolve_eq_ok, holds.find?_eq]
    rfl
  resolve_eq_error := by
    intro id failure
    rw [resolve_eq_error, holds.find?_eq, Roster.latestUnder?_eq_none]
  find?_register := by
    intro device id different
    rw [register, Roster.find?_enter, if_neg different.symm]
  size_register := by
    intro device
    rw [size_register]
    split
    · rename_i present
      simp only [present]
    · rename_i absent
      simp [absent]

/--
Registering devices gives the map of all registrations.  The history starts
with the devices that are listed at first: none for the empty registry, and the
devices that are always known for the one that has these.
-/
theorem registerAll_isMapOf_history
    (start : Registry)
    (devices : List Device) :
    IsMapOf (start.items ++ devices) (start.registerAll devices) :=
  isMapOf_of_holds ((Roster.holds_items start).enterAll devices)

example :
    (builtin.registerAll
        [.standard "teensy_4" "Teensy 4.1" .arduino,
          .standard "board" "Board" .circuitPython,
          .standard "board" "Other board" .arduino]).items.map Device.name =
      ["Seeed Xiao RP2040", "Raspberry Pi Pico", "Arduino Leonardo",
        "Teensy 4.1", "EvilCrow-Cable", "Other board"] := by
  decide

end Keystroke.Registry
