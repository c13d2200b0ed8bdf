import Keystroke.Device.Basic
import Keystroke.Failure

namespace Keystroke

/-!
# The registry of devices

Devices are listed in the order in which their identifiers were first
registered, and registering an identifier again replaces its device.
-/

/-- Devices by identifier. -/
abbrev Registry :=
  Roster Device.id

namespace Registry

/-- Register a device, replacing the device with the same identifier. -/
def register
    (registry : Registry)
    (device : Device) :
    Registry :=
  registry.enter device

/-- The device with an identifier, which has to be known. -/
def resolve
    (registry : Registry)
    (id : String) :
    Except Failure Device :=
  match registry.find? id with
  | some device =>
      .ok device
  | none =>
      .error (.unknownDevice id)

/-- The devices that are always known. -/
def builtin :
    Registry :=
  Roster.ofList
    [Device.standard "xiao_rp2040" "Seeed Xiao RP2040" .circuitPython,
      Device.standard "raspberry_pi_pico" "Raspberry Pi Pico" .circuitPython,
      Device.standard "arduino_leonardo" "Arduino Leonardo" .arduino,
      Device.standard "teensy_4" "Teensy 4.0" .arduino,
      Device.standard "evilcrow_cable" "EvilCrow-Cable" .arduino]

/-- The identifier of the device that is meant when none is given. -/
def defaultId :
    String :=
  "xiao_rp2040"

end Registry

end Keystroke
