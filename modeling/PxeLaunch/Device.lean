import PxeLaunch.Path

/-!
Network devices and firmware. The guest boots from the network only if its firmware has a driver for
the device, so the pairing is checked beforehand.
-/

set_option autoImplicit false

namespace PxeLaunch

/-- A network device that the guest may be given. -/
inductive NetworkDevice where
  | e1000
  | virtioNetPci
  deriving Repr, DecidableEq

/-- The model name of a device in files and arguments. -/
def NetworkDevice.name : NetworkDevice → String
  | .e1000 => "e1000"
  | .virtioNetPci => "virtio-net-pci"

/-- A family of firmware. -/
inductive FirmwareKind where
  | ovmf
  | aavmf
  | edk2Riscv
  deriving Repr, DecidableEq

namespace FirmwareKind

/-- The name of a family in files. -/
def name : FirmwareKind → String
  | .ovmf => "ovmf"
  | .aavmf => "aavmf"
  | .edk2Riscv => "edk2-riscv"

/-- The name of a family in messages. -/
def label : FirmwareKind → String
  | .ovmf => "Ovmf"
  | .aavmf => "Aavmf"
  | .edk2Riscv => "Edk2Riscv"

/-- Whether a family has a driver for a device. -/
def supports : FirmwareKind → NetworkDevice → Bool
  | .ovmf, .e1000 => true
  | _, .virtioNetPci => true
  | _, .e1000 => false

end FirmwareKind

/-- The firmware that a guest starts with. Without a path the emulator takes its own image. -/
structure Firmware where
  kind : FirmwareKind
  path : Option Path
  deriving Repr, DecidableEq

end PxeLaunch
