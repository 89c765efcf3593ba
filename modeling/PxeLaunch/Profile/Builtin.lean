import PxeLaunch.Profile.Basic

/-!
The profiles that are there without any file.
-/

set_option autoImplicit false

namespace PxeLaunch.Profile

/-- Intel hosts run their own kind of guest; the firmware tries a disc drive before the network. -/
def x86_64 : Profile where
  architecture := .x86_64
  buildTarget := Architecture.x86_64.uefiTarget
  buildMode := .debug
  device := .e1000
  memoryMb := 4096
  processors := 2
  cpuModel := none
  machine := none
  acceleration := some .kvm
  firmware := ⟨.ovmf, some (.ofString "firmware/OVMF.fd")⟩
  support := .supported
  noise := [
    ⟨"BdsDxe: failed to load Boot[0-9A-F]\x7b4\x7d \"UEFI QEMU DVD-ROM",
      "[BdsDxe: DVD-ROM skipped]"⟩,
    ⟨"BdsDxe: ", "[BdsDxe]"⟩,
    ⟨"qemu-system-x86_64: warning: host doesn't support requested feature: (\\S+)",
      "[cpu feature unavailable: $1]"⟩]

/-- The virt machine with emulated processors. -/
def aarch64 : Profile where
  architecture := .aarch64
  buildTarget := Architecture.aarch64.uefiTarget
  buildMode := .debug
  device := .virtioNetPci
  memoryMb := 1024
  processors := 1
  cpuModel := some "cortex-a72"
  machine := some "virt"
  acceleration := none
  firmware := ⟨.aavmf, some (.ofString "firmware/QEMU_EFI.fd")⟩
  support := .supported
  noise := [
    ⟨"BdsDxe: ", "[BdsDxe]"⟩,
    ⟨"SetUefiImageMemoryAttributes - ", "[SetUefiImageMemoryAttributes]"⟩,
    ⟨"ConvertPages: ", "[ConvertPages]"⟩]

/-- The virt machine; no toolchain builds images for it yet. -/
def riscv64 : Profile where
  architecture := .riscv64
  buildTarget := Architecture.riscv64.uefiTarget
  buildMode := .debug
  device := .virtioNetPci
  memoryMb := 128
  processors := 1
  cpuModel := some "rv64"
  machine := some "virt"
  acceleration := none
  firmware := ⟨.edk2Riscv, none⟩
  support := .unsupported "no riscv64 UEFI target in the toolchain"
  noise := [⟨"BdsDxe: ", "[BdsDxe]"⟩]

/-- The profile of an architecture that has no profile of its own in a file. -/
def builtin : Architecture → Profile
  | .x86_64 => x86_64
  | .aarch64 => aarch64
  | .riscv64 => riscv64

end PxeLaunch.Profile
