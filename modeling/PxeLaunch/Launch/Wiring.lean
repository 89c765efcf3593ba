import PxeLaunch.Launch.Toolchain

/-!
The network that the guest boots from. The emulator serves the folder of the image to the guest and
tells it the name of the file to boot, and keeps it from everything else on the host's network. The
emulator takes a comma for the end of a setting unless it is written twice.
-/

set_option autoImplicit false

namespace PxeLaunch

/-- The network device of the guest, the folder that is served and the file to boot. -/
structure Wiring where
  device : NetworkDevice
  tftpRoot : Path
  bootFile : String
  deriving Repr, DecidableEq

namespace Wiring

/-- The wiring that serves an image, which has to be there. -/
def serve (files : Files) (p : Profile) (artifact : Path) : Except LaunchError Wiring :=
  if !files.isFile artifact then .error (.misconfigured p.architecture (.noArtifact artifact))
  else match artifact.fileName?.bind Utf8.decode? with
    | none => .error (.misconfigured p.architecture (.artifactName artifact))
    | some name =>
      if name.toList.contains ',' then .error (.misconfigured p.architecture (.commaInName name))
      else
        let root := match artifact.parent? with
          | some dir => if dir.bytes.isEmpty then Path.ofString "." else dir
          | none => Path.ofString "."
        .ok ⟨p.device, root, name⟩

/-- The name that ties the device to the network. -/
def networkId : String := "net0"

/-- Every comma twice. -/
def doubleCommas (bytes : Bytes) : Bytes :=
  bytes.flatMap fun b => if b = Bytes.comma then [b, b] else [b]

/-- A path as it is written in a setting. Only paths that are text are changed. -/
def escapePath (p : Path) : Bytes := if p.text?.isSome then doubleCommas p.bytes else p.bytes

/-- The settings of the network. -/
def netdevSpec (w : Wiring) : Bytes :=
  Bytes.ofString s!"user,id={networkId},restrict=on,tftp=" ++ escapePath w.tftpRoot ++
    Bytes.ofString s!",bootfile={w.bootFile}"

/-- The settings of the device. -/
def deviceSpec (w : Wiring) : String := s!"{w.device.name},netdev={networkId}"

/-- The arguments of the emulator for network and device. -/
def args (w : Wiring) : List Bytes :=
  [.ofString "-netdev", w.netdevSpec, .ofString "-device", .ofString w.deviceSpec]

end Wiring

end PxeLaunch
