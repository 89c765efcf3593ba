import PxeLaunch.Profile.Document
import PxeLaunch.Project.Error
import PxeLaunch.Text.Lines

/-!
The manifest of a project. It names the project and may set up the toolchain, the emulators and,
architecture by architecture, parts of the profiles. A key that means nothing is an error
everywhere.
-/

set_option autoImplicit false

namespace PxeLaunch

open Toml.Decode (Field Shape string word32 list map required)

/-- Settings of the toolchain. -/
structure ToolchainConfig where
  program : Option Path
  package : Option String
  artifact : Option String
  outputRoot : Option Path
  extraArgs : List String
  deriving DecidableEq

/-- Changes to a profile. -/
structure Override where
  firmware : Option Path
  memoryMb : Option UInt32
  processors : Option UInt32
  cpuModel : Option String
  acceleration : Option String
  buildMode : Option BuildMode
  deriving DecidableEq

/-- What a manifest says. Programs and overrides stand in the order of their names. -/
structure Manifest where
  projectName : String
  toolchain : ToolchainConfig
  programs : List (String × Path)
  overrides : List (String × Override)
  deriving DecidableEq

namespace ToolchainConfig

def blank : ToolchainConfig := ⟨none, none, none, none, []⟩

def shape : Shape ToolchainConfig ToolchainConfig where
  name := "struct ToolchainConfig"
  isStrict := true
  fields := [
    { key := "program", read := fun v d => return { d with program := some (← Path.read v) } },
    { key := "package", read := fun v d => return { d with package := some (← string v) } },
    { key := "artifact", read := fun v d => return { d with artifact := some (← string v) } },
    { key := "output-root"
      read := fun v d => return { d with outputRoot := some (← Path.read v) } },
    { key := "extra-args", read := fun v d => return { d with extraArgs := ← list string v } }]
  blank := blank
  complete := fun d => return d

end ToolchainConfig

namespace Override

def blank : Override := ⟨none, none, none, none, none, none⟩

def shape : Shape Override Override where
  name := "struct ProfileOverride"
  isStrict := true
  fields := [
    { key := "firmware", read := fun v d => return { d with firmware := some (← Path.read v) } },
    { key := "memory-mb", read := fun v d => return { d with memoryMb := some (← word32 v) } },
    { key := "smp", read := fun v d => return { d with processors := some (← word32 v) } },
    { key := "cpu-model", read := fun v d => return { d with cpuModel := some (← string v) } },
    { key := "acceleration"
      read := fun v d => return { d with acceleration := some (← string v) } },
    { key := "build-profile"
      read := fun v d => return { d with buildMode := some (← BuildMode.read v) } }]
  blank := blank
  complete := fun d => return d

/-- The mode that a name stands for, where `none` is the name for no mode at all. -/
def accelerationOf? : String → Option (Option Acceleration)
  | "none" => some none
  | "kvm" => some (some .kvm)
  | "hvf" => some (some .hvf)
  | _ => none

/-- The acceleration of a profile with the change to it. -/
def newAcceleration (o : Override) (p : Profile) :
    Except ProjectError (Option Acceleration) :=
  match o.acceleration with
  | none => .ok p.acceleration
  | some name =>
    match accelerationOf? name with
    | some mode => .ok mode
    | none =>
      .error (.plain (s!"[profiles.{p.architecture.name}] acceleration must be kvm, hvf, or " ++
        s!"none (got '{name}')"))

/-- A profile with the changes to it. -/
def apply (o : Override) (p : Profile) : Except ProjectError Profile := do
  let acceleration ← o.newAcceleration p
  return { p with
    firmware := { p.firmware with path := o.firmware.or p.firmware.path }
    memoryMb := o.memoryMb.getD p.memoryMb
    processors := o.processors.getD p.processors
    cpuModel := o.cpuModel.or p.cpuModel
    acceleration
    buildMode := o.buildMode.getD p.buildMode }

end Override

namespace Manifest

/-- The name of the manifest, in the folder of the project. -/
def fileName : String := "netboot.toml"

def projectShape : Shape (Option String) String where
  name := "struct ProjectConfig"
  isStrict := true
  fields := [
    { key := "name", hasDefault := false, read := fun v _ => return some (← string v) }]
  blank := none
  complete := required "name"

def emulatorShape : Shape (List (String × Path)) (List (String × Path)) where
  name := "struct EmulatorConfig"
  isStrict := true
  fields := [{ key := "programs", read := fun v _ => map Path.read v }]
  blank := []
  complete := fun d => return d

structure Draft where
  projectName : Option String
  toolchain : ToolchainConfig
  programs : List (String × Path)
  overrides : List (String × Override)

/-- Entries in the order of their names. -/
def sorted {α : Type} (entries : List (String × α)) : List (String × α) :=
  entries.mergeSort fun a b => !(Bytes.ofString b.1).before (Bytes.ofString a.1)

def shape : Shape Draft Manifest where
  name := "struct NetbootManifest"
  isStrict := true
  fields := [
    { key := "project", hasDefault := false
      read := fun v d => return { d with projectName := some (← projectShape.read v) } },
    { key := "toolchain"
      read := fun v d => return { d with toolchain := ← ToolchainConfig.shape.read v } },
    { key := "emulator"
      read := fun v d => return { d with programs := ← emulatorShape.read v } },
    { key := "profiles"
      read := fun v d => return { d with overrides := ← map Override.shape.read v } }]
  blank := ⟨none, .blank, [], []⟩
  complete := fun d => return {
    projectName := ← required "project" d.projectName
    toolchain := d.toolchain
    programs := sorted d.programs
    overrides := sorted d.overrides }

/-- The manifest that a document holds. -/
def ofToml (text : String) : Except Toml.Error Manifest := Toml.decode shape text

/-- A manifest to start from. The name is put into it as it is. -/
def template (name : String) : String :=
  Lines.ofList [
    "[project]",
    "name = \"" ++ name ++ "\"",
    "",
    "[toolchain]",
    "program = \"cargo\"",
    "artifact = \"bootloader.efi\"",
    "output-root = \"target\"",
    "",
    "# [emulator.programs]",
    "# x86_64 = \"/opt/qemu/bin/qemu-system-x86_64\"",
    "",
    "# [profiles.x86_64]",
    "# firmware = \"firmware/OVMF.fd\"",
    "# acceleration = \"none\""]

end Manifest

end PxeLaunch
