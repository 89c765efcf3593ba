import PxeLaunch.Profile.Document
import PxeLaunch.Proofs.Text.Utf8
import PxeLaunch.Proofs.Toml.Decode
import PxeLaunch.Proofs.Toml.Layout

/-!
Profiles and the documents that are written for them. Main statement: a profile whose firmware path
is text can be written, and reading what was written gives the profile.
-/

set_option autoImplicit false

namespace PxeLaunch.Profile

open Toml (BareKey Block Fields Layout Line Plain)

/-! ### Writing -/

def optionalField (key : BareKey) (value : Option String) : Fields :=
  value.toList.map fun s => (key, .string s)

def plainFields (p : Profile) : Fields :=
  [({ text := "architecture" }, .string p.architecture.name),
    ({ text := "build-target" }, .string p.buildTarget),
    ({ text := "build-profile" }, .string p.buildMode.name),
    ({ text := "network-device" }, .string p.device.name),
    ({ text := "memory-mb" }, .number p.memoryMb),
    ({ text := "smp" }, .number p.processors)] ++
  optionalField { text := "cpu-model" } p.cpuModel ++
  optionalField { text := "machine" } p.machine ++
  optionalField { text := "acceleration" } (p.acceleration.map Acceleration.name) ++
  (if p.noise.isEmpty then [({ text := "noise-patterns" }, .noItems)] else [])

def firmwareFields (kind : FirmwareKind) (path : Option String) : Fields :=
  ({ text := "kind" }, .string kind.name) :: optionalField { text := "path" } path

def supportFields : Support → Fields
  | .supported => [({ text := "status" }, .string "supported")]
  | .unsupported reason =>
    [({ text := "status" }, .string "unsupported"), ({ text := "reason" }, .string reason)]

def noiseFields (n : NoisePattern) : Fields :=
  [({ text := "pattern" }, .string n.pattern), ({ text := "replacement" }, .string n.replacement)]

def noiseBlocks : List NoisePattern → List Block
  | [] => []
  | n :: ns => [.list { text := "noise-patterns" } (noiseFields n) (ns.map noiseFields)]

def blocks (p : Profile) (path : Option String) : List Block :=
  [.table { text := "firmware" } (firmwareFields p.firmware.kind path),
    .table { text := "support" } (supportFields p.support)] ++ noiseBlocks p.noise

private theorem chars_string (key : BareKey) (value : String) :
    (Line.assignment key (.string value)).chars = stringLine key.text value := rfl

private theorem chars_number (key : BareKey) (value : UInt32) :
    (Line.assignment key (.number value)).chars = numberLine key.text value := rfl

private theorem chars_optionalField (key : BareKey) (value : Option String) :
    (Fields.lines (optionalField key value)).flatMap Line.chars = optionalLine key.text value := by
  cases value with
  | none => rfl
  | some s => simp [optionalField, optionalLine, chars_string]

private theorem chars_plainFields (p : Profile) :
    p.plainFields.lines.flatMap Line.chars = p.writeFields := by
  have hnoise : (Fields.lines
      (if p.noise.isEmpty then [({ text := "noise-patterns" }, .noItems)] else [])).flatMap
        Line.chars = if p.noise.isEmpty then "noise-patterns = []\n".toList else [] := by
    split <;> rfl
  simp only [plainFields, writeFields, Fields.lines_append, List.flatMap_append,
    chars_optionalField, hnoise, Fields.lines_cons, Fields.lines_nil, List.flatMap_cons,
    List.flatMap_nil, chars_string, chars_number, List.append_assoc, List.nil_append]

private theorem chars_firmware (kind : FirmwareKind) (path : Option String) :
    (Block.table { text := "firmware" } (firmwareFields kind path)).lines.flatMap Line.chars =
      writeFirmware kind path := by
  simp only [Block.lines, firmwareFields, writeFirmware, Fields.lines_cons, List.flatMap_cons,
    chars_optionalField, chars_string, List.append_assoc]
  rfl

private theorem chars_support (support : Support) :
    (Block.table { text := "support" } (supportFields support)).lines.flatMap Line.chars =
      writeSupport support := by
  cases support with
  | supported => rfl
  | unsupported reason =>
    simp only [Block.lines, supportFields, writeSupport, Fields.lines_cons, Fields.lines_nil,
      List.flatMap_cons, List.flatMap_nil, chars_string, List.append_assoc, List.append_nil]
    rfl

private theorem chars_noise (n : NoisePattern) :
    (Line.arrayHeader { text := "noise-patterns" } :: Fields.lines (noiseFields n)).flatMap
      Line.chars = writeNoise n := by
  simp only [noiseFields, writeNoise, Fields.lines_cons, Fields.lines_nil, List.flatMap_cons,
    List.flatMap_nil, chars_string, List.append_assoc, List.append_nil]
  rfl

private theorem chars_noiseBlocks (ns : List NoisePattern) :
    ((noiseBlocks ns).flatMap Block.lines).flatMap Line.chars = ns.flatMap writeNoise := by
  cases ns with
  | nil => rfl
  | cons n ns =>
    rw [noiseBlocks, List.flatMap_singleton, Block.lines, ← List.map_cons, List.flatMap_map,
      List.flatMap_assoc]
    exact congrArg (List.flatMap · (n :: ns)) (funext chars_noise)

/-- The keys of a profile's document, by what the profile has. -/
private def keysOf (hasCpuModel hasMachine hasAcceleration hasNoise : Bool) : List String :=
  ["architecture", "build-target", "build-profile", "network-device", "memory-mb", "smp"] ++
  (if hasCpuModel then ["cpu-model"] else []) ++ (if hasMachine then ["machine"] else []) ++
  (if hasAcceleration then ["acceleration"] else []) ++
  (if hasNoise then [] else ["noise-patterns"]) ++ ["firmware", "support"] ++
  (if hasNoise then ["noise-patterns"] else [])

private theorem nodup_keysOf (hasCpuModel hasMachine hasAcceleration hasNoise : Bool) :
    (keysOf hasCpuModel hasMachine hasAcceleration hasNoise).Nodup := by
  revert hasCpuModel hasMachine hasAcceleration hasNoise
  decide

private theorem keys_eq (p : Profile) (path : Option String) :
    (p.plainFields.keys ++ (p.blocks path).map fun b => b.key.text) =
      keysOf p.cpuModel.isSome p.machine.isSome p.acceleration.isSome !p.noise.isEmpty := by
  obtain ⟨_, _, _, _, _, _, cpuModel, machine, acceleration, _, _, noise⟩ := p
  cases cpuModel <;> cases machine <;> cases acceleration <;> cases noise <;> rfl

private theorem nodup_firmwareFields (kind : FirmwareKind) (path : Option String) :
    (firmwareFields kind path).keys.Nodup := by
  cases path with
  | none => exact (by decide : ["kind"].Nodup)
  | some s => exact (by decide : ["kind", "path"].Nodup)

private theorem nodup_supportFields (support : Support) : (supportFields support).keys.Nodup := by
  cases support with
  | supported => exact (by decide : ["status"].Nodup)
  | unsupported reason => exact (by decide : ["status", "reason"].Nodup)

private theorem nodup_noiseBlocks (ns : List NoisePattern) :
    ∀ b ∈ noiseBlocks ns, ∀ fs ∈ b.parts, fs.keys.Nodup := by
  intro b hb fs hfs
  cases ns with
  | nil => exact absurd hb List.not_mem_nil
  | cons n ns =>
    obtain rfl := List.mem_singleton.1 hb
    have hmem : fs ∈ (n :: ns).map noiseFields := hfs
    obtain ⟨m, -, rfl⟩ := List.mem_map.1 hmem
    exact (by decide : ["pattern", "replacement"].Nodup)

private theorem nodup_parts (p : Profile) (path : Option String) :
    ∀ b ∈ p.blocks path, ∀ fs ∈ b.parts, fs.keys.Nodup := by
  intro b hb fs hfs
  obtain rfl | rfl | hb : b = .table { text := "firmware" } (firmwareFields p.firmware.kind path) ∨
      b = .table { text := "support" } (supportFields p.support) ∨ b ∈ noiseBlocks p.noise := by
    simpa [blocks] using hb
  · obtain rfl : fs = firmwareFields p.firmware.kind path := List.mem_singleton.1 hfs
    exact nodup_firmwareFields p.firmware.kind path
  · obtain rfl : fs = supportFields p.support := List.mem_singleton.1 hfs
    exact nodup_supportFields p.support
  · exact nodup_noiseBlocks p.noise b hb fs hfs

/-- The document of a profile, whose firmware path has been turned into text. -/
def layout (p : Profile) (path : Option String) : Layout where
  fields := p.plainFields
  blocks := p.blocks path
  nodup_keys := by
    rw [keys_eq]
    exact nodup_keysOf _ _ _ _
  nodup_parts := nodup_parts p path

private theorem toToml_eq {p : Profile} {path : Option String} (h : p.firmwareText = .ok path) :
    p.toToml = .ok (p.layout path).text := by
  have hchars : (p.layout path).lines.flatMap Line.chars =
      p.writeFields ++ writeFirmware p.firmware.kind path ++ writeSupport p.support ++
        p.noise.flatMap writeNoise := by
    simp only [Layout.lines, layout, blocks, List.flatMap_append, List.flatMap_cons,
      List.flatMap_nil, chars_plainFields, chars_firmware, chars_support, chars_noiseBlocks,
      List.append_assoc, List.append_nil]
  rw [toToml, h, Layout.text, hchars]
  rfl

/-! ### Reading -/

section Reading

open Toml (Table Value)
open Toml.Decode.Shape (readTable_append readTable_of_read)

private theorem word32_number (n : UInt32) :
    Toml.Decode.word32 (Plain.number n).value = .ok n := by
  have hlt : (n.toNat : Int) < 0x100000000 := by
    have := n.toNat_lt
    omega
  simp [Plain.value, Toml.Decode.word32, hlt]

private theorem firmware_read (kind : FirmwareKind) (path : Option String) :
    Firmware.shape.read (.table (firmwareFields kind path).table) =
      .ok ⟨kind, path.map Path.ofString⟩ := by
  cases path <;> cases kind <;> rfl

private theorem noise_read (n : NoisePattern) :
    NoisePattern.shape.read (.table (noiseFields n).table) = .ok n := rfl

private theorem list_noise (n : NoisePattern) (ns : List NoisePattern) :
    Toml.Decode.list NoisePattern.shape.read
      (Block.list { text := "noise-patterns" } (noiseFields n) (ns.map noiseFields)).value =
      .ok (n :: ns) := by
  have hitems (ns : List NoisePattern) : Toml.Decode.items NoisePattern.shape.read
      (ns.map fun n => .table (noiseFields n).table) = .ok ns := by
    induction ns with
    | nil => rfl
    | cons n ns ih =>
      rw [List.map_cons, Toml.Decode.items, noise_read, ih]
      rfl
  rw [Block.value, ← List.map_cons, List.map_map]
  exact hitems (n :: ns)

/-- The draft of a profile after so many of its fields have been read, in the order of documents. -/
private def draft (p : Profile) (count : Nat) : Draft where
  -- What a draft has before anything is read stands after each `else`.
  architecture := if 1 ≤ count then some p.architecture else none
  buildTarget := if 2 ≤ count then some p.buildTarget else none
  buildMode := if 3 ≤ count then p.buildMode else .debug
  device := if 4 ≤ count then some p.device else none
  memoryMb := if 5 ≤ count then some p.memoryMb else none
  processors := if 6 ≤ count then some p.processors else none
  cpuModel := if 7 ≤ count then p.cpuModel else none
  machine := if 8 ≤ count then p.machine else none
  acceleration := if 9 ≤ count then p.acceleration else none
  firmware := if 10 ≤ count then some p.firmware else none
  support := if 11 ≤ count then p.support else .supported
  noise := if 12 ≤ count then p.noise else []

/-- Reading the table changes the draft from `before` to `after`. -/
private def Reads (table : Table) (before after : Draft) : Prop :=
  shape.readTable before table = .ok after

private theorem Reads.append {first second : Table} {before between after : Draft}
    (hfirst : Reads first before between) (hsecond : Reads second between after) :
    Reads (first ++ second) before after := by
  unfold Reads
  rw [readTable_append, hfirst]
  exact hsecond

private theorem reads_architecture (p : Profile) :
    Reads [("architecture", .string p.architecture.name)] (draft p 0) (draft p 1) := by
  obtain ⟨architecture, _, _, _, _, _, _, _, _, _, _, _⟩ := p
  cases architecture <;> rfl

private theorem reads_buildTarget (p : Profile) :
    Reads [("build-target", .string p.buildTarget)] (draft p 1) (draft p 2) := rfl

private theorem reads_buildMode (p : Profile) :
    Reads [("build-profile", .string p.buildMode.name)] (draft p 2) (draft p 3) := by
  obtain ⟨_, _, buildMode, _, _, _, _, _, _, _, _, _⟩ := p
  cases buildMode <;> rfl

private theorem reads_device (p : Profile) :
    Reads [("network-device", .string p.device.name)] (draft p 3) (draft p 4) := by
  obtain ⟨_, _, _, device, _, _, _, _, _, _, _, _⟩ := p
  cases device <;> rfl

private theorem reads_memory (p : Profile) :
    Reads [("memory-mb", (Plain.number p.memoryMb).value)] (draft p 4) (draft p 5) := by
  have hread (v : Value) (n : UInt32) (hv : Toml.Decode.word32 v = .ok n) :
      Reads [("memory-mb", v)] (draft p 4) { draft p 4 with memoryMb := some n } :=
    readTable_of_read rfl
      (congrArg (·.bind fun n => .ok { draft p 4 with memoryMb := some n }) hv)
  exact hread _ _ (word32_number p.memoryMb)

private theorem reads_processors (p : Profile) :
    Reads [("smp", (Plain.number p.processors).value)] (draft p 5) (draft p 6) := by
  have hread (v : Value) (n : UInt32) (hv : Toml.Decode.word32 v = .ok n) :
      Reads [("smp", v)] (draft p 5) { draft p 5 with processors := some n } :=
    readTable_of_read rfl
      (congrArg (·.bind fun n => .ok { draft p 5 with processors := some n }) hv)
  exact hread _ _ (word32_number p.processors)

private theorem reads_cpuModel (p : Profile) :
    Reads (optionalField { text := "cpu-model" } p.cpuModel).table (draft p 6) (draft p 7) := by
  obtain ⟨_, _, _, _, _, _, cpuModel, _, _, _, _, _⟩ := p
  cases cpuModel <;> rfl

private theorem reads_machine (p : Profile) :
    Reads (optionalField { text := "machine" } p.machine).table (draft p 7) (draft p 8) := by
  obtain ⟨_, _, _, _, _, _, _, machine, _, _, _, _⟩ := p
  cases machine <;> rfl

private theorem reads_acceleration (p : Profile) :
    Reads (optionalField { text := "acceleration" }
      (p.acceleration.map Acceleration.name)).table (draft p 8) (draft p 9) := by
  obtain ⟨_, _, _, _, _, _, _, _, acceleration, _, _, _⟩ := p
  obtain _ | acceleration := acceleration
  · rfl
  · cases acceleration <;> rfl

private theorem reads_noItems (p : Profile) :
    Reads
      (Fields.table (if p.noise.isEmpty then [({ text := "noise-patterns" }, .noItems)] else []))
      (draft p 9) (draft p 9) := by
  -- The draft has no rules yet, and an empty list of them leaves it so.
  split <;> rfl

private theorem reads_plainFields (p : Profile) :
    Reads p.plainFields.table (draft p 0) (draft p 9) := by
  have hrequired := (reads_architecture p).append <| (reads_buildTarget p).append <|
    (reads_buildMode p).append <| (reads_device p).append <| (reads_memory p).append <|
    reads_processors p
  rw [plainFields, Fields.table_append, Fields.table_append, Fields.table_append,
    Fields.table_append]
  exact (((hrequired.append (reads_cpuModel p)).append (reads_machine p)).append
    (reads_acceleration p)).append (reads_noItems p)

private theorem reads_firmware {p : Profile} {path : Option String}
    (hpath : p.firmware.path = path.map Path.ofString) :
    Reads [("firmware", .table (firmwareFields p.firmware.kind path).table)] (draft p 9)
      (draft p 10) := by
  refine readTable_of_read rfl ?_
  have hread : Firmware.shape.read (.table (firmwareFields p.firmware.kind path).table) =
      .ok p.firmware := by
    rw [firmware_read, ← hpath]
  exact congrArg (·.bind fun f => .ok { draft p 9 with firmware := some f }) hread

private theorem reads_support (p : Profile) :
    Reads [("support", .table (supportFields p.support).table)] (draft p 10) (draft p 11) := by
  obtain ⟨_, _, _, _, _, _, _, _, _, _, support, _⟩ := p
  cases support <;> rfl

private theorem reads_noise (p : Profile) :
    Reads ((noiseBlocks p.noise).map fun b => (b.key.text, b.value)) (draft p 11) (draft p 12) := by
  obtain ⟨_, _, _, _, _, _, _, _, _, _, _, noise⟩ := p
  cases noise with
  | nil => rfl
  | cons n ns =>
    refine readTable_of_read rfl ?_
    exact congrArg (Except.bind · fun ns => .ok { draft _ 11 with noise := ns }) (list_noise n ns)

private theorem read_layout {p : Profile} {path : Option String}
    (hpath : p.firmware.path = path.map Path.ofString) :
    shape.read (.table (p.layout path).table) = .ok p := by
  have htable : Reads (p.layout path).table (draft p 0) (draft p 12) :=
    (reads_plainFields p).append <| (reads_firmware hpath).append <|
      (reads_support p).append <| reads_noise p
  have hread : shape.read (.table (p.layout path).table) =
      (shape.readTable (draft p 0) (p.layout path).table).bind shape.complete := rfl
  rw [hread, htable]
  rfl

end Reading

/-- A profile whose firmware path, if there is one, is text can be written, and the profile is read
from what was written. -/
theorem ofToml_toToml (p : Profile)
    (hpath : ∀ path, p.firmware.path = some path → ∃ s, path = .ofString s) :
    ∃ text, p.toToml = .ok text ∧ ofToml text = .ok p := by
  obtain ⟨path, hpath⟩ : ∃ path : Option String, p.firmware.path = path.map Path.ofString := by
    cases hfirmware : p.firmware.path with
    | none => exact ⟨none, rfl⟩
    | some path =>
      obtain ⟨s, rfl⟩ := hpath path hfirmware
      exact ⟨some s, rfl⟩
  have hfirmware : p.firmwareText = .ok path := by
    rw [firmwareText, hpath]
    cases path with
    | none => rfl
    | some s =>
      have hs : (Path.ofString s).text? = some s := Utf8.decode?_ofString s
      simp [hs]
  refine ⟨(p.layout path).text, toToml_eq hfirmware, ?_⟩
  rw [ofToml, Toml.decode, Toml.Document.parse?_text]
  dsimp only
  rw [read_layout hpath]
  rfl

/-- A profile whose texts take every style of quoting. -/
def quoted : Profile where
  architecture := .riscv64
  buildTarget := "C:\\target"
  buildMode := .release
  device := .virtioNetPci
  memoryMb := 0xFFFFFFFF
  processors := 0
  cpuModel := some "it's \"max\""
  machine := some ""
  acceleration := none
  firmware := ⟨.edk2Riscv, some (.ofString "firmware/é.fd")⟩
  support := .unsupported "'''\n\"\"\""
  noise := [⟨"\\[\"'+\"", "\u0007"⟩]

theorem ofToml_toToml_quoted :
    (∀ path, quoted.firmware.path = some path → ∃ s, path = .ofString s) ∧
      ∃ text, quoted.toToml = .ok text ∧ ofToml text = .ok quoted := by
  have hpath : ∀ path, quoted.firmware.path = some path → ∃ s, path = .ofString s := by
    intro path h
    exact ⟨"firmware/é.fd", (Option.some.inj h).symm⟩
  exact ⟨hpath, ofToml_toToml quoted hpath⟩

end PxeLaunch.Profile
