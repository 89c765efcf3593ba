import PxeLaunch.Proofs.Launch.Plan
import PxeLaunch.Proofs.Path.Components

/-!
The places that a launch names to the programs that it starts. The toolchain and the emulator run in
the folder of the project and follow relative paths from there; the launch follows the same paths
from its own folder, when it looks for the image and the firmware. Main statement: both find the
same files exactly if the paths start at the root or the two folders are one.
-/

set_option autoImplicit false

namespace PxeLaunch

/-! ### The image of the toolchain -/

theorem BuildMode.isAbsolute_name (mode : BuildMode) :
    (Path.ofString mode.name).isAbsolute = false := by
  cases mode <;> decide

private theorem Profile.steps_artifactPath_eq_iff (p : Profile) (dir root : Path)
    (artifact : String) :
    (p.artifactPath (dir.join root) artifact).steps = (p.artifactPath root artifact).steps ↔
      (root.isAbsolute = true ∨ dir.steps = []) ∨
        (Path.ofString p.buildTarget).isAbsolute = true ∨
        (Path.ofString artifact).isAbsolute = true := by
  simp only [artifactPath, Path.joinText, Path.steps_join_eq_steps_join_iff,
    Path.steps_join_eq_right_iff, BuildMode.isAbsolute_name, Bool.false_eq_true, false_or]
  grind

private theorem Toolchain.exists_args_eq (t : Toolchain) (p : Profile) :
    ∃ rest, t.args p = [.ofString "build", .ofString "--target", .ofString p.buildTarget,
      .ofString "--target-dir", t.resolvedOutputRoot.bytes] ++ rest :=
  ⟨_, by rw [args, List.append_assoc, List.append_assoc]⟩

/-! ### The image of the emulator -/

namespace Wiring

variable {files : Files} {p : Profile} {artifact : Path} {w : Wiring}

theorem steps_of_serve_eq_ok (h : serve files p artifact = .ok w) :
    w.tftpRoot.isAbsolute = artifact.isAbsolute ∧
      (Path.ofString w.bootFile).isAbsolute = false ∧
      (w.tftpRoot.joinText w.bootFile).steps = artifact.steps := by
  obtain ⟨-, -, -, -, hroot⟩ := serve_eq_ok h
  obtain ⟨hlast, -⟩ := Path.lastPart?_of_fileName? (fileName?_of_serve_eq_ok h)
  obtain ⟨hrelative, hstep⟩ := Path.steps_of_lastPart? hlast
  obtain ⟨dir, hparent, habsolute, hsteps⟩ := Path.exists_parent?_of_lastPart? hlast
  have hdir : w.tftpRoot.isAbsolute = dir.isAbsolute ∧ w.tftpRoot.steps = dir.steps := by
    rw [hroot, hparent]
    dsimp only
    split
    · next hempty =>
      obtain ⟨bytes⟩ := dir
      obtain rfl : bytes = [] := List.isEmpty_iff.mp hempty
      exact ⟨by decide, by decide⟩
    · exact ⟨rfl, rfl⟩
  refine ⟨hdir.1.trans habsolute, hrelative, ?_⟩
  rw [Path.joinText, Path.steps_join, if_neg (by simp [Path.ofString, hrelative]), hdir.2, hsteps]
  exact congrArg _ hstep

private theorem steps_join_tftpRoot_eq_iff (h : serve files p artifact = .ok w) (dir : Path) :
    ((dir.join w.tftpRoot).joinText w.bootFile).steps = artifact.steps ↔
      artifact.isAbsolute = true ∨ dir.steps = [] := by
  obtain ⟨habsolute, hrelative, hsteps⟩ := steps_of_serve_eq_ok h
  rw [← hsteps, ← habsolute, Path.joinText, Path.joinText, Path.steps_join_eq_steps_join_iff,
    Path.steps_join_eq_right_iff, hrelative]
  simp

end Wiring

/-! ### What both reach -/

/-- What a toolchain that is started by a command makes of the folder for output that is named to
it. The image that it leaves there is the one that the launch looks for exactly if the folder is
named from the root, if the folder of the project is the launch's own, or if the image is not below
the folder for output at all. -/
structure Toolchain.Reach (t : Toolchain) (p : Profile) (c : Command) : Prop where
  directory : c.directory = some t.projectDir
  image : ∃ root rest,
    c.args = [.ofString "build", .ofString "--target", .ofString p.buildTarget,
      .ofString "--target-dir", root.bytes] ++ rest ∧
    (t.projectDir.isAbsolute = true ∨ t.outputRoot.isAbsolute = true →
      p.artifactPath (t.projectDir.join root) t.artifact = t.artifactPath p) ∧
    ((p.artifactPath (t.projectDir.join root) t.artifact).steps = (t.artifactPath p).steps ↔
      ((t.projectDir.isAbsolute = true ∨ t.outputRoot.isAbsolute = true) ∨
        t.projectDir.steps = []) ∨
      (Path.ofString p.buildTarget).isAbsolute = true ∨
      (Path.ofString t.artifact).isAbsolute = true)

/-- What an emulator that is started by a command makes of the firmware and the network that are
named to it. They lead to the files that the launch has looked at exactly if these are named from
the root or the folder of the project is the launch's own. -/
structure Launch.Reach (o : Launch) (files : Files) (artifact : Path) (c : Command) : Prop where
  directory : c.directory = some o.projectDir
  firmware : ∀ path, o.profile.firmwarePath o.projectDir = some path →
    files.isFile path = true ∧
    (Invocation.readOptions c.args).bind (·.lookup (.ofString "-bios")) = some (some path.bytes) ∧
    (path.isAbsolute = true → o.projectDir.join path = path) ∧
    ((o.projectDir.join path).steps = path.steps ↔
      path.isAbsolute = true ∨ o.projectDir.steps = [])
  image : ∃ w, Wiring.serve files o.profile artifact = .ok w ∧
    files.isFile artifact = true ∧
    (Invocation.readOptions c.args).bind (·.lookup (.ofString "-netdev")) =
      some (some w.netdevSpec) ∧
    (artifact.isAbsolute = true → o.projectDir.join w.tftpRoot = w.tftpRoot) ∧
    (((o.projectDir.join w.tftpRoot).joinText w.bootFile).steps = artifact.steps ↔
      artifact.isAbsolute = true ∨ o.projectDir.steps = [])

private theorem Toolchain.reach_command (t : Toolchain) (p : Profile) :
    t.Reach p (t.command p) where
  directory := rfl
  image := by
    obtain ⟨rest, hargs⟩ := t.exists_args_eq p
    have habsolute : t.resolvedOutputRoot.isAbsolute = true ↔
        t.projectDir.isAbsolute = true ∨ t.outputRoot.isAbsolute = true := by
      rw [resolvedOutputRoot, Path.isAbsolute_join, Bool.or_eq_true]
    refine ⟨t.resolvedOutputRoot, rest, hargs, fun h => ?_, ?_⟩
    · rw [Path.join_of_isAbsolute _ (habsolute.mpr h)]
      rfl
    · rw [← habsolute]
      exact p.steps_artifactPath_eq_iff t.projectDir t.resolvedOutputRoot t.artifact

private theorem Launch.reach_startCommand {o : Launch} {files : Files} {host : Option Architecture}
    {artifact : Path} {i : Invocation} (h : o.plan files host artifact = .ok i) (stdin : Bytes) :
    o.Reach files artifact (o.startCommand i stdin) := by
  obtain ⟨hfirmware, w, hw, -, rfl⟩ := plan_eq_ok_iff.mp h
  obtain ⟨hfile, -, -, hdevice, -⟩ := Wiring.serve_eq_ok hw
  obtain ⟨habsolute, -⟩ := Wiring.steps_of_serve_eq_ok hw
  have hread := Invocation.readOptions_machineArgs o.profile
    (o.profile.firmwarePath o.projectDir) w
  refine ⟨rfl, fun path hpath => ⟨checkFirmware_eq_ok_iff.mp hfirmware path hpath, ?_,
    fun habs => Path.join_of_isAbsolute _ habs, Path.steps_join_eq_right_iff⟩,
    w, hw, hfile, ?_, fun habs => Path.join_of_isAbsolute _ (habsolute.trans habs),
    Wiring.steps_join_tftpRoot_eq_iff hw o.projectDir⟩
  · rw [startCommand, hread, Option.bind_some, (Invocation.describes_used_table hdevice).firmware,
      hpath]
    rfl
  · rw [startCommand, hread, Option.bind_some]
    exact Invocation.lookup_used (Invocation.nodup_map_fst_table _ _ _)
      (by simp [Invocation.table, Invocation.row])

/-- The toolchain and the emulator find the files that the launch means exactly if those are named
from the root or the folder of the project is the launch's own. -/
theorem reach_command_and_startCommand (t : Toolchain) (p : Profile) (o : Launch)
    (files : Files) (host : Option Architecture) (artifact : Path) :
    t.Reach p (t.command p) ∧
      ∀ (i : Invocation) (stdin : Bytes), o.plan files host artifact = .ok i →
        o.Reach files artifact (o.startCommand i stdin) :=
  ⟨t.reach_command p, fun _ stdin h => Launch.reach_startCommand h stdin⟩

/-- A plan is made, and yet the emulator looks for the firmware elsewhere. -/
theorem reach_command_and_startCommand_below :
    let o := Launch.ofProfile Profile.x86_64.withoutAcceleration
      (.default (.default (.ofString "proj")))
    let files : Files := ⟨[([.ofString "proj"], .folder),
      ([.ofString "proj", .ofString "firmware"], .folder),
      ([.ofString "proj", .ofString "firmware", .ofString "OVMF.fd"], .file [] false),
      ([.ofString "proj", .ofString "boot.efi"], .file [] false)], []⟩
    let artifact : Path := .ofString "proj/boot.efi"
    let firmware : Path := .ofString "proj/firmware/OVMF.fd"
    ∃ i, o.plan files none artifact = .ok i ∧ o.Reach files artifact (o.startCommand i []) ∧
      o.profile.firmwarePath o.projectDir = some firmware ∧
      (o.projectDir.join firmware).steps ≠ firmware.steps := by
  intro o files artifact firmware
  have hserve : Wiring.serve files o.profile artifact =
      .ok ⟨.e1000, .ofString "proj", "boot.efi"⟩ :=
    toOption_eq_some.mp (by decide +kernel)
  have hfirmware : o.checkFirmware files = .ok () := toOption_eq_some.mp (by decide +kernel)
  have hhost : o.profile.checkHost none = .ok () := rfl
  have hplan := Launch.plan_eq_ok_iff.mpr ⟨hfirmware, _, hserve, hhost, rfl⟩
  have hreach := (reach_command_and_startCommand o.settings.toolchain o.profile o files none
    artifact).2 _ [] hplan
  exact ⟨_, hplan, hreach, by decide, by decide +kernel⟩

/-- A toolchain that is started in a folder below the launch's own leaves its image in that folder
taken twice. -/
theorem artifactPath_not_reached_below :
    let t := Toolchain.default (.ofString "proj")
    let root : Path := .ofString "proj/target"
    (t.command Profile.x86_64).directory = some (.ofString "proj") ∧
      (t.command Profile.x86_64).args = [.ofString "build", .ofString "--target",
        .ofString "x86_64-unknown-uefi", .ofString "--target-dir", root.bytes] ∧
      Profile.x86_64.artifactPath (t.projectDir.join root) t.artifact =
        .ofString "proj/proj/target/x86_64-unknown-uefi/debug/bootloader.efi" ∧
      t.artifactPath Profile.x86_64 =
        .ofString "proj/target/x86_64-unknown-uefi/debug/bootloader.efi" ∧
      (Profile.x86_64.artifactPath (t.projectDir.join root) t.artifact).steps ≠
        (t.artifactPath Profile.x86_64).steps := by
  decide +kernel

end PxeLaunch
