import PxeLaunch.Launch.Lifecycle
import PxeLaunch.Proofs.Launch.Wiring
import PxeLaunch.Proofs.Text.Strict

/-!
The plan of a launch, as the emulator reads it. The emulator goes through its arguments from left to
right and takes the word after an option for the value of that option, whatever the word looks like.
Main statement: a plan is made exactly for an image that can be served to a machine that can be run,
and the options that the emulator reads in it say what the profile says.
-/

set_option autoImplicit false

namespace PxeLaunch

namespace Invocation

/-! ### Reading and writing options -/

/-- An option as it is read, with its value unless it has none. -/
abbrev Argument := Bytes × Option Bytes

def valueless : Bytes := .ofString "-nographic"

/-- The options that the emulator reads in its arguments, if none lacks its value. -/
def readOptions : List Bytes → Option (List Argument)
  | [] => some []
  | [name] => if name = valueless then some [(name, none)] else none
  | name :: word :: rest =>
    if name = valueless then (readOptions (word :: rest)).map ((name, none) :: ·)
    else (readOptions rest).map ((name, some word) :: ·)

/-- The arguments that options are written as. -/
def spell (given : List Argument) : List Bytes := given.flatMap fun e => e.1 :: e.2.toList

/-- A row of a table of options; an option that is not used has nothing in its row. -/
abbrev Row := Bytes × Option (Option Bytes)

def row (name : String) (value : Option Bytes) : Row := (.ofString name, value.map some)

def used (table : List Row) : List Argument := table.filterMap fun r => r.2.map (r.1, ·)

section Reading

variable {given : List Argument} {table : List Row}

private theorem readOptions_spell (h : ∀ e ∈ given, e.2 = none ↔ e.1 = valueless) :
    readOptions (spell given) = some given := by
  induction given with
  | nil => rfl
  | cons e given ih =>
    obtain ⟨he, hgiven⟩ := List.forall_mem_cons.mp h
    obtain ⟨name, value⟩ := e
    have hread := ih hgiven
    cases value with
    | some word =>
      have hname : name ≠ valueless := fun heq => Option.some_ne_none _ (he.mpr heq)
      show readOptions (name :: word :: spell given) = _
      rw [readOptions, if_neg hname, hread, Option.map_some]
    | none =>
      obtain rfl : name = valueless := he.mp rfl
      show readOptions (valueless :: spell given) = _
      cases hspell : spell given with
      | nil =>
        rw [hspell, readOptions] at hread
        rw [readOptions, if_pos rfl, ← Option.some.inj hread]
      | cons word rest => rw [readOptions, if_pos rfl, ← hspell, hread, Option.map_some]

private theorem map_fst_used_sublist (table : List Row) :
    ((used table).map Prod.fst).Sublist (table.map Prod.fst) := by
  induction table with
  | nil => exact List.Sublist.refl _
  | cons r table ih =>
    obtain ⟨name, value⟩ := r
    cases value with
    | none => exact ih.cons _
    | some value => exact ih.cons_cons _

theorem lookup_used (hdistinct : (table.map Prod.fst).Nodup) {name : Bytes}
    {value : Option (Option Bytes)} (hrow : (name, value) ∈ table) :
    (used table).lookup name = value := by
  induction table with
  | nil => simp at hrow
  | cons r table ih =>
    obtain ⟨name', value'⟩ := r
    obtain ⟨hfresh, hrest⟩ := List.nodup_cons.mp hdistinct
    rcases List.mem_cons.mp hrow with heq | hmem
    · obtain ⟨rfl, rfl⟩ := Prod.mk.inj heq
      cases value with
      | some value => exact List.lookup_cons_self
      | none =>
        refine List.lookup_eq_none_iff.mpr fun e he => bne_iff_ne.mpr ?_
        have he' : e.1 ∈ (used table).map Prod.fst := List.mem_map_of_mem he
        rintro rfl
        exact hfresh ((map_fst_used_sublist table).mem he')
    · have hname : name ∈ table.map Prod.fst := List.mem_map_of_mem hmem
      have hne : name ≠ name' := by
        rintro rfl
        exact hfresh hname
      cases value' with
      | none => exact ih hrest hmem
      | some value' =>
        show List.lookup name ((name', value') :: used table) = value
        rw [List.lookup_cons, beq_false_of_ne hne]
        exact ih hrest hmem

private theorem used_append (table more : List Row) :
    used (table ++ more) = used table ++ used more :=
  List.filterMap_append

private theorem spell_used_cons (name : String) (value : Option Bytes) (table : List Row) :
    spell (used (row name value :: table)) = option name value ++ spell (used table) := by
  cases value <;> rfl

private theorem eq_none_iff_of_row {name : String} (hname : Bytes.ofString name ≠ valueless)
    (word : Option Bytes) (value : Option Bytes) (hvalue : (row name word).2 = some value) :
    value = none ↔ (row name word).1 = valueless := by
  obtain ⟨word, -, rfl⟩ := Option.map_eq_some_iff.mp hvalue
  exact iff_of_false (Option.some_ne_none word) hname

end Reading

/-! ### The options of a machine -/

def IsDecimal (word : Bytes) (n : Nat) : Prop :=
  ∃ digits : List Char, word = .ofChars digits ∧ digits ≠ [] ∧
    (∀ c ∈ digits, c.isDigit = true) ∧ Nat.ofDigitChars 10 digits 0 = n

private theorem isDecimal_toString (n : Nat) : IsDecimal (.ofString (toString n)) n := by
  refine ⟨Nat.toDigits 10 n, ?_, Nat.toDigits_ne_nil,
    fun c hc => Nat.isDigit_of_mem_toDigits (by decide) (by decide) hc,
    Nat.ofDigitChars_toDigits (by decide) (by decide)⟩
  rw [Nat.toString_eq_repr, Bytes.ofString, Nat.repr, String.toList_ofList]

def optionNames : List Bytes :=
  ["-machine", "-cpu", "-accel", "-smp", "-m", "-nographic", "-bios", "-netdev", "-device"].map
    Bytes.ofString

/-- What options say of a machine: all that the profile says, and nothing else. -/
structure Describes (given : List Argument) (p : Profile) (firmware : Option Path) : Prop where
  once : (given.map Prod.fst).Nodup
  known : ∀ e ∈ given, e.1 ∈ optionNames
  machine : given.lookup (.ofString "-machine") = (p.machine.map Bytes.ofString).map some
  cpu : given.lookup (.ofString "-cpu") = (p.cpuModel.map Bytes.ofString).map some
  acceleration :
    given.lookup (.ofString "-accel") =
      (p.acceleration.map fun mode => Bytes.ofString mode.name).map some
  processors : ∃ word, given.lookup (.ofString "-smp") = some (some word) ∧
    IsDecimal word p.processors.toNat
  memory : ∃ word, given.lookup (.ofString "-m") = some (some word) ∧
    IsDecimal word p.memoryMb.toNat
  display : given.lookup valueless = some none
  firmware : given.lookup (.ofString "-bios") = (firmware.map Path.bytes).map some
  network : ∃ before network device,
    given = before ++ [(.ofString "-netdev", some network), (.ofString "-device", some device)] ∧
      (Wiring.settings network).take 2 = [.ofString "user", .ofString "id=net0"] ∧
      Wiring.settings device = [.ofString p.device.name, .ofString "netdev=net0"]

def table (p : Profile) (firmware : Option Path) (w : Wiring) : List Row :=
  [row "-machine" (p.machine.map Bytes.ofString),
    row "-cpu" (p.cpuModel.map Bytes.ofString),
    row "-accel" (p.acceleration.map fun mode => Bytes.ofString mode.name),
    row "-smp" (some (.ofString (toString p.processors.toNat))),
    row "-m" (some (.ofString (toString p.memoryMb.toNat))),
    (valueless, some none),
    row "-bios" (firmware.map Path.bytes),
    row "-netdev" (some w.netdevSpec),
    row "-device" (some (.ofString w.deviceSpec))]

private theorem take_settings_netdevSpec (w : Wiring) :
    (Wiring.settings w.netdevSpec).take 2 = [.ofString "user", .ofString "id=net0"] := by
  have hspec : w.netdevSpec = Wiring.doubleCommas (.ofString "user") ++ Bytes.comma ::
      (Wiring.doubleCommas (.ofString "id=net0") ++ Bytes.comma ::
        (Bytes.ofString "restrict=on,tftp=" ++ (Wiring.escapePath w.tftpRoot ++ w.closing))) := by
    rw [Wiring.netdevSpec_eq]
    rfl
  rw [hspec, Wiring.settings_doubleCommas_append, Wiring.settings_doubleCommas_append]
  · rfl
  · show some 114 ≠ some Bytes.comma
    decide
  · show some 105 ≠ some Bytes.comma
    decide

private theorem settings_deviceSpec (w : Wiring) :
    Wiring.settings (.ofString w.deviceSpec) =
      [.ofString w.device.name, .ofString "netdev=net0"] := by
  cases hdevice : w.device with
  | e1000 =>
    rw [Wiring.deviceSpec, hdevice]
    decide
  | virtioNetPci =>
    rw [Wiring.deviceSpec, hdevice]
    decide

section Machine

variable {p : Profile} {firmware : Option Path} {w : Wiring}

private theorem map_fst_table (p : Profile) (firmware : Option Path) (w : Wiring) :
    (table p firmware w).map Prod.fst = optionNames := rfl

theorem nodup_map_fst_table (p : Profile) (firmware : Option Path) (w : Wiring) :
    ((table p firmware w).map Prod.fst).Nodup := by
  rw [map_fst_table]
  decide

private theorem machineArgs_eq_spell (p : Profile) (firmware : Option Path) (w : Wiring) :
    machineArgs p firmware w = spell (used (table p firmware w)) := by
  have hvalueless (rest : List Row) :
      spell (used ((valueless, some none) :: rest)) = [valueless] ++ spell (used rest) := rfl
  simp only [table, spell_used_cons, hvalueless, machineArgs, List.append_assoc]
  rfl

theorem readOptions_machineArgs (p : Profile) (firmware : Option Path) (w : Wiring) :
    readOptions (machineArgs p firmware w) = some (used (table p firmware w)) := by
  have htable : ∀ r ∈ table p firmware w, ∀ value, r.2 = some value →
      (value = none ↔ r.1 = valueless) := by
    simp only [table, List.forall_mem_cons]
    refine ⟨eq_none_iff_of_row (by decide) _, eq_none_iff_of_row (by decide) _,
      eq_none_iff_of_row (by decide) _, eq_none_iff_of_row (by decide) _,
      eq_none_iff_of_row (by decide) _, ?_, eq_none_iff_of_row (by decide) _,
      eq_none_iff_of_row (by decide) _, eq_none_iff_of_row (by decide) _, by simp⟩
    rintro value ⟨⟩
    exact ⟨fun _ => trivial, fun _ => rfl⟩
  rw [machineArgs_eq_spell]
  refine readOptions_spell fun e he => ?_
  obtain ⟨r, hr, hvalue⟩ := List.mem_filterMap.mp he
  obtain ⟨value, hr', rfl⟩ := Option.map_eq_some_iff.mp hvalue
  exact htable r hr value hr'

private theorem lookup_of_row_mem {name : String} {value : Option Bytes}
    (hrow : row name value ∈ table p firmware w) :
    (used (table p firmware w)).lookup (.ofString name) = value.map some :=
  lookup_used (nodup_map_fst_table p firmware w) hrow

theorem describes_used_table (hdevice : w.device = p.device) :
    Describes (used (table p firmware w)) p firmware where
  once := (map_fst_used_sublist _).nodup (nodup_map_fst_table p firmware w)
  known e he := map_fst_table p firmware w ▸
    (map_fst_used_sublist _).mem (List.mem_map_of_mem he)
  machine := lookup_of_row_mem (by simp [table])
  cpu := lookup_of_row_mem (by simp [table])
  acceleration := lookup_of_row_mem (by simp [table])
  processors := ⟨_, lookup_used (nodup_map_fst_table p firmware w) (by simp [table, row]),
    isDecimal_toString _⟩
  memory := ⟨_, lookup_used (nodup_map_fst_table p firmware w) (by simp [table, row]),
    isDecimal_toString _⟩
  display := lookup_used (nodup_map_fst_table p firmware w) (by simp [table])
  firmware := lookup_of_row_mem (by simp [table])
  network := ⟨used ((table p firmware w).take 7), w.netdevSpec, .ofString w.deviceSpec,
    used_append ((table p firmware w).take 7) ((table p firmware w).drop 7),
    take_settings_netdevSpec w, hdevice ▸ settings_deviceSpec w⟩

end Machine

end Invocation

/-! ### The plan -/

namespace Wiring

theorem fileName?_of_serve_eq_ok {files : Files} {p : Profile} {artifact : Path} {w : Wiring}
    (h : serve files p artifact = .ok w) : artifact.fileName? = some (.ofString w.bootFile) := by
  obtain ⟨-, hname, -⟩ := serve_eq_ok h
  obtain ⟨bytes, hbytes, hdecode⟩ := Option.bind_eq_some_iff.mp hname
  obtain rfl := Utf8.decode?_eq_some_iff.mp hdecode
  exact hbytes

private theorem exists_serve_eq_ok_iff {files : Files} {p : Profile} {artifact : Path} :
    (∃ w, serve files p artifact = .ok w) ↔
      files.isFile artifact = true ∧
      ∃ name : String, artifact.fileName? = some (.ofString name) ∧ ',' ∉ name.toList := by
  constructor
  · rintro ⟨w, hw⟩
    obtain ⟨hfile, -, hcomma, -⟩ := serve_eq_ok hw
    exact ⟨hfile, w.bootFile, fileName?_of_serve_eq_ok hw, hcomma⟩
  · rintro ⟨hfile, name, hname, hcomma⟩
    have hdecode : artifact.fileName?.bind Utf8.decode? = some name := by
      rw [hname, Option.bind_some, Utf8.decode?_ofString]
    simp [serve, hfile, hdecode, hcomma]

end Wiring

private theorem Profile.checkHost_eq_ok_iff {p : Profile} {host : Option Architecture} :
    p.checkHost host = .ok () ↔ p.acceleration = none ∨ host = some p.architecture := by
  rw [checkHost]
  cases p.acceleration with
  | none => simp
  | some mode => simp

namespace Launch

variable {o : Launch} {files : Files} {host : Option Architecture} {artifact : Path}
  {i : Invocation}

theorem checkFirmware_eq_ok_iff :
    o.checkFirmware files = .ok () ↔
      ∀ path, o.profile.firmwarePath o.projectDir = some path → files.isFile path = true := by
  rw [checkFirmware]
  cases o.profile.firmwarePath o.projectDir with
  | none => simp
  | some path => simp

theorem plan_eq_ok_iff :
    o.plan files host artifact = .ok i ↔
      o.checkFirmware files = .ok () ∧
      ∃ w, Wiring.serve files o.profile artifact = .ok w ∧
        o.profile.checkHost host = .ok () ∧
        i = ⟨o.emulatorProgram,
          Invocation.machineArgs o.profile (o.profile.firmwarePath o.projectDir) w⟩ := by
  have hofProfile (w : Wiring) :
      Invocation.ofProfile o.profile o.emulatorProgram (o.profile.firmwarePath o.projectDir) w
          host = .ok i ↔
        o.profile.checkHost host = .ok () ∧
        i = ⟨o.emulatorProgram,
          Invocation.machineArgs o.profile (o.profile.firmwarePath o.projectDir) w⟩ := by
    rw [Invocation.ofProfile]
    cases o.profile.checkHost host with
    | error cause => simp
    | ok _ => simp [eq_comm]
  simp only [plan, bind_eq_ok, hofProfile]
  exact ⟨fun ⟨_, hfirmware, h⟩ => ⟨hfirmware, h⟩, fun ⟨hfirmware, h⟩ => ⟨(), hfirmware, h⟩⟩

/-- A plan is made if the firmware that the profile names is a file, the image is a file whose name
is a text without commas, and the host can help as it is asked to. The emulator then reads in its
arguments what the profile says. -/
theorem plan_succeeds_iff_and_describes (o : Launch) (files : Files) (host : Option Architecture)
    (artifact : Path) :
    ((∃ i, o.plan files host artifact = .ok i) ↔
      (∀ path, o.profile.firmwarePath o.projectDir = some path → files.isFile path = true) ∧
      files.isFile artifact = true ∧
      (∃ name : String, artifact.fileName? = some (.ofString name) ∧ ',' ∉ name.toList) ∧
      (o.profile.acceleration = none ∨ host = some o.profile.architecture)) ∧
    ∀ i, o.plan files host artifact = .ok i →
      ∃ given, Invocation.readOptions i.args = some given ∧
        Invocation.Describes given o.profile (o.profile.firmwarePath o.projectDir) := by
  refine ⟨⟨?_, ?_⟩, ?_⟩
  · rintro ⟨i, hi⟩
    obtain ⟨hfirmware, w, hw, hhost, -⟩ := plan_eq_ok_iff.mp hi
    obtain ⟨hfile, hname⟩ := Wiring.exists_serve_eq_ok_iff.mp ⟨w, hw⟩
    exact ⟨checkFirmware_eq_ok_iff.mp hfirmware, hfile, hname, Profile.checkHost_eq_ok_iff.mp hhost⟩
  · rintro ⟨hfirmware, hfile, hname, hhost⟩
    obtain ⟨w, hw⟩ := Wiring.exists_serve_eq_ok_iff.mpr ⟨hfile, hname⟩
    exact ⟨_, plan_eq_ok_iff.mpr ⟨checkFirmware_eq_ok_iff.mpr hfirmware, w, hw,
      Profile.checkHost_eq_ok_iff.mpr hhost, rfl⟩⟩
  · intro i hi
    obtain ⟨-, w, hw, -, rfl⟩ := plan_eq_ok_iff.mp hi
    obtain ⟨-, -, -, hdevice, -⟩ := Wiring.serve_eq_ok hw
    exact ⟨_, Invocation.readOptions_machineArgs _ _ w, Invocation.describes_used_table hdevice⟩

/-- The names of machine and processor look like options. -/
theorem plan_succeeds_iff_and_describes_lookalike :
    let p : Profile :=
      { Profile.x86_64 with
        machine := some "-bios", cpuModel := some "-nographic", acceleration := none,
        firmware := ⟨.ovmf, some (.ofString "-m")⟩ }
    let o := Launch.ofProfile p (.default (.default (.ofString "/")))
    let files : Files :=
      ⟨[([.ofString "boot.efi"], .file [] false), ([.ofString "-m"], .file [] false)], []⟩
    ∃ i given, o.plan files none (.ofString "/boot.efi") = .ok i ∧
      Invocation.readOptions i.args = some given ∧
      Invocation.Describes given p (some (.ofString "/-m")) := by
  intro p o files
  obtain ⟨hiff, hdescribes⟩ := plan_succeeds_iff_and_describes o files none (.ofString "/boot.efi")
  obtain ⟨i, hi⟩ := hiff.mpr ⟨fun path hpath => Option.some.inj hpath ▸ by decide +kernel,
    by decide +kernel, ⟨"boot.efi", by decide +kernel, by decide⟩, .inl rfl⟩
  obtain ⟨given, hread, hgiven⟩ := hdescribes i hi
  exact ⟨i, given, hi, hread, hgiven⟩

end Launch

end PxeLaunch
