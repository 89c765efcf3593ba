import PxeLaunch.Launch.Wiring
import PxeLaunch.Profile.Builtin
import PxeLaunch.Proofs.Result
import PxeLaunch.Proofs.Text.Inside

/-!
The settings of the guest's network, as the emulator reads them. The emulator goes through an option
from left to right, where a comma ends a setting and two commas are one that belongs to it. Main
statement: it reads the five settings that were meant, unless the folder that is served is no text
and has a comma in it, since commas are written twice in text only.
-/

set_option autoImplicit false

namespace PxeLaunch.Wiring

/-! ### Reading and writing settings -/

def prepend (b : UInt8) : List Bytes → List Bytes
  | [] => [[b]]
  | s :: ss => (b :: s) :: ss

/-- The settings that the emulator reads in an option. -/
def settings : Bytes → List Bytes
  | [] => [[]]
  | [b] => if b = Bytes.comma then [[], []] else [[b]]
  | a :: b :: rest =>
    if a = Bytes.comma then
      if b = Bytes.comma then prepend Bytes.comma (settings rest) else [] :: settings (b :: rest)
    else prepend a (settings (b :: rest))

/-- The option in which settings are written with their commas doubled. -/
def spelled : List Bytes → Bytes
  | [] => []
  | [s] => doubleCommas s
  | s :: ss => doubleCommas s ++ Bytes.comma :: spelled ss

variable {s t rest : Bytes} {ss : List Bytes} {b : UInt8}

@[simp] theorem doubleCommas_nil : doubleCommas [] = [] := rfl

private theorem doubleCommas_cons (b : UInt8) (s : Bytes) :
    doubleCommas (b :: s) =
      (if b = Bytes.comma then [Bytes.comma, Bytes.comma] else [b]) ++ doubleCommas s := by
  rw [doubleCommas, List.flatMap_cons]
  split
  · next h => rw [h]; rfl
  · rfl

private theorem doubleCommas_append (s t : Bytes) :
    doubleCommas (s ++ t) = doubleCommas s ++ doubleCommas t := List.flatMap_append

private theorem length_doubleCommas (s : Bytes) :
    (doubleCommas s).length = s.length + s.count Bytes.comma := by
  induction s with
  | nil => rfl
  | cons b s ih =>
    rw [doubleCommas_cons, List.length_append, ih]
    by_cases hb : b = Bytes.comma
    · simp [hb]
      omega
    · simp [hb]
      omega

private theorem doubleCommas_eq_self_iff : doubleCommas s = s ↔ Bytes.comma ∉ s := by
  constructor
  · intro h
    have hlength := length_doubleCommas s
    rw [h] at hlength
    exact List.count_eq_zero.mp (by omega)
  · intro h
    induction s with
    | nil => rfl
    | cons b s ih =>
      obtain ⟨hb, hs⟩ := not_or.mp (mt List.mem_cons.mpr h)
      rw [doubleCommas_cons, if_neg (Ne.symm hb), ih hs]
      rfl

private theorem settings_cons_of_ne (hb : b ≠ Bytes.comma) (rest : Bytes) :
    settings (b :: rest) = prepend b (settings rest) := by
  cases rest with
  | nil => simp [settings, hb, prepend]
  | cons a rest => simp [settings, hb]

private theorem settings_two_commas (rest : Bytes) :
    settings (Bytes.comma :: Bytes.comma :: rest) = prepend Bytes.comma (settings rest) := by
  simp [settings]

private theorem settings_comma (hrest : rest.head? ≠ some Bytes.comma) :
    settings (Bytes.comma :: rest) = [] :: settings rest := by
  cases rest with
  | nil => simp [settings]
  | cons a rest =>
    have ha : a ≠ Bytes.comma := by simpa using hrest
    simp [settings, ha]

private theorem prepend_ne_nil (b : UInt8) (ss : List Bytes) : prepend b ss ≠ [] := by
  cases ss <;> simp [prepend]

private theorem settings_ne_nil (s : Bytes) : settings s ≠ [] := by
  fun_cases settings s with
  | case1 | case2 | case3 | case5 => simp
  | case4 | case6 => exact prepend_ne_nil _ _

private theorem settings_doubleCommas_cons (b : UInt8) (s rest : Bytes) :
    settings (doubleCommas (b :: s) ++ rest) = prepend b (settings (doubleCommas s ++ rest)) := by
  rw [doubleCommas_cons]
  split
  · next h =>
    rw [h]
    exact settings_two_commas _
  · next h => exact settings_cons_of_ne h _

theorem settings_doubleCommas_append (hrest : rest.head? ≠ some Bytes.comma) (s : Bytes) :
    settings (doubleCommas s ++ Bytes.comma :: rest) = s :: settings rest := by
  induction s with
  | nil => exact settings_comma hrest
  | cons b s ih => rw [settings_doubleCommas_cons, ih, prepend]

private theorem settings_doubleCommas (s : Bytes) : settings (doubleCommas s) = [s] := by
  induction s with
  | nil => rfl
  | cons b s ih =>
    have hcons := settings_doubleCommas_cons b s []
    rw [List.append_nil, List.append_nil, ih] at hcons
    exact hcons

private theorem spelled_cons (s : Bytes) (hss : ss ≠ []) :
    spelled (s :: ss) = doubleCommas s ++ Bytes.comma :: spelled ss := by
  cases ss with
  | nil => exact absurd rfl hss
  | cons t ss => rfl

private theorem spelled_prepend (b : UInt8) (hss : ss ≠ []) :
    spelled (prepend b ss) = doubleCommas [b] ++ spelled ss := by
  cases ss with
  | nil => exact absurd rfl hss
  | cons s ss =>
    have hcons : doubleCommas (b :: s) = doubleCommas [b] ++ doubleCommas s := by
      simp [doubleCommas_cons]
    cases ss with
    | nil => exact hcons
    | cons t ss => simp [prepend, spelled, hcons]

private theorem spelled_settings (s : Bytes) : spelled (settings s) = s := by
  fun_induction settings s with
  | case1 => rfl
  | case2 => rfl
  | case3 b hb => simp [spelled, doubleCommas_cons, hb]
  | case4 rest ih =>
    rw [spelled_prepend _ (settings_ne_nil _), ih]
    rfl
  | case5 b rest hb ih =>
    rw [spelled_cons [] (settings_ne_nil _), ih]
    rfl
  | case6 a b rest ha ih =>
    rw [spelled_prepend _ (settings_ne_nil _), ih]
    simp [doubleCommas_cons, ha]

/-- Settings are read as they were written, if all but the first begin with something other than a
comma. -/
private theorem settings_spelled (hss : ss ≠ [])
    (htail : ∀ t ∈ ss.tail, ∃ b, t.head? = some b ∧ b ≠ Bytes.comma) :
    settings (spelled ss) = ss := by
  induction ss with
  | nil => exact absurd rfl hss
  | cons s ss ih =>
    cases ss with
    | nil => exact settings_doubleCommas s
    | cons t ss =>
      have hhead : (spelled (t :: ss)).head? ≠ some Bytes.comma := by
        obtain ⟨b, hb, hne⟩ := htail t List.mem_cons_self
        obtain ⟨more, rfl⟩ := List.head?_eq_some_iff.mp hb
        cases ss <;> simp [spelled, doubleCommas_cons, hne]
      rw [spelled_cons s (by simp), settings_doubleCommas_append hhead,
        ih (by simp) fun u hu => htail u (List.mem_of_mem_tail hu)]

private theorem settings_eq_iff (hss : ss ≠ [])
    (htail : ∀ t ∈ ss.tail, ∃ b, t.head? = some b ∧ b ≠ Bytes.comma) :
    settings s = ss ↔ s = spelled ss :=
  ⟨fun h => h ▸ (spelled_settings s).symm, fun h => h ▸ settings_spelled hss htail⟩

/-! ### The network of an image -/

theorem serve_eq_ok {files : Files} {p : Profile} {artifact : Path} {w : Wiring}
    (h : serve files p artifact = .ok w) :
    files.isFile artifact = true ∧ artifact.fileName?.bind Utf8.decode? = some w.bootFile ∧
      ',' ∉ w.bootFile.toList ∧ w.device = p.device ∧
      w.tftpRoot = match artifact.parent? with
        | some dir => if dir.bytes.isEmpty then Path.ofString "." else dir
        | none => Path.ofString "." := by
  unfold serve at h
  split at h
  · simp at h
  · next hfile =>
    split at h
    · simp at h
    · next name hname =>
      split at h
      · simp at h
      · next hcomma =>
        rw [← Except.ok.inj h]
        exact ⟨by simpa using hfile, hname, by simpa using hcomma, rfl, rfl⟩

/-- The settings that the emulator is meant to read for the network. -/
def meant (w : Wiring) : List Bytes :=
  [.ofString "user", .ofString "id=net0", .ofString "restrict=on",
    .ofString "tftp=" ++ w.tftpRoot.bytes, .ofString "bootfile=" ++ .ofString w.bootFile]

private theorem comma_not_mem_ofString {name : String} (h : ',' ∉ name.toList) :
    Bytes.comma ∉ Bytes.ofString name :=
  fun hmem => h (Utf8.ofNat_mem_of_mem_ofChars (by decide) hmem)

def opening : Bytes := .ofString "user,id=net0,restrict=on,tftp="

def closing (w : Wiring) : Bytes :=
  Bytes.comma :: (Bytes.ofString "bootfile=" ++ Bytes.ofString w.bootFile)

theorem netdevSpec_eq (w : Wiring) :
    w.netdevSpec = opening ++ (escapePath w.tftpRoot ++ w.closing) := by
  have hopening :
      s!"user,id={networkId},restrict=on,tftp=" = "user,id=net0,restrict=on,tftp=" := rfl
  have hclosing : Bytes.ofString s!",bootfile={w.bootFile}" = w.closing := by
    rw [closing, Bytes.ofString_append, ← List.cons_append]
    rfl
  rw [netdevSpec, hopening, hclosing, List.append_assoc]
  rfl

private theorem spelled_meant (w : Wiring) (hname : ',' ∉ w.bootFile.toList) :
    spelled w.meant = opening ++ (doubleCommas w.tftpRoot.bytes ++ w.closing) := by
  have hboot : doubleCommas (.ofString w.bootFile) = .ofString w.bootFile :=
    doubleCommas_eq_self_iff.mpr (comma_not_mem_ofString hname)
  have hopening : opening = doubleCommas (.ofString "user") ++ Bytes.comma ::
      (doubleCommas (.ofString "id=net0") ++ Bytes.comma ::
        (doubleCommas (.ofString "restrict=on") ++ Bytes.comma ::
          doubleCommas (.ofString "tftp="))) := by
    decide
  have hbootfile : doubleCommas (.ofString "bootfile=") = .ofString "bootfile=" := by decide
  simp only [meant, spelled, doubleCommas_append, hopening, closing, hboot, hbootfile,
    List.append_assoc, List.cons_append]

/-- The emulator reads the settings that were meant exactly if the folder that is served is text or
has no comma in it. -/
theorem settings_netdevSpec_iff {files : Files} {p : Profile} {artifact : Path} {w : Wiring}
    (h : serve files p artifact = .ok w) :
    settings w.netdevSpec = w.meant ↔
      w.tftpRoot.text?.isSome = true ∨ Bytes.comma ∉ w.tftpRoot.bytes := by
  obtain ⟨-, -, hname, -⟩ := serve_eq_ok h
  have htail : ∀ t ∈ w.meant.tail, ∃ b, t.head? = some b ∧ b ≠ Bytes.comma := by
    simp only [meant, List.tail_cons, List.forall_mem_cons, List.not_mem_nil, false_implies,
      implies_true, and_true]
    exact ⟨⟨_, rfl, by decide⟩, ⟨_, rfl, by decide⟩, ⟨_, rfl, by decide⟩, _, rfl, by decide⟩
  rw [settings_eq_iff (by simp [meant]) htail, spelled_meant w hname, netdevSpec_eq,
    List.append_cancel_left_eq, List.append_cancel_right_eq, escapePath]
  split
  · next htext => simp [htext]
  · next htext =>
    rw [eq_comm, doubleCommas_eq_self_iff]
    simp [htext]

theorem settings_netdevSpec_iff_commas :
    let files : Files := ⟨[([.ofString "a,,b,"], .folder),
      ([.ofString "a,,b,", .ofString "boot.efi"], .file [] false)], []⟩
    let w : Wiring := ⟨.e1000, .ofString "/a,,b,", "boot.efi"⟩
    serve files Profile.x86_64 (.ofString "/a,,b,/boot.efi") = .ok w ∧
      settings w.netdevSpec = w.meant := by
  intro files w
  have hserve : serve files Profile.x86_64 (.ofString "/a,,b,/boot.efi") = .ok w :=
    toOption_eq_some.mp (by decide +kernel)
  exact ⟨hserve, (settings_netdevSpec_iff hserve).mpr (.inl (by decide +kernel))⟩

/-- The name of the folder is no text, and what stands after its comma takes effect. -/
theorem settings_netdevSpec_ne_restrict :
    let folder : Bytes := 0xFF :: Bytes.ofString ",restrict=off"
    let files : Files := ⟨[([folder], .folder), ([folder, Bytes.ofString "b.efi"], .file [] false)],
      []⟩
    let w : Wiring := ⟨.e1000, ⟨folder⟩, "b.efi"⟩
    serve files Profile.x86_64 ⟨folder ++ Bytes.ofString "/b.efi"⟩ = .ok w ∧
      settings w.netdevSpec = [Bytes.ofString "user", Bytes.ofString "id=net0",
        Bytes.ofString "restrict=on", Bytes.ofString "tftp=" ++ [0xFF],
        Bytes.ofString "restrict=off", Bytes.ofString "bootfile=b.efi"] ∧
      settings w.netdevSpec ≠ w.meant := by
  intro folder files w
  exact ⟨toOption_eq_some.mp (by decide +kernel), by decide +kernel, by decide +kernel⟩

end PxeLaunch.Wiring
