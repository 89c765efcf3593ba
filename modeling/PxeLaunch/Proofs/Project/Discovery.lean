import PxeLaunch.Proofs.Path.Ancestors
import PxeLaunch.Proofs.Project.Scaffold
import PxeLaunch.Proofs.Text.Strict

/-!
Finding a project from a folder inside it. Main statement: of the folder and those around it, the
innermost one that has a manifest is the project. What is wrong with its manifest is an error, even
if there is a better one further out.
-/

set_option autoImplicit false

namespace PxeLaunch.Project

open PxeLaunch.Path (follow)

/-- Whether a folder has a file with the name of the manifest. -/
def HasManifest (files : Files) (dir : Path) : Prop :=
  files.isFile (dir.joinText Manifest.fileName) = true

/-- Whether that file is text, and what it says as a manifest. -/
def Says (files : Files) (dir : Path) (m : Manifest) : Prop :=
  ∃ text, files.read (dir.joinText Manifest.fileName) = .ok (.ofString text) ∧
    Manifest.ofToml text = .ok m

/-- Whether a folder is the innermost one with such a file, of a folder and those around it. -/
structure IsNearest (files : Files) (start dir : Path) : Prop where
  around : dir ∈ start.ancestors
  has : HasManifest files dir
  innermost : ∀ other ∈ start.ancestors, HasManifest files other → other.steps <+: dir.steps

variable {files : Files} {start dir : Path} {m : Manifest}

/-! ### The manifest of a folder -/

theorem readText_eq_ok {p : Path} {text : String} :
    files.readText p = .ok text ↔ files.read p = .ok (.ofString text) := by
  rw [Files.readText, bind_eq_ok]
  constructor
  · rintro ⟨content, hread, hdecode⟩
    split at hdecode
    · next hsome =>
      obtain rfl := Except.ok.inj hdecode
      rw [hread, Utf8.decode?_eq_some_iff.mp hsome]
    · cases hdecode
  · intro hread
    exact ⟨_, hread, by rw [Utf8.decode?_ofString]⟩

theorem readManifest_eq_ok :
    readManifest files (dir.joinText Manifest.fileName) = .ok m ↔ Says files dir m := by
  simp only [readManifest, bind_eq_ok, ProjectError.ofSystem, mapError_eq_ok, readText_eq_ok, Says]

private theorem hasManifest_iff (hf : files.IsTree) (hstraight : dir.IsStraight)
    (hfits : (dir.joinText Manifest.fileName).Fits) :
    HasManifest files dir ↔ files.HoldsFile (placeOf files dir Manifest.fileName) := by
  constructor
  · intro hhas
    obtain ⟨key, hlocate, hfile⟩ := Files.isFile_iff.mp hhas
    rwa [Path.eq_follow_of_locate hlocate, follow_joinText files dir mem_manifest] at hfile
  · rintro ⟨content, access, hplace⟩
    have hfolder := hf.parent _ _ hplace
    rw [placeOf, List.dropLast_concat] at hfolder
    have hlocate :=
      locate_joinText hf mem_manifest hfits (hf.folder_of_isStraight hstraight hfolder)
    exact Files.isFile_iff.mpr ⟨_, hlocate, content, access, hplace⟩

/-! ### The first folder that has one -/

theorem findIn_cons_of_has (hhas : HasManifest files dir) (dirs : List Path) :
    findIn files (dir :: dirs) =
      (readManifest files (dir.joinText Manifest.fileName)).map fun m => some ⟨dir, some m⟩ := by
  have hfile : files.isFile (dir.joinText Manifest.fileName) = true := hhas
  rw [findIn, if_pos hfile]
  cases readManifest files (dir.joinText Manifest.fileName) <;> rfl

private theorem findIn_cons_of_not_has (hnot : ¬HasManifest files dir) (dirs : List Path) :
    findIn files (dir :: dirs) = findIn files dirs := by
  have hfile : ¬files.isFile (dir.joinText Manifest.fileName) = true := hnot
  rw [findIn, if_neg hfile]

private theorem findIn_cases (files : Files) (dirs : List Path) :
    (∀ dir ∈ dirs, ¬HasManifest files dir) ∧ findIn files dirs = .ok none ∨
      ∃ front dir rest, dirs = front ++ dir :: rest ∧ (∀ d ∈ front, ¬HasManifest files d) ∧
        HasManifest files dir ∧
          findIn files dirs =
            (readManifest files (dir.joinText Manifest.fileName)).map
              fun m => some ⟨dir, some m⟩ := by
  induction dirs with
  | nil => exact .inl ⟨by simp, rfl⟩
  | cons d dirs ih =>
    by_cases hd : HasManifest files d
    · exact .inr ⟨[], d, dirs, rfl, by simp, hd, findIn_cons_of_has hd dirs⟩
    · rw [findIn_cons_of_not_has hd]
      rcases ih with ⟨hnone, hfind⟩ | ⟨front, dir, rest, rfl, hfront, hdir, hfind⟩
      · exact .inl ⟨List.forall_mem_cons.mpr ⟨hd, hnone⟩, hfind⟩
      · exact .inr ⟨d :: front, dir, rest, rfl, List.forall_mem_cons.mpr ⟨hd, hfront⟩, hdir, hfind⟩

private theorem isNearest_iff (habsolute : start.isAbsolute = true) {front rest : List Path}
    {first : Path} (hsplit : start.ancestors = front ++ first :: rest)
    (hfront : ∀ d ∈ front, ¬HasManifest files d) (hfirst : HasManifest files first) :
    IsNearest files start dir ↔ dir = first := by
  have hpairwise := Path.pairwise_ancestors habsolute
  rw [hsplit, List.pairwise_append, List.pairwise_cons] at hpairwise
  obtain ⟨-, ⟨hrest, -⟩, -⟩ := hpairwise
  constructor
  · rintro ⟨hmem, hhas, hinnermost⟩
    rw [hsplit] at hmem hinnermost
    rcases List.mem_append.mp hmem with hmem | hmem
    · exact absurd hhas (hfront dir hmem)
    rcases List.mem_cons.mp hmem with rfl | hmem
    · rfl
    · have hle := (hinnermost first (by simp) hfirst).length_le
      exact absurd (hrest dir hmem).2 (Nat.not_lt.mpr hle)
  · rintro rfl
    refine ⟨by simp [hsplit], hfirst, fun other hother hhas => ?_⟩
    rw [hsplit] at hother
    rcases List.mem_append.mp hother with hother | hother
    · exact absurd hhas (hfront other hother)
    rcases List.mem_cons.mp hother with rfl | hother
    · exact List.prefix_rfl
    · exact (hrest other hother).1

/-- The search goes through a folder and the folders around it, down to the root. It finds the
project in the innermost one that has a manifest, if that can be used, and nothing if none of them
has one. -/
theorem findIn_ancestors_by_nearest (files : Files) (habsolute : start.isAbsolute = true)
    (hup : .up ∉ start.components) :
    (start.ancestors.map fun dir => follow files.here dir.steps) =
        (follow files.here start.steps).inits.reverse ∧
      (files.IsTree → ∀ dir ∈ start.ancestors, (dir.joinText Manifest.fileName).Fits →
        (HasManifest files dir ↔ files.HoldsFile (placeOf files dir Manifest.fileName))) ∧
      (∀ dir m, findIn files start.ancestors = .ok (some ⟨dir, some m⟩) ↔
        IsNearest files start dir ∧ Says files dir m) ∧
      ((∃ e, findIn files start.ancestors = .error e) ↔
        ∃ dir, IsNearest files start dir ∧ ∀ m, ¬Says files dir m) ∧
      (findIn files start.ancestors = .ok none ↔
        ∀ dir ∈ start.ancestors, ¬HasManifest files dir) ∧
      ∀ dir, findIn files start.ancestors ≠ .ok (some ⟨dir, none⟩) := by
  refine ⟨Path.map_follow_ancestors files.here habsolute hup, fun hf dir hdir hfits => ?_, ?_⟩
  · have hbeginning := (Path.isPrefix_of_mem_ancestors habsolute hdir).subset
    refine hasManifest_iff hf (Path.isStraight_of_not_mem fun hmem => ?_) hfits
    exact Path.not_mem_steps hup (hbeginning hmem)
  rcases findIn_cases files start.ancestors with
    ⟨hnone, hfind⟩ | ⟨front, first, rest, hsplit, hfront, hfirst, hfind⟩
  · have hnearest (dir : Path) : ¬IsNearest files start dir := fun h => hnone dir h.around h.has
    rw [hfind]
    exact ⟨by simp [hnearest], by simp [hnearest], by simpa using hnone, by simp⟩
  · have hnearest (dir : Path) : IsNearest files start dir ↔ dir = first :=
      isNearest_iff habsolute hsplit hfront hfirst
    have hsome : ∃ dir ∈ start.ancestors, HasManifest files dir :=
      ⟨first, by simp [hsplit], hfirst⟩
    simp only [hfind, hnearest, ← readManifest_eq_ok]
    refine ⟨fun dir m => ?_, ?_, ?_, fun dir heq => ?_⟩
    · rw [map_eq_ok]
      constructor
      · rintro ⟨m', hread, heq⟩
        cases heq
        exact ⟨rfl, hread⟩
      · rintro ⟨rfl, hread⟩
        exact ⟨m, hread, rfl⟩
    · cases hread : readManifest files (first.joinText Manifest.fileName) <;>
        simp [Except.map, hread]
    · refine iff_of_false (fun heq => ?_) (by simpa using hsome)
      obtain ⟨m, -, heq⟩ := map_eq_ok.mp heq
      cases heq
    · obtain ⟨m, -, heq⟩ := map_eq_ok.mp heq
      cases heq

/-- A folder with a manifest, in which one folder has a manifest that is no text, and another one
that cannot be opened. -/
def nestedFiles : Files where
  entries := [
    ([.ofString "work"], .folder),
    ([.ofString "work", .ofString "netboot.toml"],
      .file (.ofString "[project]\nname = \"outer\"\n") false),
    ([.ofString "work", .ofString "inner"], .folder),
    ([.ofString "work", .ofString "inner", .ofString "netboot.toml"], .file [0xFF] false),
    ([.ofString "work", .ofString "locked"], .folder),
    ([.ofString "work", .ofString "locked", .ofString "netboot.toml"],
      .file (.ofString "[project]\nname = \"locked\"\n") ⟨false, some .denied⟩)]
  here := []

/-- From a folder that is not there, the outer manifest is found; from the two folders inside it is
not, as the manifest in either folder comes first. -/
theorem findIn_ancestors_by_nearest_nested :
    findIn nestedFiles (Path.ofString "/work//other/.").ancestors =
        .ok (some ⟨.ofString "/work", some ⟨"outer", .blank, [], []⟩⟩) ∧
      (∃ e, findIn nestedFiles (Path.ofString "/work/inner").ancestors = .error e) ∧
      ∃ e, findIn nestedFiles (Path.ofString "/work/locked").ancestors = .error e := by
  have hfails {dir : Path} (habsolute : dir.isAbsolute = true) (hup : .up ∉ dir.components)
      (hnearest : IsNearest nestedFiles dir dir) (hunreadable : ∀ m, ¬Says nestedFiles dir m) :
      ∃ e, findIn nestedFiles dir.ancestors = .error e :=
    (findIn_ancestors_by_nearest nestedFiles habsolute hup).2.2.2.1.mpr ⟨dir, hnearest, hunreadable⟩
  refine ⟨?_, ?_, ?_⟩
  · have habsolute : (Path.ofString "/work//other/.").isAbsolute = true := rfl
    have hfind := findIn_ancestors_by_nearest nestedFiles habsolute (by decide +kernel)
    refine (hfind.2.2.1 (.ofString "/work") _).mpr ⟨⟨?_, rfl, ?_⟩, ?_⟩
    · decide +kernel
    · simp only [HasManifest]
      decide +kernel
    · refine ⟨"[project]\nname = \"outer\"\n", rfl, ?_⟩
      rw [← toOption_eq_some]
      decide +kernel
  · refine hfails rfl (by decide +kernel) ⟨?_, rfl, ?_⟩ ?_
    · decide +kernel
    · simp only [HasManifest]
      decide +kernel
    · rintro m ⟨text, hread, -⟩
      have hbytes : [0xFF] = Bytes.ofString text := Except.ok.inj hread
      have hdecode : Utf8.decode? [0xFF] = some text := Utf8.decode?_eq_some_iff.mpr hbytes
      cases hdecode
  · refine hfails rfl (by decide +kernel) ⟨?_, rfl, ?_⟩ ?_
    · decide +kernel
    · simp only [HasManifest]
      decide +kernel
    · rintro m ⟨text, hread, -⟩
      cases hread

end PxeLaunch.Project
