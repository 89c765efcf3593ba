import PxeLaunch.Proofs.Project.Discovery
import PxeLaunch.Proofs.Project.Template

/-!
A project that has just been started. Main statement: its manifest is the one to start from, and the
project that is found in its folder is the one that was meant exactly if each character of the name
stands for itself between quotes. With any other name the project cannot be used or has another
name.
-/

set_option autoImplicit false

namespace PxeLaunch.Project

open PxeLaunch.Path (way)

variable {files made after : Files} {name : String}

/-! ### The manifest that was written -/

private theorem takeSteps_cons_eq_ok {activity : String} {step : Step}
    {rest : List (String × Step)} :
    takeSteps files ((activity, step) :: rest) = (after, .ok ()) ↔
      ∃ next, step.take files = (next, .ok ()) ∧ takeSteps next rest = (after, .ok ()) := by
  rw [takeSteps_cons]
  rcases step.take files with ⟨next, e | ⟨⟩⟩
  · simp [ProjectError.ofSystem, Except.mapError]
  · simp

private theorem takeSteps_nil (files : Files) : takeSteps files [] = (files, .ok ()) := rfl

private theorem take_folders (files : Files) (p : Path) :
    (Step.folders p).take files = files.makeFolders p := rfl

private theorem take_file_eq_ok {p : Path} {content : Bytes} :
    (Step.file p content).take files = (after, .ok ()) ↔ files.write p content = .ok after := by
  rw [Step.take]
  cases files.write p content <;> simp

private theorem create_eq_ok :
    create files name = (after, .ok ()) ↔ files.contains (.ofString name) = false ∧
      ∃ room made written,
        files.makeFolders ((Path.ofString name).joinText Profile.folderName) = (room, .ok ()) ∧
        room.makeFolders ((Path.ofString name).joinText "firmware") = (made, .ok ()) ∧
        made.write ((Path.ofString name).joinText Manifest.fileName)
          (.ofString (Manifest.template name)) = .ok written ∧
        written.write ((Path.ofString name).joinText ".gitignore") (.ofString ignored) =
          .ok after := by
  rw [create]
  cases files.contains (.ofString name) with
  | true => simp
  | false =>
    simp only [Bool.false_eq_true, if_false, startingSteps, takeSteps_cons_eq_ok, takeSteps_nil,
      take_folders, take_file_eq_ok, Prod.mk.injEq, and_true, exists_eq_right, true_and,
      exists_and_left]

private theorem exists_written_of_create (hf : files.IsTree)
    (h : create files name = (after, .ok ())) :
    ∃ written : Files,
      WritesInto files (.ofString name) ∧ written.IsTree ∧ written.here = files.here ∧
      (∀ k ∈ way files.here (Path.ofString name).steps, written.entry? k = some .folder) ∧
      (∃ x : Bool, written.entry? (placeOf files (.ofString name) Manifest.fileName) =
        some (.file (.ofString (Manifest.template name)) x)) ∧
      written.write ((Path.ofString name).joinText ".gitignore") (.ofString ignored) =
        .ok after := by
  obtain ⟨hmissing, room, made, written, hroom, hmade, hwrite, hignored⟩ := create_eq_ok.mp h
  obtain ⟨key, hlocate, -⟩ := bind_eq_ok.mp hwrite
  rcases Files.write_cases hlocate (.ofString (Manifest.template name)) with
    ⟨-, e, herror⟩ | ⟨htakes, -⟩
  · cases hwrite.symm.trans herror
  have hinto := writesInto_of_madeRoom hf hmissing hroom hmade hlocate htakes
  obtain ⟨room', made', hroom', hmade', hmadeRoom⟩ := hinto.exists_madeRoom hf
  cases hroom.symm.trans hroom'
  cases hmade.symm.trans hmade'
  obtain ⟨written', htake, htree, hhere, hway, hmanifest, -⟩ :=
    hmadeRoom.exists_written hinto (.ofString (Manifest.template name))
  cases hwrite.symm.trans (take_file_eq_ok.mp htake)
  exact ⟨written, hinto, htree, hhere, hway, hmanifest, hignored⟩

private theorem get_manifest_of_create (hf : files.IsTree)
    (h : create files name = (after, .ok ())) :
    ∃ x : Bool, after.get ((Path.ofString name).joinText Manifest.fileName) =
      .ok (.file (.ofString (Manifest.template name)) x) := by
  obtain ⟨written, hinto, htree, hhere, hway, ⟨x, hmanifest⟩, hwrite⟩ :=
    exists_written_of_create hf h
  have hplace : written.locate ((Path.ofString name).joinText ".gitignore") =
      .ok (placeOf files (.ofString name) ".gitignore") := by
    rw [locate_joinText htree mem_ignored hinto.fits (hhere ▸ hway), placeOf_eq hhere]
  obtain ⟨htree', hhere', hway', hentry⟩ : after.IsTree ∧ after.here = files.here ∧
      (∀ k ∈ way files.here (Path.ofString name).steps, after.entry? k = some .folder) ∧
      after.entry? (placeOf files (.ofString name) Manifest.fileName) =
        some (.file (.ofString (Manifest.template name)) x) := by
    rcases Files.write_cases hplace (.ofString ignored) with ⟨-, e, herror⟩ | ⟨htakes, y, -, hput⟩
    · cases hwrite.symm.trans herror
    obtain rfl := Except.ok.inj (hwrite.symm.trans hput)
    have hapart : placeOf files (.ofString name) Manifest.fileName ≠
        placeOf files (.ofString name) ".gitignore" := fun heq =>
      absurd (placeOf_injective heq) (by decide)
    refine ⟨htree.put_of_locate hplace htakes.1 _, hhere,
      fun k hk => Files.folder_put htakes.1 _ (hway k hk), ?_⟩
    rw [Files.entry?_put written (Files.ne_nil_of_entry?_ne htakes.1), if_neg hapart, hmanifest]
  refine ⟨x, ?_⟩
  rw [Files.get, locate_joinText htree' mem_manifest hinto.fits (hhere' ▸ hway'), ok_bind,
    placeOf_eq hhere', hentry]

/-! ### The project that is found -/

private theorem discover_eq_ok_of_create (hf : files.IsTree)
    (h : create files name = (after, .ok ()))
    {project : Project} : discover after (.ofString name) = .ok project ↔
      ∃ m, Manifest.ofToml (Manifest.template name) = .ok m ∧
        project = ⟨.ofString name, some m⟩ := by
  obtain ⟨x, hget⟩ := get_manifest_of_create hf h
  have hhas : HasManifest after (.ofString name) := by
    rw [HasManifest, Files.isFile, hget]
  have hread : after.read ((Path.ofString name).joinText Manifest.fileName) =
      .ok (.ofString (Manifest.template name)) := by
    rw [Files.read, hget]
    rfl
  have hsays (m : Manifest) : Says after (.ofString name) m ↔
      Manifest.ofToml (Manifest.template name) = .ok m := by
    constructor
    · rintro ⟨text, htext, hm⟩
      rwa [Bytes.ofString_injective (Except.ok.inj (hread.symm.trans htext))]
    · exact fun hm => ⟨_, hread, hm⟩
  obtain ⟨around, haround⟩ := Path.exists_ancestors_eq_cons (.ofString name)
  simp only [discover, haround, findIn_cons_of_has hhas, bind_eq_ok, pure_eq_ok, map_eq_ok,
    readManifest_eq_ok, hsays]
  constructor
  · rintro ⟨_, ⟨m, hm, rfl⟩, rfl⟩
    exact ⟨m, hm, rfl⟩
  · rintro ⟨m, hm, rfl⟩
    exact ⟨_, ⟨m, hm, rfl⟩, rfl⟩

/-- A project that has been started has the manifest to start from in its folder. What is found
there is the project that was meant, with its name and the usual toolchain and nothing else, exactly
if the name has no quote, no backslash and no control character but tabs. With any other name the
manifest cannot be used, or the project has another name. -/
theorem discover_create_iff_isBasic (hf : files.IsTree) (h : (create files name).2 = .ok ()) :
    (create files name).1.readText ((Path.ofString name).joinText Manifest.fileName) =
        .ok (Manifest.template name) ∧
      (discover (create files name).1 (.ofString name) =
          .ok ⟨.ofString name, some (Manifest.fresh name)⟩ ↔
        ∀ c ∈ name.toList, Toml.Text.isBasic c = true) ∧
      ∀ project, discover (create files name).1 (.ofString name) = .ok project →
        ∃ m, project = ⟨.ofString name, some m⟩ ∧
          (m.projectName = name ↔ ∀ c ∈ name.toList, Toml.Text.isBasic c = true) := by
  have hcreate : create files name = ((create files name).1, .ok ()) := Prod.ext rfl h
  refine ⟨?_, ?_, fun project hproject => ?_⟩
  · obtain ⟨x, hget⟩ := get_manifest_of_create hf hcreate
    rw [readText_eq_ok, Files.read, hget]
    rfl
  · rw [discover_eq_ok_of_create hf hcreate, ← Manifest.ofToml_template_eq_fresh_iff]
    constructor
    · rintro ⟨m, hm, heq⟩
      obtain rfl : Manifest.fresh name = m := by simpa using heq
      exact hm
    · exact fun hm => ⟨_, hm, rfl⟩
  · obtain ⟨m, hm, rfl⟩ := (discover_eq_ok_of_create hf hcreate).mp hproject
    exact ⟨m, rfl, Manifest.projectName_eq_iff_of_ofToml_template hm⟩

theorem discover_create_iff_isBasic_started :
    startedFiles.IsTree ∧ (create startedFiles "neues gerät").2 = .ok () ∧
      discover (create startedFiles "neues gerät").1 (.ofString "neues gerät") =
        .ok ⟨.ofString "neues gerät", some (Manifest.fresh "neues gerät")⟩ := by
  have hcreate : (create startedFiles "neues gerät").2 = .ok () := by
    rw [← toOption_eq_some]
    decide
  obtain ⟨-, hdiscover, -⟩ := discover_create_iff_isBasic isTree_startedFiles hcreate
  have hname : "neues gerät".toList.all Toml.Text.isBasic = true := by decide
  exact ⟨isTree_startedFiles, hcreate, hdiscover.mpr (List.all_eq_true.mp hname)⟩

/-- With a quote in its name a project is started whose manifest cannot be used, and with a
backslash in its name one that is found under another name. -/
theorem discover_create_quoted_started :
    (create startedFiles "a\"b").2 = .ok () ∧
      (∀ project, discover (create startedFiles "a\"b").1 (.ofString "a\"b") ≠ .ok project) ∧
      (create startedFiles "a\\tb").2 = .ok () ∧
      discover (create startedFiles "a\\tb").1 (.ofString "a\\tb") =
        .ok ⟨.ofString "a\\tb", some (Manifest.fresh "a\tb")⟩ := by
  have hcreate : ∀ name ∈ ["a\"b", "a\\tb"], (create startedFiles name).2.toOption = some () := by
    decide
  have hquote := toOption_eq_some.mp (hcreate "a\"b" (by simp))
  have hslash := toOption_eq_some.mp (hcreate "a\\tb" (by simp))
  refine ⟨hquote, fun project hproject => ?_, hslash, ?_⟩
  · obtain ⟨m, hm, -⟩ :=
      (discover_eq_ok_of_create isTree_startedFiles (Prod.ext rfl hquote)).mp hproject
    cases hm.symm.trans (Manifest.ofToml_template_of_dropLineEnd rfl rfl)
  · exact (discover_eq_ok_of_create isTree_startedFiles (Prod.ext rfl hslash)).mpr
      ⟨_, Manifest.ofToml_template_of_read? rfl, rfl⟩

end PxeLaunch.Project
