import PxeLaunch.Project.Scaffold
import PxeLaunch.Proofs.Host.Folders
import PxeLaunch.Proofs.Text.Utf8

/-!
Starting a project. Whether the folder is there is asked of the path as it is spelled, but what is
written lies where the path leads to once all folders on its way have been made. Main statement:
which files another content takes the place of. For a path that goes up only before it goes down
there are none.
-/

set_option autoImplicit false

namespace PxeLaunch.Project

open PxeLaunch.Path (way follow IsName)

/-- The key of a name in the folder that a path leads to. -/
def placeOf (files : Files) (dir : Path) (name : String) : Key :=
  follow files.here dir.steps ++ [Bytes.ofString name]

/-- Whether a manifest is written when a project is started. The path leads to nothing as long as
folders on its way are missing; no file stands on its way or in the place of a folder that is made;
and a file can be written in the place of the manifest. -/
structure WritesInto (files : Files) (dir : Path) : Prop where
  missing : files.contains dir = false
  fits : (dir.joinText Manifest.fileName).Fits
  no_file : ∀ k ∈ way files.here dir.steps, ¬files.HoldsFile k
  no_profiles : ¬files.HoldsFile (placeOf files dir Profile.folderName)
  no_firmware : ¬files.HoldsFile (placeOf files dir "firmware")
  takes_manifest : files.TakesContent (placeOf files dir Manifest.fileName)
  not_on_way : placeOf files dir Manifest.fileName ∉ way files.here dir.steps

variable {files made after : Files} {dir : Path} {name part : String}

/-! ### Places -/

def contents : List String :=
  [Profile.folderName, "firmware", Manifest.fileName, ".gitignore"]

private theorem mem_profiles : Profile.folderName ∈ contents := .head _

private theorem mem_firmware : "firmware" ∈ contents := .tail _ (.head _)

theorem mem_manifest : Manifest.fileName ∈ contents := .tail _ (.tail _ (.head _))

theorem mem_ignored : ".gitignore" ∈ contents := .tail _ (.tail _ (.tail _ (.head _)))

private theorem isName_of_mem (hpart : part ∈ contents) : IsName (Bytes.ofString part) := by
  revert part
  decide

private theorem fits_of_mem (hpart : part ∈ contents)
    (hfits : (dir.joinText Manifest.fileName).Fits) : (dir.joinText part).Fits := by
  have hlength : ∀ part ∈ contents,
      (Bytes.ofString part).length ≤ (Bytes.ofString Manifest.fileName).length := by
    decide
  exact hfits.join_of_length_le (isName_of_mem mem_manifest) (isName_of_mem hpart)
    (hlength part hpart)

theorem placeOf_injective {other : String} (h : placeOf files dir name = placeOf files dir other) :
    name = other :=
  Bytes.ofString_injective (List.singleton_inj.mp (List.append_cancel_left h))

theorem placeOf_eq (hhere : after.here = files.here) (dir : Path) (name : String) :
    placeOf after dir name = placeOf files dir name := by
  rw [placeOf, placeOf, hhere]

private theorem way_joinText (files : Files) (dir : Path) (hpart : part ∈ contents) :
    way files.here (dir.joinText part).steps =
      way files.here dir.steps ++ [placeOf files dir part] :=
  Path.way_join_name files.here dir (isName_of_mem hpart)

theorem follow_joinText (files : Files) (dir : Path) (hpart : part ∈ contents) :
    follow files.here (dir.joinText part).steps = placeOf files dir part := by
  have hname := isName_of_mem hpart
  rw [Path.joinText, Path.ofString, Path.steps_join_name dir hname, Path.follow_append,
    hname.componentOf_eq]
  rfl

theorem locate_joinText (hf : files.IsTree) (hpart : part ∈ contents)
    (hfits : (dir.joinText Manifest.fileName).Fits)
    (hway : ∀ k ∈ way files.here dir.steps, files.entry? k = some .folder) :
    files.locate (dir.joinText part) = .ok (placeOf files dir part) := by
  have hname := isName_of_mem hpart
  rcases hf.locate_cases (fits_of_mem hpart hfits) (Path.getLast?_split_join dir hname)
      hname.counts (Path.steps_join_name dir hname) with
    ⟨-, hlocate⟩ | ⟨⟨k, hk, hnone⟩, -⟩ | ⟨⟨k, hk, hfile⟩, -⟩
  · rw [hlocate, follow_joinText files dir hpart]
  · simp [hway k hk] at hnone
  · exact absurd (hway k hk) hfile.ne_folder

/-! ### Steps -/

theorem takeSteps_cons (files : Files) (activity : String) (step : Step)
    (rest : List (String × Step)) :
    takeSteps files ((activity, step) :: rest) =
      match step.take files with
      | (after, .ok ()) => takeSteps after rest
      | (after, .error e) => (after, ProjectError.ofSystem activity (.error e)) := rfl

private theorem takeSteps_cons_of_ok {activity : String} (step : Step) (rest : List (String × Step))
    (h : step.take files = (after, .ok ())) :
    takeSteps files ((activity, step) :: rest) = takeSteps after rest := by
  rw [takeSteps_cons, h]

private theorem fst_takeSteps_of_error {activity : String} (step : Step)
    (rest : List (String × Step)) {e : Failure} (h : step.take files = (after, .error e)) :
    (takeSteps files ((activity, step) :: rest)).1 = after := by
  rw [takeSteps_cons, h]

private theorem fst_takeSteps_singleton (files : Files) (activity : String) (step : Step) :
    (takeSteps files [(activity, step)]).1 = (step.take files).1 := by
  rcases h : step.take files with ⟨after, e | ⟨⟩⟩
  · rw [fst_takeSteps_of_error step [] h]
  · rw [takeSteps_cons_of_ok step [] h]
    rfl

/-- What is written takes the place of the file that stands there, if that can be opened, and of no
other. -/
private theorem entry?_take_file {p : Path} {key other : Key} (hlocate : files.locate p = .ok key)
    {content : Bytes} {access : Access}
    (hfile : files.entry? other = some (.file content access)) (new : Bytes) :
    Files.entry? ((Step.file p new).take files).1 other =
      some (.file (if other = key ∧ access.barred = none then new else content) access) := by
  rcases Files.write_cases hlocate new with ⟨hnot, e, hwrite⟩ | ⟨htakes, x, hsame, hwrite⟩
  · have hother : ¬(other = key ∧ access.barred = none) := by
      rintro ⟨rfl, hopens⟩
      refine hnot ⟨by simp [hfile], fun before accessBefore hbefore => ?_⟩
      obtain ⟨-, rfl⟩ := Entry.file.inj (Option.some.inj (hfile.symm.trans hbefore))
      exact hopens
    rw [Step.take, hwrite, if_neg hother, hfile]
  · rw [Step.take, hwrite, Files.entry?_put files (Files.ne_nil_of_entry?_ne htakes.1)]
    by_cases heq : other = key
    · subst heq
      obtain rfl := hsame content access hfile
      rw [if_pos rfl, if_pos ⟨rfl, rfl⟩]
    · rw [if_neg heq, if_neg (heq ·.1), hfile]

/-! ### Making room -/

private theorem makeFolders_joinText_cases (hf : files.IsTree) (hpart : part ∈ contents)
    (hfits : (dir.joinText Manifest.fileName).Fits) :
    (∃ made, files.makeFolders (dir.joinText part) = (made, .ok ()) ∧
        files.MadeAlong made (way files.here dir.steps ++ [placeOf files dir part])) ∨
      (∃ made e, files.makeFolders (dir.joinText part) = (made, .error e)) ∧
        ((∃ k ∈ way files.here dir.steps, files.HoldsFile k) ∨
          files.HoldsFile (placeOf files dir part)) := by
  have hname := isName_of_mem hpart
  have hway := way_joinText files dir hpart
  rcases hf.makeFolders_cases (fits_of_mem hpart hfits) (Path.getLast?_split_join dir hname)
      hname.counts with
    ⟨made, hmake, hmade⟩ | ⟨herror, k, hk, hfile⟩
  · exact .inl ⟨made, hmake, hway ▸ hmade⟩
  · rcases List.mem_append.mp (hway ▸ hk) with hk | hk
    · exact .inr ⟨herror, .inl ⟨k, hk, hfile⟩⟩
    · exact .inr ⟨herror, .inr (List.mem_singleton.mp hk ▸ hfile)⟩

def MadeRoom (files : Files) (dir : Path) (made : Files) : Prop :=
  files.MadeAlong made ((way files.here dir.steps ++ [placeOf files dir Profile.folderName]) ++
    (way files.here dir.steps ++ [placeOf files dir "firmware"]))

theorem WritesInto.exists_madeRoom (hf : files.IsTree) (h : WritesInto files dir) :
    ∃ room made, files.makeFolders (dir.joinText Profile.folderName) = (room, .ok ()) ∧
      room.makeFolders (dir.joinText "firmware") = (made, .ok ()) ∧ MadeRoom files dir made := by
  rcases makeFolders_joinText_cases hf mem_profiles h.fits with
    ⟨room, hroom, hmade⟩ | ⟨-, ⟨k, hk, hfile⟩ | hfile⟩
  · rcases makeFolders_joinText_cases hmade.tree mem_firmware h.fits with
      ⟨made, hmore, hmade'⟩ | ⟨-, ⟨k, hk, hfile⟩ | hfile⟩
    · rw [hmade.here_eq, placeOf_eq hmade.here_eq] at hmade'
      exact ⟨room, made, hroom, hmore, hmade.trans hmade'⟩
    · rw [hmade.here_eq] at hk
      exact absurd ((hmade.holdsFile_iff k).mp hfile) (h.no_file k hk)
    · rw [placeOf_eq hmade.here_eq, hmade.holdsFile_iff] at hfile
      exact absurd hfile h.no_firmware
  · exact absurd hfile (h.no_file k hk)
  · exact absurd hfile h.no_profiles

theorem writesInto_of_madeRoom (hf : files.IsTree) (hmissing : files.contains dir = false)
    {room : Files} (hroom : files.makeFolders (dir.joinText Profile.folderName) = (room, .ok ()))
    (hmade : room.makeFolders (dir.joinText "firmware") = (made, .ok ())) {key : Key}
    (hlocate : made.locate (dir.joinText Manifest.fileName) = .ok key)
    (htakes : made.TakesContent key) : WritesInto files dir := by
  have hfits : (dir.joinText Manifest.fileName).Fits := Files.fits_of_locate hlocate
  obtain ⟨room', hroom', halong⟩ | ⟨⟨room', e, herror⟩, -⟩ :=
    makeFolders_joinText_cases hf mem_profiles hfits
  swap
  · cases hroom.symm.trans herror
  obtain ⟨rfl, -⟩ := Prod.mk.inj (hroom.symm.trans hroom')
  obtain ⟨made', hmade', halong'⟩ | ⟨⟨made', e, herror⟩, -⟩ :=
    makeFolders_joinText_cases halong.tree mem_firmware hfits
  swap
  · cases hmade.symm.trans herror
  obtain ⟨rfl, -⟩ := Prod.mk.inj (hmade.symm.trans hmade')
  have hhere : made.here = files.here := halong'.here_eq.trans halong.here_eq
  rw [halong.here_eq, placeOf_eq halong.here_eq] at halong'
  have hplace : key = placeOf files dir Manifest.fileName := by
    rw [Path.eq_follow_of_locate hlocate, hhere, follow_joinText files dir mem_manifest]
  rw [hplace] at htakes
  have hfolders : ∀ k ∈ way files.here dir.steps, made.entry? k = some .folder := fun k hk =>
    halong'.folders k (List.mem_append_left _ hk)
  have hkeeps : files.Keeps made := halong.keeps.trans halong'.keeps
  exact
    { missing := hmissing
      fits := hfits
      no_file := fun k hk => halong.not_holdsFile k (List.mem_append_left _ hk)
      no_profiles := halong.not_holdsFile _ (by simp)
      no_firmware := fun hfile =>
        halong'.not_holdsFile _ (by simp) ((halong.holdsFile_iff _).mpr hfile)
      takes_manifest :=
        ⟨fun hfolder => htakes.1 (hkeeps _ _ hfolder),
          fun content access hfile => htakes.2 content access (hkeeps _ _ hfile)⟩
      not_on_way := fun hmem => htakes.1 (hfolders _ hmem) }

private theorem MadeRoom.entry?_manifest (hmade : MadeRoom files dir made)
    (h : WritesInto files dir) :
    made.entry? (placeOf files dir Manifest.fileName) =
      files.entry? (placeOf files dir Manifest.fileName) := by
  rcases hmade.others (placeOf files dir Manifest.fileName) with heq | ⟨hmem, -⟩
  · exact heq
  · simp only [List.mem_append, List.mem_singleton] at hmem
    rcases hmem with (hway | hplace) | (hway | hplace)
    · exact absurd hway h.not_on_way
    · exact absurd (placeOf_injective hplace) (by decide)
    · exact absurd hway h.not_on_way
    · exact absurd (placeOf_injective hplace) (by decide)

/-! ### What is written -/

private theorem keeps_create (hf : files.IsTree) (h : ¬WritesInto files (.ofString name)) :
    files.Keeps (create files name).1 := by
  rw [create]
  split
  · exact .refl files
  next hmissing =>
  rw [startingSteps]
  rcases hroom : files.makeFolders ((Path.ofString name).joinText Profile.folderName) with
    ⟨room, e | ⟨⟩⟩
  · rw [fst_takeSteps_of_error (.folders _) _ hroom]
    exact Files.keeps_of_makeFolders hroom
  rw [takeSteps_cons_of_ok (.folders _) _ hroom]
  rcases hmade : room.makeFolders ((Path.ofString name).joinText "firmware") with ⟨made, e | ⟨⟩⟩
  · rw [fst_takeSteps_of_error (.folders _) _ hmade]
    exact (Files.keeps_of_makeFolders hroom).trans (Files.keeps_of_makeFolders hmade)
  rw [takeSteps_cons_of_ok (.folders _) _ hmade]
  cases hwrite : made.write ((Path.ofString name).joinText Manifest.fileName)
      (.ofString (Manifest.template name)) with
  | error e =>
    rw [fst_takeSteps_of_error (.file _ _) _ (by rw [Step.take, hwrite])]
    exact (Files.keeps_of_makeFolders hroom).trans (Files.keeps_of_makeFolders hmade)
  | ok after =>
    obtain ⟨key, hlocate, -⟩ := bind_eq_ok.mp hwrite
    rcases Files.write_cases hlocate (.ofString (Manifest.template name)) with
      ⟨-, e, herror⟩ | ⟨htakes, -⟩
    · cases hwrite.symm.trans herror
    · have hmissing' : files.contains (.ofString name) = false := by simpa using hmissing
      exact absurd (writesInto_of_madeRoom hf hmissing' hroom hmade hlocate htakes) h

theorem MadeRoom.exists_written (hmade : MadeRoom files dir made) (h : WritesInto files dir)
    (content : Bytes) :
    ∃ written, (Step.file (dir.joinText Manifest.fileName) content).take made = (written, .ok ()) ∧
      written.IsTree ∧ written.here = files.here ∧
      (∀ k ∈ way files.here dir.steps, written.entry? k = some .folder) ∧
      (∃ executable : Bool, written.entry? (placeOf files dir Manifest.fileName) =
        some (.file content executable)) ∧
      ∀ key before access, files.entry? key = some (.file before access) →
        written.entry? key = some (.file
          (if key = placeOf files dir Manifest.fileName then content else before) access) := by
  have hfolders : ∀ k ∈ way files.here dir.steps, made.entry? k = some .folder := fun k hk =>
    hmade.folders k (by simp [hk])
  have hlocate : made.locate (dir.joinText Manifest.fileName) =
      .ok (placeOf files dir Manifest.fileName) := by
    rw [locate_joinText hmade.tree mem_manifest h.fits (hmade.here_eq ▸ hfolders),
      placeOf_eq hmade.here_eq]
  have htakes : made.TakesContent (placeOf files dir Manifest.fileName) := by
    rw [Files.TakesContent, hmade.entry?_manifest h]
    exact h.takes_manifest
  obtain ⟨hnot, -⟩ | ⟨-, x, -, hwrite⟩ := Files.write_cases hlocate content
  · exact absurd htakes hnot
  have htake : (Step.file (dir.joinText Manifest.fileName) content).take made =
      (made.put (placeOf files dir Manifest.fileName) (.file content x), .ok ()) := by
    rw [Step.take, hwrite]
  refine ⟨_, htake, hmade.tree.put_of_locate hlocate htakes.1 _, hmade.here_eq,
    fun k hk => Files.folder_put htakes.1 _ (hfolders k hk), ⟨x, ?_⟩,
    fun key before access hfile => ?_⟩
  · rw [Files.entry?_put made (Files.ne_nil_of_entry?_ne htakes.1), if_pos rfl]
  · have hwritten := entry?_take_file hlocate (hmade.keeps key _ hfile) content
    have hopens : key = placeOf files dir Manifest.fileName → access.barred = none := by
      rintro rfl
      exact h.takes_manifest.2 before access hfile
    simpa only [htake, and_iff_left_of_imp hopens] using hwritten

private theorem WritesInto.entry?_create (hf : files.IsTree) (h : WritesInto files (.ofString name))
    {key : Key} {content : Bytes} {access : Access}
    (hfile : files.entry? key = some (.file content access)) :
    Files.entry? (create files name).1 key = some (.file
      (if key = placeOf files (.ofString name) ".gitignore" ∧ access.barred = none then
          .ofString ignored
        else if key = placeOf files (.ofString name) Manifest.fileName then
          .ofString (Manifest.template name)
        else content) access) := by
  obtain ⟨room, made, hroom, hmore, hmade⟩ := h.exists_madeRoom hf
  obtain ⟨written, htake, htree, hhere, hfolders, -, hfiles⟩ :=
    hmade.exists_written h (.ofString (Manifest.template name))
  have hlocate : written.locate ((Path.ofString name).joinText ".gitignore") =
      .ok (placeOf files (.ofString name) ".gitignore") := by
    rw [locate_joinText htree mem_ignored h.fits (hhere ▸ hfolders),
      placeOf_eq hhere]
  rw [create, if_neg (by simp [h.missing]), startingSteps,
    takeSteps_cons_of_ok (.folders _) _ hroom, takeSteps_cons_of_ok (.folders _) _ hmore,
    takeSteps_cons_of_ok (.file _ _) _ htake, fst_takeSteps_singleton]
  exact entry?_take_file hlocate (hfiles key content access hfile) _

private theorem WritesInto.not_holdsFile_of_isStraight (hf : files.IsTree)
    (h : WritesInto files dir) (hne : dir.bytes ≠ []) (hstraight : dir.IsStraight) (part : String) :
    ¬files.HoldsFile (placeOf files dir part) := by
  rintro ⟨content, access, hfile⟩
  have hfolder := hf.parent _ _ hfile
  rw [placeOf, List.dropLast_concat] at hfolder
  have hfits : dir.Fits := h.fits.of_join (isName_of_mem mem_manifest) hne
  have hthere := hf.contains_of_isStraight hfits hstraight hfolder
  rw [h.missing] at hthere
  cases hthere

/-- Starting a project leaves a file as it is, whether it succeeds or fails, unless the manifest is
written and the file is in its place, or in that of the list of what is left out, with another
content; a file that cannot be opened is left as it is. This takes a name that is empty or goes up
after it went down. -/
theorem create_keeps_file_iff (hf : files.IsTree) (name : String) {key : Key} {content : Bytes}
    {access : Access} (hfile : files.entry? key = some (.file content access)) :
    (Files.entry? (create files name).1 key = some (.file content access) ↔
        (WritesInto files (.ofString name) → access.barred = none →
          (key = placeOf files (.ofString name) Manifest.fileName →
            content = .ofString (Manifest.template name)) ∧
          (key = placeOf files (.ofString name) ".gitignore" → content = .ofString ignored))) ∧
      (name ≠ "" → (Path.ofString name).IsStraight →
        Files.entry? (create files name).1 key = some (.file content access)) := by
  by_cases h : WritesInto files (.ofString name)
  · rw [h.entry?_create hf hfile]
    refine ⟨?_, fun hname hstraight => ?_⟩
    · have hapart : placeOf files (.ofString name) ".gitignore" ≠
          placeOf files (.ofString name) Manifest.fileName := fun heq =>
        absurd (placeOf_injective heq) (by decide +kernel)
      have hopens : key = placeOf files (.ofString name) Manifest.fileName →
          access.barred = none := by
        rintro rfl
        exact h.takes_manifest.2 content access hfile
      by_cases hignored : key = placeOf files (.ofString name) ".gitignore"
      · by_cases hbarred : access.barred = none
        · rw [if_pos ⟨hignored, hbarred⟩]
          simp [h, hignored, hbarred, hapart, eq_comm]
        · rw [if_neg (hbarred ·.2), if_neg (hignored ▸ hapart)]
          simp [hbarred]
      · rw [if_neg (hignored ·.1)]
        by_cases hmanifest : key = placeOf files (.ofString name) Manifest.fileName
        · rw [if_pos hmanifest]
          simp [h, hmanifest, hopens hmanifest, hapart.symm, eq_comm]
        · simp [hignored, hmanifest]
    · have hbytes : (Path.ofString name).bytes ≠ [] := fun hempty =>
        hname (Bytes.ofString_injective hempty)
      have helsewhere (part : String) : key ≠ placeOf files (.ofString name) part := by
        rintro rfl
        exact h.not_holdsFile_of_isStraight hf hbytes hstraight part ⟨content, access, hfile⟩
      rw [if_neg (helsewhere _ ·.1), if_neg (helsewhere _)]
  · have hkept := keeps_create hf h key _ hfile
    exact ⟨iff_of_true hkept fun hwrites => absurd hwrites h, fun _ _ => hkept⟩

def startedManifest : Entry := .file (.ofString "[project]\n") false

def startedKey : Key := [.ofString "work", .ofString "netboot.toml"]

/-- A folder that relative paths start from, with that manifest in it. -/
def startedFiles : Files where
  entries := [([.ofString "work"], .folder), (startedKey, startedManifest)]
  here := [.ofString "work"]

theorem isTree_startedFiles : startedFiles.IsTree :=
  Files.isTree_of_forall_mem (by decide) (by decide +kernel)

private theorem entry?_startedKey : startedFiles.entry? startedKey = some startedManifest := rfl

private theorem isOk_create_startedFiles :
    ∀ name ∈ ["../boot", "", "boot/.."], (create startedFiles name).2.isOk = true := by
  decide

private theorem template_ne_startedManifest :
    ∀ name ∈ ["", "boot/.."],
      Entry.file (.ofString (Manifest.template name)) false ≠ startedManifest := by
  have hother : ∀ name ∈ ["", "boot/.."], Manifest.template name ≠ "[project]\n" := by
    decide
  intro name hname heq
  exact hother name hname (Bytes.ofString_injective (Entry.file.inj heq).1)

theorem create_keeps_file_iff_started :
    (create startedFiles "../boot").2.isOk = true ∧
      Files.entry? (create startedFiles "../boot").1 startedKey = some startedManifest ∧
      WritesInto startedFiles (.ofString "boot/..") := by
  have hsteps : (Path.ofString "../boot").steps = [.up, .name (.ofString "boot")] := rfl
  have hstraight : (Path.ofString "../boot").IsStraight := by
    rw [Path.IsStraight, hsteps]
    simp
  refine ⟨isOk_create_startedFiles _ (by simp), ?_, ?_⟩
  · exact (create_keeps_file_iff isTree_startedFiles "../boot" entry?_startedKey).2 (by simp)
      hstraight
  · by_contra hwrites
    have hkept : Files.entry? (create startedFiles "boot/..").1 startedKey = some startedManifest :=
      (create_keeps_file_iff isTree_startedFiles "boot/.." entry?_startedKey).1.mpr
        fun h => absurd h hwrites
    have hwritten : Files.entry? (create startedFiles "boot/..").1 startedKey =
        some (.file (.ofString (Manifest.template "boot/..")) false) := rfl
    exact template_ne_startedManifest "boot/.." (by simp)
      (Option.some.inj (hwritten.symm.trans hkept))

/-- The path of a name that is empty leads to nothing, but what is below it is in the folder that
relative paths start from. The same goes for a name that leads there through a folder that is
missing. -/
theorem create_overwrites_manifest_started :
    startedFiles.IsTree ∧ startedFiles.entry? startedKey = some startedManifest ∧
      ∀ name ∈ ["", "boot/.."], (create startedFiles name).2.isOk = true ∧
        Files.entry? (create startedFiles name).1 startedKey =
          some (.file (.ofString (Manifest.template name)) false) ∧
        Entry.file (.ofString (Manifest.template name)) false ≠ startedManifest := by
  refine ⟨isTree_startedFiles, entry?_startedKey, fun name hname => ?_⟩
  have hmade : (create startedFiles name).2.isOk = true :=
    isOk_create_startedFiles name (List.mem_cons_of_mem _ hname)
  have hother := template_ne_startedManifest name hname
  rcases List.mem_pair.mp hname with rfl | rfl
  · exact ⟨hmade, rfl, hother⟩
  · exact ⟨hmade, rfl, hother⟩

end PxeLaunch.Project
