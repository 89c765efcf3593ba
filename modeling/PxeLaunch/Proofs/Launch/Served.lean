import PxeLaunch.Proofs.Host.Walk
import PxeLaunch.Proofs.Launch.Places

/-!
The file that is served. The guest asks for the file to boot by its name, and the emulator looks for
that name in the folder that it serves. Main statement: folder and name make up the path of the
image again, however that was spelled, and they lead to the file that was found there.
-/

set_option autoImplicit false

namespace PxeLaunch.Wiring

/-- Whether a wiring serves an image: the file to boot is a name, in which neither a slash nor a
comma stands; below the folder that is served it has the components of the image, after a dot if the
image is spelled without a folder; and it leads to the same file. -/
structure Serves (w : Wiring) (files : Files) (artifact : Path) : Prop where
  ne_empty : w.bootFile ≠ ""
  no_slash : '/' ∉ w.bootFile.toList
  no_comma : ',' ∉ w.bootFile.toList
  one_name : (Path.ofString w.bootFile).components = [.name (.ofString w.bootFile)]
  same_components : (w.tftpRoot.joinText w.bootFile).components =
    (if artifact.parent? = some ⟨[]⟩ then [.current] else []) ++ artifact.components
  same_file : ∃ key, files.HoldsFile key ∧ files.locate artifact = .ok key ∧
    files.locate (w.tftpRoot.joinText w.bootFile) = .ok key

variable {files : Files} {p : Profile} {artifact dir : Path} {w : Wiring}

private theorem tftpRoot_of_serve_eq_ok (h : serve files p artifact = .ok w)
    (hparent : artifact.parent? = some dir) :
    w.tftpRoot = if dir.bytes = [] then ⟨[Path.dot]⟩ else dir := by
  obtain ⟨-, -, -, -, hroot⟩ := serve_eq_ok h
  rw [hroot, hparent]
  by_cases hdir : dir.bytes = []
  · simp only [hdir, List.isEmpty_nil, if_true]
    decide
  · simp only [hdir, List.isEmpty_iff, if_false]

private theorem slash_mem_ofString {name : String} (h : '/' ∈ name.toList) :
    Bytes.slash ∈ Bytes.ofString name :=
  List.mem_flatMap.mpr ⟨'/', h, by decide⟩

private theorem components_of_serve_eq_ok (h : serve files p artifact = .ok w) :
    (w.tftpRoot.joinText w.bootFile).components =
      (if artifact.parent? = some ⟨[]⟩ then [.current] else []) ++ artifact.components := by
  obtain ⟨hlast, -⟩ := Path.lastPart?_of_fileName? (fileName?_of_serve_eq_ok h)
  obtain ⟨dir, hparent, -⟩ := Path.exists_parent?_of_lastPart? hlast
  obtain ⟨hrelative, hstep⟩ := Path.steps_of_lastPart? hlast
  have hroot := tftpRoot_of_serve_eq_ok h hparent
  obtain ⟨bytes⟩ := dir
  by_cases hdir : bytes = []
  · subst hdir
    have hdot : Path.components ⟨[Path.dot]⟩ = [.current] := by decide
    have hcomponents := Path.components_eq_of_parent? hlast hparent
    rw [if_pos rfl] at hroot
    calc
      (w.tftpRoot.joinText w.bootFile).components
        = Path.components ⟨[Path.dot]⟩ ++ Path.steps (.ofString w.bootFile) := by
          rw [hroot, Path.joinText]
          exact Path.components_join (by simp) hrelative
      _ = [.current] ++ artifact.components := by
          rw [hdot, hcomponents]
          exact congrArg _ hstep
      _ = _ := by rw [hparent, if_pos rfl]
  · rw [if_neg hdir] at hroot
    have hnot : artifact.parent? ≠ some ⟨[]⟩ := by
      rw [hparent]
      simpa using hdir
    rw [hroot, if_neg hnot, List.nil_append]
    exact Path.components_parent_join hlast hparent

private theorem locate_of_serve_eq_ok (h : serve files p artifact = .ok w) :
    ∃ key, files.HoldsFile key ∧ files.locate artifact = .ok key ∧
      files.locate (w.tftpRoot.joinText w.bootFile) = .ok key := by
  have hname := fileName?_of_serve_eq_ok h
  obtain ⟨hlast, hup⟩ := Path.lastPart?_of_fileName? hname
  obtain ⟨hfound, -⟩ := serve_eq_ok h
  obtain ⟨key, hlocate, hfile⟩ := Files.isFile_iff.mp hfound
  obtain ⟨hends, hlength⟩ := Files.endsAt_of_holdsFile hname hlocate hfile
  obtain ⟨dir, hparent, -⟩ := Path.exists_parent?_of_lastPart? hlast
  have hroot := tftpRoot_of_serve_eq_ok h hparent
  have hjoined : (w.tftpRoot.joinText w.bootFile).EndsAt (.ofString w.bootFile) := by
    by_cases hdir : dir.bytes = []
    · rw [hroot, if_pos hdir]
      exact hends.current_join hup hlength
    · rw [hroot, if_neg hdir]
      exact hends.parent_join hup hparent hdir
  obtain ⟨habsolute, hrelative, hsteps⟩ := steps_of_serve_eq_ok h
  have habsoluteJoined : (w.tftpRoot.joinText w.bootFile).isAbsolute = artifact.isAbsolute := by
    rw [Path.joinText, Path.isAbsolute_join, hrelative, Bool.or_false, habsolute]
  refine ⟨key, hfile, hlocate, ?_⟩
  rw [Files.locate_eq_of_steps_eq hjoined hends habsoluteJoined hsteps files, hlocate]

/-- A wiring serves the image that it was made for. -/
theorem serves_of_serve_eq_ok (h : serve files p artifact = .ok w) : w.Serves files artifact := by
  obtain ⟨hlast, hup⟩ := Path.lastPart?_of_fileName? (fileName?_of_serve_eq_ok h)
  obtain ⟨-, -, hcomma, -⟩ := serve_eq_ok h
  refine {
    ne_empty := ?_
    no_slash := fun hmem => Path.not_mem_of_lastPart? hlast (slash_mem_ofString hmem)
    no_comma := hcomma
    one_name := ?_
    same_components := components_of_serve_eq_ok h
    same_file := locate_of_serve_eq_ok h }
  · intro hempty
    rw [hempty] at hlast
    cases Path.isIgnored_of_lastPart? hlast
  · have hname : Path.componentOf (.ofString w.bootFile) = .name (.ofString w.bootFile) :=
      if_neg (by simpa using hup)
    rw [← hname]
    exact Path.components_of_lastPart? hlast

theorem serves_of_serve_eq_ok_unnormalised :
    let files : Files := ⟨[([.ofString "out"], .folder),
      ([.ofString "out", .ofString "boot.efi"], .file [] false)], []⟩
    let artifact : Path := .ofString "./out//../out/.//boot.efi"
    let w : Wiring := ⟨.e1000, .ofString "./out//../out", "boot.efi"⟩
    serve files Profile.x86_64 artifact = .ok w ∧ w.Serves files artifact := by
  intro files artifact w
  have hserve : serve files Profile.x86_64 artifact = .ok w :=
    toOption_eq_some.mp (by decide +kernel)
  exact ⟨hserve, serves_of_serve_eq_ok hserve⟩

end PxeLaunch.Wiring
