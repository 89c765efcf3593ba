import PxeLaunch.Proofs.Host.Tree

/-!
Making folders, and writing files. Main statement: in a tree, a path that the system takes is made
with all that is missing on its way exactly if no file stands there, and nothing else changes.
-/

set_option autoImplicit false

namespace PxeLaunch.Files

variable {f g h : Files} {key : Key} {p : Path}

/-! ### Making one folder -/

/-- What is left when the keys have been made folders where nothing stood. -/
structure MadeAlong (f g : Files) (keys : List Key) : Prop where
  tree : g.IsTree
  here_eq : g.here = f.here
  folders : ∀ k ∈ keys, g.entry? k = some .folder
  others : ∀ k, g.entry? k = f.entry? k ∨ k ∈ keys ∧ f.entry? k = none

theorem MadeAlong.holdsFile_iff {keys : List Key} (hmade : f.MadeAlong g keys) (key : Key) :
    g.HoldsFile key ↔ f.HoldsFile key := by
  rcases hmade.others key with heq | ⟨hmem, hnone⟩
  · rw [HoldsFile, HoldsFile, heq]
  · refine iff_of_false (fun hfile => hfile.ne_folder (hmade.folders key hmem)) fun hfile => ?_
    exact hfile.ne_none hnone

theorem MadeAlong.not_holdsFile {keys : List Key} (hmade : f.MadeAlong g keys) :
    ∀ k ∈ keys, ¬f.HoldsFile k := fun k hk hfile =>
  ((hmade.holdsFile_iff k).mpr hfile).ne_folder (hmade.folders k hk)

theorem MadeAlong.keeps {keys : List Key} (hmade : f.MadeAlong g keys) : f.Keeps g := by
  intro key e hkey
  rcases hmade.others key with heq | ⟨-, hnone⟩
  · rw [heq, hkey]
  · rw [hnone] at hkey
    cases hkey

theorem MadeAlong.trans {keys more : List Key} (hfg : f.MadeAlong g keys)
    (hgh : g.MadeAlong h more) : f.MadeAlong h (keys ++ more) where
  tree := hgh.tree
  here_eq := hgh.here_eq.trans hfg.here_eq
  folders := List.forall_mem_append.mpr
    ⟨fun k hk => hgh.keeps k _ (hfg.folders k hk), hgh.folders⟩
  others := fun k => by
    rcases hfg.others k with heq | ⟨hmem, hnone⟩
    · rcases hgh.others k with heq' | ⟨hmem, hnone⟩
      · exact .inl (heq'.trans heq)
      · exact .inr ⟨List.mem_append_right _ hmem, heq ▸ hnone⟩
    · exact .inr ⟨List.mem_append_left _ hmem, hnone⟩

private theorem MadeAlong.of_append {keys more : List Key} (hmade : f.MadeAlong g (keys ++ more))
    (hsub : ∀ k ∈ keys, k ∈ more) : f.MadeAlong g more where
  tree := hmade.tree
  here_eq := hmade.here_eq
  folders := fun k hk => hmade.folders k (List.mem_append_right _ hk)
  others := fun k => (hmade.others k).imp_right fun ⟨hmem, hnone⟩ =>
    ⟨(List.mem_append.mp hmem).elim (hsub k) id, hnone⟩

private theorem makeFolder_eq {last : Bytes} (hends : (Path.split p.bytes).getLast? = some last)
    (hlast : Path.isIgnored last = false) (f : Files) :
    f.makeFolder p = (f.locate p).bind fun key =>
      match f.entry? key with
      | some _ => .error .alreadyThere
      | none => .ok (f.put key .folder) := by
  have htrim : (p.bytes.reverse.dropWhile (· == Bytes.slash)).reverse = p.bytes := by
    rcases List.eq_nil_or_concat p.bytes with hnil | ⟨start, b, hbytes⟩
    · rw [hnil]
      rfl
    · rw [List.concat_eq_append] at hbytes
      have hb : b ≠ Bytes.slash := by
        rintro rfl
        rw [hbytes, Path.split_append_slash, Path.split, List.getLast?_concat] at hends
        obtain rfl := Option.some.inj hends
        cases hlast
      rw [hbytes, List.reverse_append, List.reverse_singleton, List.singleton_append,
        List.dropWhile_cons_of_neg (by simpa using hb), List.reverse_cons, List.reverse_reverse]
  rw [makeFolder, htrim]
  rfl

private theorem IsTree.makeFolder_cases (hf : f.IsTree) (hp : p.Fits) {last : Bytes}
    (hends : (Path.split p.bytes).getLast? = some last) (hlast : Path.isIgnored last = false)
    {cs : List Path.Component} (hsteps : p.steps = cs ++ [Path.componentOf last])
    (hway : ∀ k ∈ Path.way f.here cs, f.entry? k = some .folder) :
    (∃ g, f.makeFolder p = .ok g ∧ f.MadeAlong g (Path.way f.here p.steps)) ∨
      f.makeFolder p = .error .alreadyThere ∧ f.isFolder p = true ∧
        f.MadeAlong f (Path.way f.here p.steps) ∨
      f.makeFolder p = .error .alreadyThere ∧ f.isFolder p = false ∧
        ∃ k ∈ Path.way f.here p.steps, f.HoldsFile k := by
  have hwayAll : Path.way f.here p.steps =
      Path.way f.here cs ++ [Path.follow f.here p.steps] := by
    rw [hsteps, Path.way_concat]
  have hlocate : f.locate p = .ok (Path.follow f.here p.steps) := by
    rcases hf.locate_cases hp hends hlast hsteps with
      ⟨-, hlocate⟩ | ⟨⟨k, hk, hnone⟩, -⟩ | ⟨⟨k, hk, hfile⟩, -⟩
    · exact hlocate
    · simp [hway k hk] at hnone
    · exact absurd (hway k hk) hfile.ne_folder
  have hget (e : Entry) (hentry : f.entry? (Path.follow f.here p.steps) = some e) :
      f.get p = .ok e := by
    rw [get, hlocate, ok_bind, hentry]
  rw [makeFolder_eq hends hlast, hlocate, isFolder, hwayAll]
  rcases f.entry?_cases (Path.follow f.here p.steps) with hnone | hfolder | hfile
  · refine .inl ⟨f.put (Path.follow f.here p.steps) .folder, by simp [Except.bind, hnone], ?_⟩
    have hne : f.entry? (Path.follow f.here p.steps) ≠ some .folder := by simp [hnone]
    have hput := entry?_put f (ne_nil_of_entry?_ne hne) .folder
    refine ⟨hf.put_of_locate hlocate hne .folder, rfl,
      List.forall_mem_append.mpr ⟨fun k hk => ?_, ?_⟩, fun k => ?_⟩
    · exact keeps_put hnone .folder k _ (hway k hk)
    · simp [hput]
    · rw [hput]
      split
      · next heq => exact .inr ⟨by simp [heq], heq ▸ hnone⟩
      · exact .inl rfl
  · rw [hget _ hfolder]
    refine .inr (.inl ⟨by simp [Except.bind, hfolder], rfl, hf, rfl, ?_, fun k => .inl rfl⟩)
    exact List.forall_mem_append.mpr ⟨hway, by simpa using hfolder⟩
  · obtain ⟨content, access, hentry⟩ := hfile
    rw [hget _ hentry]
    exact .inr (.inr ⟨by simp [Except.bind, hentry], rfl, _, by simp, content, access, hentry⟩)

/-! ### Making folders -/

/-- What each folder that is made leaves true is left true by all of them, whether all can be made
or not. -/
private theorem makeFoldersFrom_induction {motive : Files → Prop}
    (step : ∀ g p h, motive g → g.makeFolder p = .ok h → motive h) (hf : motive f)
    (around : List Path) : motive (f.makeFoldersFrom around).1 := by
  induction around with
  | nil => exact hf
  | cons p around ih =>
    rw [makeFoldersFrom]
    split
    · exact hf
    · split
      · next g hmake => exact step f p g hf hmake
      · split
        · next g e hrest => exact (congrArg Prod.fst hrest ▸ ih :)
        · next g hrest =>
          have hg : motive g := (congrArg Prod.fst hrest ▸ ih :)
          split
          · next h hmake => exact step g p h hg hmake
          · exact hg
      · exact hf

private theorem exists_of_makeFolder (hmake : f.makeFolder p = .ok g) :
    ∃ q key, f.locate q = .ok key ∧ f.entry? key = none ∧ g = f.put key .folder := by
  obtain ⟨key, hlocate, hkey⟩ := bind_eq_ok.mp hmake
  split at hkey
  · cases hkey
  · next hnone => exact ⟨_, key, hlocate, hnone, (Except.ok.inj hkey).symm⟩

theorem keeps_of_makeFolders {result : Except Failure Unit}
    (hmake : f.makeFolders p = (g, result)) : f.Keeps g := by
  have hkeeps : f.Keeps (f.makeFolders p).1 :=
    makeFoldersFrom_induction (fun g p h hg hmake => by
      obtain ⟨q, key, -, hnone, rfl⟩ := exists_of_makeFolder hmake
      exact hg.trans (keeps_put hnone .folder)) (.refl f) p.ancestors
  rwa [hmake] at hkeeps

/-- Whether making folders makes what is missing under keys, or fails because a file stands under
one of them. -/
def MakesOrMeetsFile (f : Files) (folders : List Path) (keys : List Key) : Prop :=
  (∃ g, f.makeFoldersFrom folders = (g, .ok ()) ∧ f.MadeAlong g keys) ∨
    (∃ g e, f.makeFoldersFrom folders = (g, .error e)) ∧ ∃ k ∈ keys, f.HoldsFile k

private theorem IsTree.makeFoldersFrom_cons (hf : f.IsTree) (hp : p.Fits) {last : Bytes}
    (hends : (Path.split p.bytes).getLast? = some last) (hlast : Path.isIgnored last = false)
    {cs : List Path.Component} (hsteps : p.steps = cs ++ [Path.componentOf last])
    (around : List Path) :
    f.MakesOrMeetsFile (p :: around) (Path.way f.here p.steps) ∨
      f.makeFolder p = .error .notFound ∧ ∃ k ∈ Path.way f.here cs, f.entry? k = none := by
  rcases hf.locate_cases hp hends hlast hsteps with
    ⟨hway, -⟩ | ⟨hmissing, hlocate⟩ | ⟨⟨k, hk, hfile⟩, hlocate⟩
  · rw [MakesOrMeetsFile, makeFoldersFrom, if_neg hp.not_isEmpty]
    rcases hf.makeFolder_cases hp hends hlast hsteps hway with
      ⟨g, hmake, hmade⟩ | ⟨hmake, hfolder, hmade⟩ | ⟨hmake, hfolder, hfile⟩
    · exact .inl (.inl ⟨g, by rw [hmake], hmade⟩)
    · exact .inl (.inl ⟨f, by simp [hmake, hfolder], hmade⟩)
    · exact .inl (.inr ⟨⟨f, .alreadyThere, by simp [hmake, hfolder]⟩, hfile⟩)
  · exact .inr ⟨by rw [makeFolder_eq hends hlast, hlocate]; rfl, hmissing⟩
  · have hmake : f.makeFolder p = .error .notDirectory := by
      rw [makeFolder_eq hends hlast, hlocate]
      rfl
    have hfolder : f.isFolder p = false := by
      rw [isFolder, get, hlocate]
      rfl
    refine .inl (.inr ⟨⟨f, .notDirectory, ?_⟩, k, ?_, hfile⟩)
    · rw [makeFoldersFrom, if_neg hp.not_isEmpty, hmake]
      simp [hfolder]
    · rw [hsteps, Path.way_append]
      exact List.mem_append_left _ hk

private theorem makeFoldersFrom_cons_of_around (hp : p.Fits) {last : Bytes}
    (hends : (Path.split p.bytes).getLast? = some last) (hlast : Path.isIgnored last = false)
    {cs : List Path.Component} (hsteps : p.steps = cs ++ [Path.componentOf last])
    {around : List Path} (hmake : f.makeFolder p = .error .notFound)
    (haround : f.MakesOrMeetsFile around (Path.way f.here cs)) :
    f.MakesOrMeetsFile (p :: around) (Path.way f.here p.steps) := by
  have hsub : ∀ k ∈ Path.way f.here cs, k ∈ Path.way f.here p.steps := by
    intro k hk
    rw [hsteps, Path.way_append]
    exact List.mem_append_left _ hk
  rw [MakesOrMeetsFile, makeFoldersFrom, if_neg hp.not_isEmpty, hmake]
  rcases haround with ⟨g, hrest, hmade⟩ | ⟨⟨g, e, hrest⟩, k, hk, hfile⟩
  · have hcases := hmade.tree.makeFolder_cases hp hends hlast hsteps
      (by rw [hmade.here_eq]; exact hmade.folders)
    rw [hmade.here_eq] at hcases
    rw [hrest]
    rcases hcases with
      ⟨h, hmake', hmore⟩ | ⟨hmake', hfolder, hmore⟩ | ⟨hmake', hfolder, k, hk, hfile⟩
    · exact .inl ⟨h, by simp [hmake'], (hmade.trans hmore).of_append hsub⟩
    · exact .inl ⟨g, by simp [hmake', hfolder], (hmade.trans hmore).of_append hsub⟩
    · exact .inr ⟨⟨g, .alreadyThere, by simp [hmake', hfolder]⟩, k, hk,
        (hmade.holdsFile_iff k).mp hfile⟩
  · exact .inr ⟨⟨g, e, by rw [hrest]⟩, k, hsub k hk, hfile⟩

private theorem IsTree.makeFoldersFrom_ancestorsFrom (hf : f.IsTree) {fuel : Nat} (hp : p.Fits)
    {last : Bytes} (hends : (Path.split p.bytes).getLast? = some last)
    (hlast : Path.isIgnored last = false) (hfuel : p.steps.length ≤ fuel + 1) :
    f.MakesOrMeetsFile (p.ancestorsFrom fuel) (Path.way f.here p.steps) := by
  induction fuel generalizing p last with
  | zero =>
    obtain ⟨q, -, -, hsteps, -⟩ := Path.exists_parent?_of_getLast? hends hlast
    rw [Path.ancestorsFrom]
    rcases hf.makeFoldersFrom_cons hp hends hlast hsteps [] with hmakes | ⟨-, k, hk, -⟩
    · exact hmakes
    · -- The last step is the only one, so there is nothing before it.
      obtain hnone : q.steps = [] := by
        rw [hsteps, List.length_append, List.length_singleton] at hfuel
        exact List.length_eq_zero_iff.mp (by omega)
      rw [hnone] at hk
      cases hk
  | succ fuel ih =>
    obtain ⟨q, hparent, -, hsteps, hfront⟩ := Path.exists_parent?_of_getLast? hends hlast
    simp only [Path.ancestorsFrom, hparent]
    rcases hf.makeFoldersFrom_cons hp hends hlast hsteps (q.ancestorsFrom fuel) with
      hmakes | ⟨hmake, k, hk, hnone⟩
    · exact hmakes
    · obtain hroot | ⟨hne, ⟨rest, hbytes⟩, before, hbefore, hcounts⟩ := hfront
      · rw [hroot] at hk
        simp [f.entry?_of_mem_way_rootOf q hk] at hnone
      · have hfuel' : q.steps.length ≤ fuel + 1 := by
          rw [hsteps, List.length_append, List.length_singleton] at hfuel
          omega
        exact makeFoldersFrom_cons_of_around hp hends hlast hsteps hmake
          (ih (hp.of_append hne hbytes) hbefore hcounts hfuel')

/-- What is missing on the way to a path is made if no file stands there, and nothing else changes.
If one does, something fails. -/
theorem IsTree.makeFolders_cases (hf : f.IsTree) (hp : p.Fits) {last : Bytes}
    (hends : (Path.split p.bytes).getLast? = some last) (hlast : Path.isIgnored last = false) :
    (∃ g, f.makeFolders p = (g, .ok ()) ∧ f.MadeAlong g (Path.way f.here p.steps)) ∨
      (∃ g e, f.makeFolders p = (g, .error e)) ∧
        ∃ k ∈ Path.way f.here p.steps, f.HoldsFile k :=
  hf.makeFoldersFrom_ancestorsFrom hp hends hlast p.length_steps_le

/-! ### Writing files -/

/-- Whether a file can be written under a key: neither a folder stands there nor a file that cannot
be opened. -/
def TakesContent (f : Files) (key : Key) : Prop :=
  f.entry? key ≠ some .folder ∧
    ∀ content access, f.entry? key = some (.file content access) → access.barred = none

/-- What is written takes the place of what stands there. Whether a file can be run does not
change. -/
theorem write_cases (hlocate : f.locate p = .ok key) (content : Bytes) :
    ¬f.TakesContent key ∧ (∃ e, f.write p content = .error e) ∨
      f.TakesContent key ∧ ∃ executable : Bool,
        (∀ before access, f.entry? key = some (.file before access) → access = executable) ∧
          f.write p content = .ok (f.put key (.file content executable)) := by
  rw [write, hlocate, ok_bind, TakesContent]
  rcases f.entry?_cases key with hnone | hfolder | ⟨before, ⟨executable, barred⟩, hentry⟩
  · rw [hnone]
    exact .inr ⟨by simp, false, by simp, rfl⟩
  · rw [hfolder]
    exact .inl ⟨by simp, _, rfl⟩
  · rw [hentry]
    cases barred with
    | some cause => exact .inl ⟨by simp, _, rfl⟩
    | none => exact .inr ⟨by simp, executable, by simp, rfl⟩

end PxeLaunch.Files
