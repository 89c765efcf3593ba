import PxeLaunch.Project.Manifest
import PxeLaunch.Proofs.Profile.Folder
import PxeLaunch.Proofs.Toml.Decode

/-!
What is so of every manifest that is read. Main statements: its changes to profiles and its programs
stand under distinct names, in the order of their bytes; the project has the name that stands under
its key.
-/

set_option autoImplicit false

namespace PxeLaunch.Manifest

open Toml (Table Value)
open Toml.Decode (Shape nodup_keys_of_map)

variable {m : Manifest} {text : String}

/-! ### Order -/

structure Draft.IsProper (d : Draft) : Prop where
  programs : (d.programs.map (·.1)).Nodup
  overrides : (d.overrides.map (·.1)).Nodup

private theorem nodup_of_read_emulator {v : Value} (hv : v.IsProper)
    {programs : List (String × Path)}
    (h : emulatorShape.read v = .ok programs) : (programs.map (·.1)).Nodup := by
  have hfields : ∀ field ∈ emulatorShape.fields, ∀ v : Value, v.IsProper →
      ∀ d d', (d.map (·.1)).Nodup → field.read v d = .ok d' → (d'.map (·.1)).Nodup := by
    intro field hfield v hv d d' _ hread
    obtain rfl := List.mem_singleton.mp hfield
    exact nodup_keys_of_map hv hread
  obtain ⟨d, hd, hcomplete⟩ := Shape.read_keeps hv hfields List.nodup_nil h
  exact pure_eq_ok.mp hcomplete ▸ hd

private theorem Draft.IsProper.read {field : Toml.Decode.Field Draft}
    (hfield : field ∈ shape.fields) {v : Value} (hv : v.IsProper) {d d' : Draft} (hd : d.IsProper)
    (h : field.read v d = .ok d') : d'.IsProper := by
  simp only [shape, List.mem_cons, List.not_mem_nil, or_false] at hfield
  obtain rfl | rfl | rfl | rfl := hfield
  all_goals
    obtain ⟨a, ha, h⟩ := bind_eq_ok.mp h
    obtain rfl := pure_eq_ok.mp h
  · exact ⟨hd.programs, hd.overrides⟩
  · exact ⟨hd.programs, hd.overrides⟩
  · exact ⟨nodup_of_read_emulator hv ha, hd.overrides⟩
  · exact ⟨hd.programs, nodup_keys_of_map hv ha⟩

theorem sorted_nil {α : Type} : sorted ([] : List (String × α)) = [] := List.mergeSort_nil

private theorem pairwise_sorted {α : Type} {entries : List (String × α)}
    (h : (entries.map (·.1)).Nodup) :
    (sorted entries).Pairwise fun x y => Bytes.ofString x.1 < Bytes.ofString y.1 := by
  refine Bytes.pairwise_mergeSort (f := fun x : String × α => Bytes.ofString x.1) ?_
  have hnames := h.map fun s t heq => Bytes.ofString_injective (s := s) (t := t) heq
  rwa [List.map_map] at hnames

theorem nodup_of_pairwise {α : Type} {entries : List (String × α)}
    (h : entries.Pairwise fun x y => Bytes.ofString x.1 < Bytes.ofString y.1) :
    (entries.map (·.1)).Nodup := by
  refine List.pairwise_map.mpr (h.imp fun {x y} hlt heq => ?_)
  exact List.lt_irrefl _ (heq ▸ hlt)

theorem pairwise_of_ofToml (h : ofToml text = .ok m) :
    (m.programs.Pairwise fun x y => Bytes.ofString x.1 < Bytes.ofString y.1) ∧
      m.overrides.Pairwise fun x y => Bytes.ofString x.1 < Bytes.ofString y.1 := by
  obtain ⟨table, htable, hread⟩ := Toml.decode_eq_ok.mp h
  obtain ⟨d, hd, hcomplete⟩ := Shape.read_keeps (Toml.Document.isProper_of_parse? htable)
    (fun field hfield v hv d d' hd hread => Draft.IsProper.read hfield hv hd hread)
    ⟨List.nodup_nil, List.nodup_nil⟩ hread
  obtain ⟨projectName, -, hm⟩ := bind_eq_ok.mp hcomplete
  obtain rfl := pure_eq_ok.mp hm
  exact ⟨pairwise_sorted hd.programs, pairwise_sorted hd.overrides⟩

/-! ### The name of the project -/

private theorem eq_of_read_project {inner : Table} {name name' : String}
    (hinner : (inner.map (·.1)).Nodup) (hname : ("name", .string name) ∈ inner)
    (h : projectShape.read (.table inner) = .ok name') : name' = name := by
  obtain ⟨d, hread, hcomplete⟩ := bind_eq_ok.mp h
  have hd : d = some name := by
    refine Shape.readTable_makes (P := (· = some name)) hinner hname rfl (fun d d' h => ?_)
      (fun other hother hkey => ?_) hread
    · exact (Except.ok.inj h).symm
    · exact absurd (List.mem_singleton.mp hother ▸ rfl) hkey
  subst hd
  exact (Except.ok.inj hcomplete).symm

theorem projectName_eq {table inner : Table} {name : String}
    (hparse : Toml.Document.parse? text = some table) (hproject : ("project", .table inner) ∈ table)
    (hname : ("name", .string name) ∈ inner) (h : ofToml text = .ok m) :
    m.projectName = name := by
  obtain ⟨table', htable, hread⟩ := Toml.decode_eq_ok.mp h
  obtain rfl := Option.some.inj (hparse.symm.trans htable)
  obtain ⟨d, hread, hcomplete⟩ := bind_eq_ok.mp hread
  obtain _ | _ | _ | _ | _ | _ | ⟨hkeys, hvalues⟩ := Toml.Document.isProper_of_parse? hparse
  obtain _ | _ | _ | _ | _ | _ | ⟨hinner, -⟩ := hvalues _ hproject
  have hd : d.projectName = some name := by
    refine Shape.readTable_makes (P := (·.projectName = some name)) hkeys hproject rfl
      (fun d d' h => ?_) (fun other hother hkey w d d' hd h => ?_) hread
    · obtain ⟨name', hname', h⟩ := bind_eq_ok.mp h
      rw [← pure_eq_ok.mp h, eq_of_read_project hinner hname hname']
    · simp only [shape, List.mem_cons, List.not_mem_nil, or_false] at hother
      obtain rfl | rfl | rfl | rfl := hother
      · exact absurd rfl hkey
      all_goals
        obtain ⟨a, -, h⟩ := bind_eq_ok.mp h
        exact pure_eq_ok.mp h ▸ hd
  obtain ⟨projectName, hrequired, hm⟩ := bind_eq_ok.mp hcomplete
  rw [hd] at hrequired
  rw [← pure_eq_ok.mp hm]
  exact (Except.ok.inj hrequired).symm

end PxeLaunch.Manifest
