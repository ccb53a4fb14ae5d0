import Mathlib.Data.List.Infix
import DeclDocs.Workspace.Basic

/-! # What is written is read back

A file can be written at a path exactly if the path leads to a place for one
(`Workspace.place?`): a place in a directory that is not a directory itself (`IsPlace`).  A
file that is put there neither makes a directory nor takes one away (`isDirectory_placing`),
so that every path that led somewhere still leads there (`follow_placing`).  The path then
gives what was written (`read_placing`), and nothing changes anywhere else (`file?_placing`).
-/
namespace DeclDocs
namespace Workspace

variable {workspace : Workspace} {directory parts place : List String} {target : Target}

/-! ### Files and directories -/

theorem find?_cons (file : List String × List UInt8) (rest : List (List String × List UInt8))
    (other : List String) :
    ((file :: rest).find? (·.1 == other)).map (·.2) =
      if other = file.1 then some file.2 else (rest.find? (·.1 == other)).map (·.2) := by
  by_cases h : other = file.1
  · rw [if_pos h, List.find?_cons_of_pos (by simpa using h.symm), Option.map_some]
  · rw [if_neg h, List.find?_cons_of_neg (by simpa using fun hfile => h hfile.symm)]

theorem find?_put (place : List String) (content : List UInt8)
    (files : List (List String × List UInt8)) (other : List String) :
    ((put place content files).find? (·.1 == other)).map (·.2) =
      if other = place then some content else (files.find? (·.1 == other)).map (·.2) := by
  induction files with
  | nil => rw [put, find?_cons]
  | cons file rest ih =>
    obtain ⟨name, old⟩ := file
    rw [put, find?_cons]
    by_cases hname : name = place
    · subst hname
      rw [if_pos rfl, find?_cons]
      by_cases h : other = name
      · rw [if_pos h, if_pos h]
      · rw [if_neg h, if_neg h, if_neg h]
    · rw [if_neg hname, find?_cons, ih]
      by_cases h : other = name
      · rw [if_pos h, if_neg (h ▸ hname), if_pos h]
      · rw [if_neg h, if_neg h]

theorem mem_names_put {place : List String} {content : List UInt8}
    {files : List (List String × List UInt8)} {other : List String} :
    other ∈ (put place content files).map (·.1) ↔ other = place ∨ other ∈ files.map (·.1) := by
  induction files with
  | nil => simp [put]
  | cons file rest ih =>
    obtain ⟨name, old⟩ := file
    by_cases hname : name = place
    · subst hname
      simp [put]
    · rw [put, if_neg hname, List.map_cons, List.mem_cons, ih, List.map_cons, List.mem_cons,
        or_left_comm]

theorem file?_placing (workspace : Workspace) (place : List String) (content : List UInt8)
    (other : List String) :
    (workspace.placing place content).file? other =
      if other = place then some content else workspace.file? other :=
  find?_put place content workspace.files other

theorem isDirectory_iff :
    workspace.isDirectory parts = true ↔
      parts <+: workspace.home ∨ (∃ directory ∈ workspace.directories, parts <+: directory) ∨
        ∃ file ∈ workspace.files.map (·.1), parts ≠ file ∧ parts <+: file := by
  simp [isDirectory, or_assoc]

theorem isDirectory_home (workspace : Workspace) : workspace.isDirectory workspace.home = true :=
  isDirectory_iff.mpr (.inl (List.prefix_refl workspace.home))

/-- A directory is in directories only. -/
theorem isDirectory_of_isPrefix (h : workspace.isDirectory parts = true)
    (hbelow : directory <+: parts) : workspace.isDirectory directory = true := by
  rcases isDirectory_iff.mp h with hhome | ⟨listed, hlisted, hon⟩ | ⟨file, hfile, hne, hon⟩
  · exact isDirectory_iff.mpr (.inl (hbelow.trans hhome))
  · exact isDirectory_iff.mpr (.inr (.inl ⟨listed, hlisted, hbelow.trans hon⟩))
  · refine isDirectory_iff.mpr (.inr (.inr ⟨file, hfile, ?_, hbelow.trans hon⟩))
    rintro rfl
    exact hne (hon.eq_of_length_le hbelow.length_le)

theorem isDirectory_root (workspace : Workspace) : workspace.isDirectory [] = true :=
  isDirectory_of_isPrefix workspace.isDirectory_home List.nil_prefix

/-- A place for a file: in a directory, and not one itself. -/
structure IsPlace (workspace : Workspace) (place : List String) : Prop where
  notDirectory : workspace.isDirectory place = false
  inDirectory : workspace.isDirectory place.dropLast = true

/-- What is on the way to a place for a file is a directory already. -/
theorem IsPlace.isDirectory_of_isPrefix (hplace : workspace.IsPlace place) (hne : parts ≠ place)
    (hbelow : parts <+: place) : workspace.isDirectory parts = true := by
  have hplace_ne : place ≠ [] := by
    rintro rfl
    exact hne (List.prefix_nil.mp hbelow)
  rw [← List.dropLast_append_getLast hplace_ne, List.prefix_concat_iff,
    List.dropLast_append_getLast hplace_ne] at hbelow
  rcases hbelow with heq | hbelow
  · exact absurd heq hne
  · exact Workspace.isDirectory_of_isPrefix hplace.inDirectory hbelow

theorem isDirectory_placing (hplace : workspace.IsPlace place) (content : List UInt8)
    (parts : List String) :
    (workspace.placing place content).isDirectory parts = workspace.isDirectory parts := by
  rw [Bool.eq_iff_iff]
  constructor
  · intro h
    rcases isDirectory_iff.mp h with hhome | hlisted | ⟨file, hfile, hne, hon⟩
    · exact isDirectory_iff.mpr (.inl hhome)
    · exact isDirectory_iff.mpr (.inr (.inl hlisted))
    · rcases mem_names_put.mp hfile with rfl | hfile
      · exact hplace.isDirectory_of_isPrefix hne hon
      · exact isDirectory_iff.mpr (.inr (.inr ⟨file, hfile, hne, hon⟩))
  · intro h
    rcases isDirectory_iff.mp h with hhome | hlisted | ⟨file, hfile, hne, hon⟩
    · exact isDirectory_iff.mpr (.inl hhome)
    · exact isDirectory_iff.mpr (.inr (.inl hlisted))
    · exact isDirectory_iff.mpr (.inr (.inr ⟨file, mem_names_put.mpr (.inr hfile), hne, hon⟩))

/-! ### Where paths lead -/

/-- The place of a file that is there or can be put there. -/
def Target.place? : Target → Option (List String)
  | .directory => none
  | .file place _ | .free place => some place

/-- What a path leads to once a file has been put in a place. -/
def Target.placing (place : List String) (content : List UInt8) : Target → Target
  | .directory => .directory
  | .file other old => .file other (if other = place then content else old)
  | .free other => if other = place then .file other content else .free other

theorem place_of_arrive {here : List String} (h : workspace.arrive here parts = .ok target)
    (hplace : target.place? = some place) : place = here := by
  cases parts with
  | nil =>
    rw [arrive] at h
    split at h <;> cases h <;> exact (Option.some.inj hplace).symm
  | cons => cases h

theorem isPlace_of_follow (hdirectory : workspace.isDirectory directory = true)
    (h : workspace.follow directory parts = .ok target) (hplace : target.place? = some place) :
    workspace.IsPlace place := by
  fun_induction workspace.follow directory parts with
  | case1 =>
    cases h
    cases hplace
  | case2 directory rest ih =>
    exact ih (isDirectory_of_isPrefix hdirectory (List.dropLast_prefix directory)) h
  | case3 => cases h
  | case4 directory part rest _ here _ hhere ih => exact ih hhere h
  | case5 directory part rest _ here _ hhere =>
    rw [place_of_arrive h hplace]
    exact ⟨Bool.eq_false_iff.mpr hhere, by rwa [List.dropLast_concat]⟩

theorem arrive_placing {here : List String} (content : List UInt8)
    (h : workspace.arrive here parts = .ok target) :
    (workspace.placing place content).arrive here parts = .ok (target.placing place content) := by
  cases parts with
  | nil =>
    rw [arrive] at h
    rw [arrive, file?_placing]
    by_cases hhere : here = place
    · split at h <;> cases h <;> simp [Target.placing, hhere]
    · split at h
      next old hold =>
        cases h
        simp [Target.placing, hhere, hold]
      next hfree =>
        cases h
        simp [Target.placing, hhere, hfree]
  | cons => cases h

/-- Every path that leads somewhere leads there too once a file has been put in a place. -/
theorem follow_placing (hplace : workspace.IsPlace place) (content : List UInt8)
    (h : workspace.follow directory parts = .ok target) :
    (workspace.placing place content).follow directory parts =
      .ok (target.placing place content) := by
  fun_induction workspace.follow directory parts with
  | case1 =>
    cases h
    rw [follow]
    rfl
  | case2 directory rest ih => rw [follow, ih h]
  | case3 => cases h
  | case4 directory part rest hpart here hlength hhere ih =>
    rw [follow, if_neg hlength, isDirectory_placing hplace, if_pos hhere, ih h]
    exact hpart
  | case5 directory part rest hpart here hlength hhere =>
    rw [follow, if_neg hlength, isDirectory_placing hplace, if_neg hhere, arrive_placing content h]
    exact hpart

/-! ### Reading and writing -/

variable {path : Path} {content : List UInt8}

theorem isDirectory_start (workspace : Workspace) (path : Path) :
    workspace.isDirectory (workspace.start path) = true := by
  rw [start]
  split
  · exact isDirectory_home workspace
  · exact isDirectory_root workspace

theorem locate_eq_ok_iff :
    workspace.locate path = .ok target ↔
      path.hasNull = false ∧ path.text.utf8ByteSize ≤ Path.limit ∧
        workspace.follow (workspace.start path) path.parts = .ok target := by
  rw [locate]
  by_cases hnull : path.hasNull = true
  · simp [hnull]
  · by_cases hlength : Path.limit < path.text.utf8ByteSize
    · simp [hnull, hlength, Nat.not_le.mpr hlength]
    · simp [hnull, hlength, Nat.le_of_not_lt hlength]

theorem locate_placing (hplace : workspace.IsPlace place) (content : List UInt8)
    (h : workspace.locate path = .ok target) :
    (workspace.placing place content).locate path = .ok (target.placing place content) := by
  obtain ⟨hnull, hlength, hfollow⟩ := locate_eq_ok_iff.mp h
  exact locate_eq_ok_iff.mpr ⟨hnull, hlength, follow_placing hplace content hfollow⟩

/-- The place of a file that a path leads to. -/
def place? (workspace : Workspace) (path : Path) : Option (List String) :=
  match workspace.locate path with
  | .ok target => target.place?
  | .error _ => none

theorem place?_eq_some_iff :
    workspace.place? path = some place ↔
      ∃ target, workspace.locate path = .ok target ∧ target.place? = some place := by
  rw [place?]
  split
  next target htarget => simp [htarget]
  next error herror => simp [herror]

theorem isPlace_of_place? (h : workspace.place? path = some place) : workspace.IsPlace place := by
  obtain ⟨target, hlocate, htarget⟩ := place?_eq_some_iff.mp h
  obtain ⟨-, -, hfollow⟩ := locate_eq_ok_iff.mp hlocate
  exact isPlace_of_follow (isDirectory_start workspace path) hfollow htarget

/-- A file can be written exactly where a path leads to the place of one. -/
theorem write_eq_ok_iff {after : Workspace} :
    workspace.write path content = .ok after ↔
      ∃ place, workspace.place? path = some place ∧ after = workspace.placing place content := by
  rw [write, place?]
  cases workspace.locate path with
  | error error =>
    constructor
    · rintro ⟨⟩
    · rintro ⟨place, ⟨⟩, -⟩
  | ok target =>
    cases target with
    | directory =>
      constructor
      · rintro ⟨⟩
      · rintro ⟨place, ⟨⟩, -⟩
    | file place _ | free place =>
      constructor
      · rintro ⟨⟩
        exact ⟨place, rfl, rfl⟩
      · rintro ⟨_, ⟨⟩, rfl⟩
        rfl

/-- Once a file has been put in a place, the paths to that place give its content, and the paths
to other places what they gave before. -/
theorem read_placing (hplace : workspace.IsPlace place) (content : List UInt8)
    {other : List String} (h : workspace.place? path = some other) :
    (workspace.placing place content).read path =
      if other = place then .ok content else workspace.read path := by
  obtain ⟨target, hlocate, htarget⟩ := place?_eq_some_iff.mp h
  rw [read, read, locate_placing hplace content hlocate, hlocate]
  cases target with
  | directory => cases htarget
  | file _ old =>
    cases htarget
    by_cases hother : other = place
    · rw [Target.placing, if_pos hother, if_pos hother]
      rfl
    · rw [Target.placing, if_neg hother, if_neg hother]
  | free _ =>
    cases htarget
    by_cases hother : other = place
    · rw [Target.placing, if_pos hother, if_pos hother]
      rfl
    · rw [Target.placing, if_neg hother, if_neg hother]

end Workspace
end DeclDocs
