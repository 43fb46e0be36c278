import FieldAccess.Files.Tree
import Mathlib.Data.List.Basic

/-!
# Written files

A path leads to the same place before and after a file is written, and what it then leads to is the
file with the text that was written.

## Main definitions

* `FileTree.withFile` – files and directories with a file in the place of one that is there.

## Main statements

* `FileTree.follow_withFile` – the way to a file after it is written.
* `FileTree.read_of_write` – a file that is written is read back.
-/

namespace FieldAccess.FileTree

variable {tree : FileTree} {here names parts : List String} {path text : String}

/-- Files and directories with a file, in the place of one that has its names. -/
def withFile (tree : FileTree) (names : List String) (text : String) : FileTree :=
  { tree with files := (names, some text) :: tree.files.filter (·.1 ≠ names) }

theorem lookup_withFile_self (tree : FileTree) (names : List String) (text : String) :
    (tree.withFile names text).files.lookup names = some (some text) := by
  simp [withFile]

theorem lookup_withFile_of_ne (hne : here ≠ names) (hfree : tree.files.lookup here = none)
    (text : String) : (tree.withFile names text).files.lookup here = none := by
  rw [List.lookup_eq_none_iff] at hfree ⊢
  intro file hfile
  rcases List.mem_cons.1 hfile with rfl | hfile
  · simpa using hne
  · exact hfree file (List.mem_of_mem_filter hfile)

/-- The directories on the way to the files are still there. -/
theorem isDirectory_withFile (hdirectory : tree.isDirectory here = true) (names : List String)
    (text : String) : (tree.withFile names text).isDirectory here = true := by
  simp only [isDirectory, withFile, Bool.or_eq_true, List.any_eq_true, Bool.and_eq_true,
    decide_eq_true_eq, List.isPrefixOf_iff_prefix] at hdirectory ⊢
  rcases hdirectory with hplace | ⟨file, hfile, hbelow⟩
  · exact .inl hplace
  · refine .inr ?_
    by_cases hsame : file.1 = names
    · exact ⟨_, List.mem_cons_self, hsame ▸ hbelow⟩
    · exact ⟨file, List.mem_cons_of_mem _ (List.mem_filter.2 ⟨hfile, by simpa using hsame⟩), hbelow⟩

/-- The names that a place for a file has. -/
def Place.fileNames? : Place → Option (List String)
  | .directory => none
  | .file names _ | .free names => some names

/-- A place for a file is no directory. -/
theorem isDirectory_of_follow {place : Place} (h : tree.follow here parts = .ok place)
    (hnames : place.fileNames? = some names) (hfree : tree.files.lookup names = none) :
    tree.isDirectory names = false := by
  fun_induction follow tree here parts with
  | case1 => cases h; cases hnames
  | case2 _ _ _ _ ih | case3 _ _ _ ih => exact ih h
  | case4 | case6 | case9 => cases h
  | case5 =>
    cases h
    obtain rfl := Option.some.inj hnames
    simp_all
  | case7 _ _ _ _ _ _ _ _ _ ih => exact ih h
  | case8 =>
    cases h
    obtain rfl := Option.some.inj hnames
    simp_all

/-- **The way to a file.** A path that leads to a place for a file leads to the file that is written
there. -/
theorem follow_withFile {place : Place} (h : tree.follow here parts = .ok place)
    (hnames : place.fileNames? = some names) (text : String) :
    (tree.withFile names text).follow here parts = .ok (.file names (some text)) := by
  fun_induction follow tree here parts with
  | case1 => cases h; cases hnames
  | case2 here part rest hskip ih =>
    rw [follow, if_pos hskip]
    exact ih h
  | case3 here rest hskip ih =>
    rw [follow, if_neg hskip, if_pos rfl]
    exact ih h
  | case4 | case6 | case9 => cases h
  | case5 _ _ _ hskip hup hsize _ _ _ hlast | case8 _ _ _ hskip hup hsize _ _ _ hlast =>
    cases h
    obtain rfl := Option.some.inj hnames
    rw [follow, if_neg hskip, if_neg hup, if_neg hsize]
    dsimp only
    rw [lookup_withFile_self]
    exact if_pos hlast
  | case7 above part rest hskip hup hsize here hfree hdirectory ih =>
    -- A directory on the way has other names than the file.
    have hne : here ≠ names := by
      rintro rfl
      rw [isDirectory_of_follow h hnames hfree] at hdirectory
      cases hdirectory
    rw [follow, if_neg hskip, if_neg hup, if_neg hsize]
    dsimp only
    rw [lookup_withFile_of_ne hne hfree, isDirectory_withFile hdirectory names text]
    exact ih h

theorem place_withFile {place : Place} (h : tree.place path = .ok place)
    (hnames : place.fileNames? = some names) (text : String) :
    (tree.withFile names text).place path = .ok (.file names (some text)) := by
  rw [FileTree.place] at h ⊢
  split at h
  · cases h
  · rename_i hempty
    split at h
    · cases h
    · rename_i hnul
      rw [if_neg hempty, if_neg hnul]
      exact follow_withFile h hnames text

/-- A file is written to a place for one. -/
theorem exists_place_of_write {written : FileTree} (h : tree.write path text = .ok written) :
    ∃ place names, tree.place path = .ok place ∧ place.fileNames? = some names ∧
      written = tree.withFile names text := by
  have hplace : (tree.place path >>= fun place => match place with
      | .directory => throw .isADirectory
      | .file names _ | .free names => pure (tree.withFile names text)) = .ok written := by
    rw [write] at h
    split at h
    · cases hslash : tree.place (withoutSlash path) <;> rw [hslash] at h <;> cases h
    · exact h
  cases hfollow : tree.place path with
  | error fault =>
    rw [hfollow] at hplace
    cases hplace
  | ok place =>
    rw [hfollow] at hplace
    cases place with
    | directory => cases hplace
    | file names | free names =>
      cases hplace
      exact ⟨_, names, rfl, rfl, rfl⟩

/-- **Written files.** What is written to a path is read from it. -/
theorem read_of_write {written : FileTree} (h : tree.write path text = .ok written) :
    written.read path = .ok text := by
  obtain ⟨place, names, hplace, hnames, rfl⟩ := exists_place_of_write h
  simp only [read, place_withFile hplace hnames, bind, Except.bind]
  rfl

end FieldAccess.FileTree
