import Mathlib.Data.List.Perm.Subperm
import ViewAudit.Files.Tree

/-!
Trees and the systems that give access to them. A system lists names in an order
of its own, may refuse to read a file that is there, and may leave out names
that it cannot list, which it then tells. A name that is listed but cannot be
looked up counts as a link that leads nowhere.
-/

namespace ViewAudit

/-! ## Listings of a tree -/

theorem nodup_eraseDups (names : List FileName) : names.eraseDups.Nodup := by
  induction hlength : names.length using Nat.strongRecOn generalizing names with
  | ind length ih =>
      cases names with
      | nil => exact List.nodup_nil
      | cons name rest =>
          rw [List.eraseDups_cons]
          refine List.nodup_cons.mpr ⟨?_, ih _ ?_ _ rfl⟩
          · rw [List.mem_eraseDups, List.mem_filter]
            rintro ⟨-, hne⟩
            simp at hne
          · rw [← hlength, List.length_cons]
            exact Nat.lt_succ_of_le (List.length_filter_le _ _)

namespace FileTree

/-- A directory that a path leads to has an entry of a name, of whatever kind. -/
def HasChild (tree : FileTree) (path : String) (name : FileName) : Prop :=
  ∃ entries node, tree.resolve path = .ok (.directory entries) ∧ (name, node) ∈ entries

section

variable {tree : FileTree} {path : String}

theorem list_eq_none_iff :
    tree.list path = none ↔ ∃ reason, tree.resolve path = .error reason := by
  rw [list]
  cases tree.resolve path with
  | error reason => simp
  | ok node => cases node <;> simp

theorem mem_list_iff {name : FileName} :
    name ∈ (tree.list path).getD [] ↔ tree.HasChild path name := by
  rw [list, HasChild]
  cases tree.resolve path with
  | error reason => simp
  | ok node =>
      cases node with
      | directory entries => simp [namesOf]
      | file _ | link _ => simp

theorem nodup_of_list {listing : List FileName} (h : tree.list path = some listing) :
    listing.Nodup := by
  rw [list] at h
  cases hnode : tree.resolve path with
  | error reason =>
      rw [hnode] at h
      cases h
  | ok node =>
      rw [hnode] at h
      cases node with
      | directory entries =>
          cases h
          exact nodup_eraseDups _
      | file _ | link _ =>
          cases h
          exact List.nodup_nil

end

end FileTree

/-! ## Systems -/

/-- A name is listed in a directory. -/
def Files.Lists (files : Files) (path : String) (name : FileName) : Prop :=
  ∃ listing, files.list path = some listing ∧ name ∈ listing

/-- No name is listed twice in a directory. -/
def Files.ListsOnce (files : Files) (path : String) : Prop :=
  ∀ listing, files.list path = some listing → listing.Nodup

/-- A system gives access to a tree. -/
structure FileTree.IsServedBy (tree : FileTree) (files : Files) : Prop where
  /-- What is read is what is there, unless it is refused in words of the system. -/
  read : ∀ path, files.read path = tree.read path ∨
    ∃ text, files.read path = .error (.system text)
  /-- A path leads nowhere for both, or names that are there are listed. -/
  list_subperm : ∀ path, Option.Rel List.Subperm (files.list path) (tree.list path)
  /-- All names are listed if nothing is told to the contrary. -/
  list_perm : ∀ path, files.listFailures path = [] →
    Option.Rel List.Perm (files.list path) (tree.list path)

namespace FileTree.IsServedBy

variable {tree : FileTree} {files : Files} (h : tree.IsServedBy files) (path : String)

include h

theorem list_cases : (files.list path = none ∧ tree.list path = none) ∨
    ∃ listing own, files.list path = some listing ∧ tree.list path = some own ∧
      listing.Subperm own ∧ (files.listFailures path = [] → listing.Perm own) := by
  have hsubperm := h.list_subperm path
  have hperm := h.list_perm path
  generalize files.list path = listed at hsubperm hperm
  generalize tree.list path = own at hsubperm hperm
  cases hsubperm with
  | none => exact .inl ⟨rfl, rfl⟩
  | some hnames => exact .inr ⟨_, _, rfl, rfl, hnames, fun hnil => by simpa using hperm hnil⟩

theorem list_eq_none_iff :
    files.list path = none ↔ ∃ reason, tree.resolve path = .error reason := by
  rw [← FileTree.list_eq_none_iff]
  rcases h.list_cases path with ⟨hlisted, hown⟩ | ⟨listing, own, hlisted, hown, -⟩
  · rw [hlisted, hown]
  · rw [hlisted, hown]
    exact ⟨nofun, nofun⟩

theorem listsOnce : files.ListsOnce path := by
  intro listing hlisting
  rcases h.list_cases path with ⟨hlisted, -⟩ | ⟨names, own, hlisted, hown, hsubperm, -⟩
  · rw [hlisted] at hlisting
    cases hlisting
  · rw [hlisted] at hlisting
    cases hlisting
    obtain ⟨kept, hperm, hsublist⟩ := hsubperm
    exact hperm.nodup_iff.mp ((FileTree.nodup_of_list hown).sublist hsublist)

/-- Only children are listed. -/
theorem hasChild_of_lists {name : FileName} (hlists : files.Lists path name) :
    tree.HasChild path name := by
  obtain ⟨listing, hlisting, hname⟩ := hlists
  rw [← FileTree.mem_list_iff]
  rcases h.list_cases path with ⟨hlisted, -⟩ | ⟨names, own, hlisted, hown, hsubperm, -⟩
  · rw [hlisted] at hlisting
    cases hlisting
  · rw [hlisted] at hlisting
    cases hlisting
    rw [hown]
    exact hsubperm.subset hname

/-- All children are listed if nothing is told to the contrary. -/
theorem lists_iff_hasChild (hnil : files.listFailures path = []) {name : FileName} :
    files.Lists path name ↔ tree.HasChild path name := by
  refine ⟨h.hasChild_of_lists path, fun hchild => ?_⟩
  rw [← FileTree.mem_list_iff] at hchild
  rcases h.list_cases path with ⟨-, hown⟩ | ⟨listing, own, hlisted, hown, -, hperm⟩
  · rw [hown] at hchild
    cases hchild
  · rw [hown] at hchild
    exact ⟨listing, hlisted, (hperm hnil).mem_iff.mpr hchild⟩

end FileTree.IsServedBy

/-- The system that lists every directory backwards and does not read some files. -/
def FileTree.guarded (tree : FileTree) (refused : List String) : Files where
  read path :=
    if path ∈ refused then .error (.system "Permission denied (os error 13)") else tree.read path
  list path := (tree.list path).map List.reverse

theorem FileTree.isServedBy_guarded (tree : FileTree) (refused : List String) :
    tree.IsServedBy (tree.guarded refused) := by
  have hperm (path : String) :
      Option.Rel List.Perm ((tree.guarded refused).list path) (tree.list path) := by
    change Option.Rel List.Perm ((tree.list path).map List.reverse) (tree.list path)
    cases tree.list path with
    | none => exact .none
    | some listing => exact .some (List.reverse_perm listing)
  refine ⟨fun path => ?_, fun path => ?_, fun path _ => hperm path⟩
  · change (if path ∈ refused then _ else _) = _ ∨ ∃ text, (if path ∈ refused then _ else _) = _
    split
    · exact .inr ⟨_, rfl⟩
    · exact .inl rfl
  · have hsame := hperm path
    generalize (tree.guarded refused).list path = listed at hsame
    generalize tree.list path = own at hsame
    cases hsame with
    | none => exact .none
    | some hsame => exact .some hsame.subperm

end ViewAudit
