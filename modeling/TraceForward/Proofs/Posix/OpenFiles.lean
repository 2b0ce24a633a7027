/-
What the calls on files and locks do, and what they leave alone.

Where a path leads depends on the names and on which places are directories, so
it stays the same when a file is opened that was there, locked, written or
closed.  A lock stays with the open file that took it until that is closed.
-/

import TraceForward.Posix.Files

namespace TraceForward

namespace Files

def node? (files : Files) (inode : Nat) : Option Node :=
  (files.inodes[inode]?).map Inode.node

def named? (files : Files) (path : String) : Option Nat :=
  (files.locate path).toOption.bind Place.inode

/-! ### Paths -/

section Paths

variable {files changed : Files}
  (entries : changed.entries = files.entries)
  (directories : ∀ position, changed.isDirectory position = files.isDirectory position)

include entries directories

theorem walk_eq (position : Position) (names : List String) :
    changed.walk position names = files.walk position names := by
  induction names generalizing position with
  | nil => rfl
  | cons name rest ih =>
      have next : changed.follow position name = files.follow position name := by
        unfold follow
        rw [directories]
      have found (place : Position) : changed.lookup? place = files.lookup? place := by
        unfold lookup?
        rw [entries]
      simp only [walk, next, found, ih]

theorem named?_eq (start : changed.workingDirectory = files.workingDirectory) (path : String) :
    changed.named? path = files.named? path := by
  have found (place : Position) : changed.lookup? place = files.lookup? place := by
    unfold lookup?
    rw [entries]
  have located : changed.locate path = files.locate path := by
    unfold locate
    simp only [start, walk_eq entries directories, found]
  rw [named?, named?, located]

end Paths

/-! ### Opening -/

/-- A file that is opened has a number of its own; it is made only if the path
led nowhere. -/
theorem openFile_eq_ok {files changed : Files} {path : String} {file : OpenFile}
    (opened : files.openFile path = .ok (file, changed)) :
    file.number = files.openings ∧ changed.openings = files.openings + 1 ∧
      changed.locks = files.locks ∧
      (∀ inode node, files.node? inode = some node → changed.node? inode = some node) ∧
      (∀ inode, files.named? path = some inode → changed.named? path = some inode) := by
  unfold openFile at opened
  cases located : files.locate path with
  | error fault =>
      rw [located] at opened
      cases opened
  | ok place =>
      simp only [located] at opened
      split at opened
      · cases opened
      · cases known : place.inode with
        | some inode =>
            simp only [known] at opened
            cases opened
            refine ⟨rfl, rfl, rfl, fun _ _ present => present, ?_⟩
            intro inode named
            have same :
                ({ files with openings := files.openings + 1 } : Files).named? path =
                  files.named? path := by
              refine named?_eq ?_ ?_ ?_ path
              · rfl
              · exact fun _ => rfl
              · rfl
            exact same.trans named
        | none =>
            simp only [known] at opened
            cases opened
            refine ⟨rfl, rfl, rfl, ?_, ?_⟩
            · intro inode node present
              obtain ⟨old, here, _⟩ := Option.map_eq_some_iff.mp present
              obtain ⟨within, _⟩ := List.getElem?_eq_some_iff.mp here
              rw [← present, node?, node?]
              exact congrArg _ (List.getElem?_append_left within)
            · intro inode named
              rw [named?, located] at named
              exact absurd (known.symm.trans named) nofun

/-! ### Locking and closing -/

theorem lookup_filter {locks : List (Nat × Nat)} {inode number : Nat}
    {keep : Nat × Nat → Bool} (found : locks.lookup inode = some number)
    (kept : keep (inode, number) = true) :
    (locks.filter keep).lookup inode = some number := by
  induction locks with
  | nil => cases found
  | cons lock rest ih =>
      obtain ⟨key, value⟩ := lock
      rw [List.lookup_cons] at found
      by_cases same : inode = key
      · subst same
        simp only [beq_self_eq_true] at found
        cases found
        rw [List.filter_cons_of_pos kept, List.lookup_cons_self]
      · have differs : (inode == key) = false := beq_eq_false_iff_ne.mpr same
        rw [differs] at found
        have later := ih found
        rw [List.filter_cons]
        split
        · rw [List.lookup_cons, differs]
          exact later
        · exact later

theorem lock?_eq_some {files changed : Files} {file : OpenFile}
    (taken : files.lock? file = some changed) :
    changed.openings = files.openings ∧ changed.inodes = files.inodes ∧
      changed.entries = files.entries ∧
      changed.workingDirectory = files.workingDirectory ∧
      changed.holder? file.inode = some file.number ∧
      (∀ inode number, files.holder? inode = some number →
        changed.holder? inode = some number) := by
  unfold lock? at taken
  cases known : files.holder? file.inode with
  | none =>
      simp only [known] at taken
      cases taken
      refine ⟨rfl, rfl, rfl, rfl, List.lookup_cons_self, ?_⟩
      intro inode number held
      have differs : inode ≠ file.inode := by
        rintro rfl
        exact absurd (known.symm.trans held) nofun
      change List.lookup inode ((file.inode, file.number) :: files.locks) = some number
      rw [List.lookup_cons, beq_eq_false_iff_ne.mpr differs]
      exact held
  | some holder =>
      simp only [known] at taken
      split at taken
      next own =>
        cases taken
        exact ⟨rfl, rfl, rfl, rfl, own ▸ known, fun _ _ held => held⟩
      next => cases taken

theorem close_holder {files : Files} {file : OpenFile} {inode number : Nat}
    (held : files.holder? inode = some number) (another : number ≠ file.number) :
    (files.close file).holder? inode = some number :=
  lookup_filter held (bne_iff_ne.mpr another)

/-! ### Writing and removing -/

theorem change_node {files : Files} {file : OpenFile} {content : Bytes → Bytes} {inode : Nat}
    (another : inode ≠ file.inode) :
    (files.change file content).node? inode = files.node? inode := by
  simp only [node?, change, List.getElem?_modify, if_neg another.symm, id_map']

theorem change_directory (files : Files) (file : OpenFile) (content : Bytes → Bytes)
    (position : Position) :
    (files.change file content).isDirectory position = files.isDirectory position := by
  simp only [isDirectory, inodeAt?, lookup?, change]
  cases List.lookup position files.entries with
  | none => rfl
  | some inode =>
      simp only [Option.bind_some, List.getElem?_modify]
      cases files.inodes[inode]? with
      | none => rfl
      | some old =>
          simp only [Option.map_eq_map, Option.map_some, Option.any_some]
          split
          · split
            next known => rw [known]; rfl
            next => rfl
          · rfl

theorem overwrite_eq_ok {files changed : Files} {file : OpenFile} {content : Bytes}
    (written : files.overwrite file content = .ok changed) :
    changed = files.change file (fun _ => content) ∧
      changed.node? file.inode = some (.file content) := by
  unfold overwrite at written
  split at written
  next old known =>
    cases written
    refine ⟨rfl, ?_⟩
    obtain ⟨inode, here, kind⟩ := Option.map_eq_some_iff.mp known
    simp only [node?, change, List.getElem?_modify, here, Option.map_eq_map, if_true,
      Option.map_some, kind]
  next => cases written

/-- Whether a name was removed or not, the inodes and the locks are as before. -/
theorem removed_same (files : Files) (path : String) :
    ((files.remove path).toOption.getD files).openings = files.openings ∧
      ((files.remove path).toOption.getD files).inodes = files.inodes ∧
      ((files.remove path).toOption.getD files).locks = files.locks := by
  unfold remove
  split
  · exact ⟨rfl, rfl, rfl⟩
  · split
    · exact ⟨rfl, rfl, rfl⟩
    · exact ⟨rfl, rfl, rfl⟩

end Files

end TraceForward
