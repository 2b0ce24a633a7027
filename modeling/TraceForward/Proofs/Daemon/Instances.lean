/-
Instances that compete for one PID file.

The lock belongs to the inode that was opened, not to the path.  So instances
never share an inode that they have locked, and whoever holds a file finds its
own line in it, under every schedule of their calls.  The path is another matter:
an instance that opened the file before the holder removed it locks what has no
name any more, and the next one makes a file of its own.  If nobody locks a file
that the path has ceased to lead to, at most one instance holds a PID file, and
the path leads to it.
-/

import TraceForward.Daemon.PidFile
import TraceForward.Proofs.Posix.OpenFiles

namespace TraceForward

namespace PidFile

/-! ### One instance -/

def Phase.file? : Phase → Option OpenFile
  | .opened file => some file
  | .locked file => some file
  | .held file => some file
  | .removed file => some file
  | _ => none

def Phase.lock? : Phase → Option OpenFile
  | .locked file => some file
  | .held file => some file
  | .removed file => some file
  | _ => none

theorem Phase.file?_of_lock? {phase : Phase} {file : OpenFile} (owned : phase.lock? = some file) :
    phase.file? = some file := by
  cases phase with
  | locked own => exact owned
  | held own => exact owned
  | removed own => exact owned
  | _ => cases owned

structure Phase.Sound (pid : Nat) (files : Files) (phase : Phase) : Prop where
  number : ∀ file, phase.file? = some file → file.number < files.openings
  owns : ∀ file, phase.lock? = some file → files.holder? file.inode = some file.number
  line : ∀ file, phase = .held file → files.node? file.inode = some (.file (content pid))

/-- What other instances have done is nothing to the one that has a file open. -/
structure Spares (files changed : Files) (file : OpenFile) : Prop where
  openings : files.openings ≤ changed.openings
  holder : files.holder? file.inode = some file.number →
    changed.holder? file.inode = some file.number
  node : files.holder? file.inode = some file.number →
    ∀ node, files.node? file.inode = some node → changed.node? file.inode = some node

theorem Phase.Sound.spared {pid : Nat} {files changed : Files} {phase : Phase}
    (sound : phase.Sound pid files)
    (spared : ∀ file, phase.file? = some file → Spares files changed file) :
    phase.Sound pid changed := by
  constructor
  · intro file opened
    exact Nat.lt_of_lt_of_le (sound.number file opened) (spared file opened).openings
  · intro file owned
    exact (spared file (file?_of_lock? owned)).holder (sound.owns file owned)
  · rintro file rfl
    exact (spared file rfl).node (sound.owns file rfl) _ (sound.line file rfl)

theorem Phase.Sound.of_done {pid : Nat} {files : Files} {phase : Phase}
    (done : phase.file? = none) : phase.Sound pid files := by
  have unlocked : phase.lock? = none := by
    cases known : phase.lock? with
    | none => rfl
    | some file => exact absurd (done.symm.trans (file?_of_lock? known)) nofun
  constructor
  · intro file opened
    exact absurd (done.symm.trans opened) nofun
  · intro file owned
    exact absurd (unlocked.symm.trans owned) nofun
  · rintro file rfl
    cases done

inductive Phase.Call (path : String) (pid : Nat) (files : Files) :
    Phase → Phase → Files → Prop where
  | opens {file : OpenFile} {changed : Files}
      (opened : files.openFile path = .ok (file, changed)) :
      Call path pid files .idle (.opened file) changed
  | locks {file : OpenFile} {changed : Files} (taken : files.lock? file = some changed) :
      Call path pid files (.opened file) (.locked file) changed
  | writes {file : OpenFile} {changed : Files}
      (written : files.overwrite file (content pid) = .ok changed) :
      Call path pid files (.locked file) (.held file) changed
  | removes {file : OpenFile} :
      Call path pid files (.held file) (.removed file)
        ((files.remove path).toOption.getD files)
  /-- The file is closed, after its name was removed or because a call failed. -/
  | closes {phase next : Phase} {file : OpenFile} (opened : phase.file? = some file)
      (done : next.file? = none) : Call path pid files phase next (files.close file)
  | rests {phase next : Phase} (done : next.file? = none) :
      Call path pid files phase next files

section Call

variable {path : String} {pid : Nat} {files changed : Files} {phase next : Phase}

theorem Phase.advance_call (path : String) (pid : Nat) (files : Files) (phase : Phase) :
    phase.Call path pid files (phase.advance path pid files).1
      (phase.advance path pid files).2 := by
  cases phase with
  | idle =>
      simp only [Phase.advance]
      split
      next opened => exact .opens opened
      next => exact .rests rfl
  | opened file =>
      simp only [Phase.advance]
      split
      next taken => exact .locks taken
      next => exact .closes rfl rfl
  | locked file =>
      simp only [Phase.advance]
      split
      next written => exact .writes written
      next => exact .closes rfl rfl
  | held file => exact .removes
  | removed file => exact .closes rfl rfl
  | released => exact .rests rfl
  | refused fault => exact .rests rfl

theorem Phase.Call.spares (call : phase.Call path pid files next changed)
    (sound : phase.Sound pid files) {file : OpenFile}
    (another : ∀ own, phase.file? = some own → file.number ≠ own.number) :
    Spares files changed file := by
  cases call with
  | opens opened =>
      obtain ⟨_, openings, locks, nodes, _⟩ := Files.openFile_eq_ok opened
      refine ⟨openings ▸ Nat.le_succ _, ?_, fun _ node present => nodes _ node present⟩
      intro held
      rw [Files.holder?, locks]
      exact held
  | locks taken =>
      obtain ⟨openings, inodes, _, _, _, kept⟩ := Files.lock?_eq_some taken
      refine ⟨Nat.le_of_eq openings.symm, kept _ _, ?_⟩
      intro _ node present
      rw [Files.node?, inodes]
      exact present
  | @writes own _ written =>
      obtain ⟨rfl, _⟩ := Files.overwrite_eq_ok written
      refine ⟨Nat.le_refl _, id, ?_⟩
      intro held node present
      -- The writer has the lock of its inode, so whoever has another lock has another inode.
      have elsewhere : file.inode ≠ own.inode := by
        intro same
        rw [same, sound.owns own rfl] at held
        exact another own rfl (Option.some.inj held).symm
      rw [Files.change_node elsewhere]
      exact present
  | removes =>
      obtain ⟨openings, inodes, locks⟩ := Files.removed_same files path
      refine ⟨Nat.le_of_eq openings.symm, ?_, ?_⟩
      · intro held
        rw [Files.holder?, locks]
        exact held
      · intro _ node present
        rw [Files.node?, inodes]
        exact present
  | closes opened done =>
      refine ⟨Nat.le_refl _, ?_, fun _ _ => id⟩
      exact fun held => Files.close_holder held (another _ opened)
  | rests done => exact ⟨Nat.le_refl _, id, fun _ _ => id⟩

theorem Phase.Call.sound (call : phase.Call path pid files next changed)
    (sound : phase.Sound pid files) : next.Sound pid changed := by
  cases call with
  | @opens file _ opened =>
      obtain ⟨number, openings, _⟩ := Files.openFile_eq_ok opened
      have recent : file.number < changed.openings := by omega
      exact ⟨fun own same => Option.some.inj same ▸ recent, nofun, nofun⟩
  | @locks file _ taken =>
      obtain ⟨openings, _, _, _, mine, _⟩ := Files.lock?_eq_some taken
      have known : file.number < changed.openings := openings ▸ sound.number file rfl
      exact
        ⟨fun own same => Option.some.inj same ▸ known,
          fun own same => Option.some.inj same ▸ mine, nofun⟩
  | @writes file _ written =>
      obtain ⟨rfl, line⟩ := Files.overwrite_eq_ok written
      exact
        ⟨sound.number, sound.owns, fun own same => Phase.held.inj same ▸ line⟩
  | @removes file =>
      obtain ⟨openings, _, locks⟩ := Files.removed_same files path
      refine ⟨fun own same => openings ▸ sound.number own same, ?_, nofun⟩
      intro own same
      rw [Files.holder?, locks]
      exact sound.owns own same
  | closes opened done => exact .of_done done
  | rests done => exact .of_done done

/-- An instance keeps the file it has open, or opens one with the next number. -/
theorem Phase.Call.file (call : phase.Call path pid files next changed) {file : OpenFile}
    (opened : next.file? = some file) :
    phase.file? = some file ∨ file.number = files.openings := by
  cases call with
  | opens known =>
      cases opened
      exact .inr (Files.openFile_eq_ok known).1
  | locks => exact .inl opened
  | writes => exact .inl opened
  | removes => exact .inl opened
  | closes _ done => exact absurd (done.symm.trans opened) nofun
  | rests done => exact absurd (done.symm.trans opened) nofun

/-- Only a holder that gives its file up takes the name from a file. -/
theorem Phase.Call.named (call : phase.Call path pid files next changed) {inode : Nat}
    (named : files.named? path = some inode) :
    changed.named? path = some inode ∨ ∃ file, phase = .held file := by
  cases call with
  | opens opened =>
      obtain ⟨_, _, _, _, kept⟩ := Files.openFile_eq_ok opened
      exact .inl (kept inode named)
  | locks taken =>
      obtain ⟨_, inodes, entries, start, _⟩ := Files.lock?_eq_some taken
      left
      rw [Files.named?_eq entries ?_ start]
      · exact named
      · intro position
        rw [Files.isDirectory, Files.inodeAt?, Files.lookup?, entries, inodes]
        rfl
  | writes written =>
      obtain ⟨rfl, _⟩ := Files.overwrite_eq_ok written
      left
      refine (Files.named?_eq ?_ ?_ ?_ path).trans named
      · rfl
      · exact Files.change_directory files _ _
      · rfl
  | removes => exact .inr ⟨_, rfl⟩
  | closes =>
      left
      refine (Files.named?_eq ?_ ?_ ?_ path).trans named
      · rfl
      · exact fun _ => rfl
      · rfl
  | rests => exact .inl named

/-- Whoever has a lock and has not begun to give it up has had it, or has just taken it. -/
theorem Phase.Call.owner (call : phase.Call path pid files next changed) {file : OpenFile}
    (owned : next = .locked file ∨ next = .held file) :
    phase = .locked file ∨ phase = .opened file ∧ files.lock? file = some changed := by
  cases call with
  | opens => exact absurd owned nofun
  | locks taken =>
      rcases owned with ⟨⟨⟩⟩ | ⟨⟨⟩⟩
      exact .inr ⟨rfl, taken⟩
  | writes =>
      rcases owned with ⟨⟨⟩⟩ | ⟨⟨⟩⟩
      exact .inl rfl
  | removes => exact absurd owned nofun
  | closes _ done =>
      rcases owned with rfl | rfl
      · cases done
      · cases done
  | rests done =>
      rcases owned with rfl | rfl
      · cases done
      · cases done

end Call

/-! ### Many instances -/

structure Instances where
  phases : Nat → Phase := fun _ => .idle
  files : Files

namespace Instances

variable (path : String) (pids : Nat → Nat)

def advance (instances : Instances) (which : Nat) : Instances :=
  let (phase, files) := (instances.phases which).advance path (pids which) instances.files
  { phases := fun other => if other = which then phase else instances.phases other, files }

/-- The instances after the calls of a schedule, which names who makes the next one. -/
def run (instances : Instances) (schedule : List Nat) : Instances :=
  schedule.foldl (advance path pids) instances

/-- Instances have no open file in common, and each agrees with the files. -/
structure Sound (instances : Instances) : Prop where
  each : ∀ which, (instances.phases which).Sound (pids which) instances.files
  apart : ∀ which other file another,
    (instances.phases which).file? = some file →
      (instances.phases other).file? = some another →
        file.number = another.number → which = other

variable {path pids} {instances : Instances}

theorem advance_self (instances : Instances) (which : Nat) :
    (instances.phases which).Call path (pids which) instances.files
      ((instances.advance path pids which).phases which)
      (instances.advance path pids which).files := by
  have own :
      (instances.advance path pids which).phases which =
        ((instances.phases which).advance path (pids which) instances.files).1 :=
    if_pos rfl
  rw [own]
  exact Phase.advance_call _ _ _ _

theorem advance_other (instances : Instances) {which other : Nat} (differs : other ≠ which) :
    (instances.advance path pids which).phases other = instances.phases other :=
  if_neg differs

theorem Sound.advance (sound : instances.Sound pids) (which : Nat) :
    (instances.advance path pids which).Sound pids := by
  -- A file of the instance that made the call is not a file of another.
  have alien (file another : OpenFile) (other : Nat) (differs : other ≠ which)
      (opened : ((instances.advance path pids which).phases which).file? = some file)
      (known : (instances.phases other).file? = some another) :
      file.number ≠ another.number := by
    intro same
    rcases (instances.advance_self which).file opened with own | new
    · exact differs (sound.apart which other file another own known same).symm
    · have old := (sound.each other).number another known
      omega
  constructor
  · intro other
    by_cases same : other = which
    · subst same
      exact (instances.advance_self other).sound (sound.each other)
    · rw [advance_other instances same]
      refine (sound.each other).spared ?_
      intro file opened
      refine (instances.advance_self which).spares (sound.each which) ?_
      intro own mine alike
      exact same (sound.apart other which file own opened mine alike)
  · intro first second file another opened known alike
    by_cases isFirst : first = which
    · subst isFirst
      by_cases isSecond : second = first
      · exact isSecond.symm
      · rw [advance_other instances isSecond] at known
        exact absurd alike (alien file another second isSecond opened known)
    · rw [advance_other instances isFirst] at opened
      by_cases isSecond : second = which
      · subst isSecond
        exact absurd alike.symm (alien another file first isFirst known opened)
      · rw [advance_other instances isSecond] at known
        exact sound.apart first second file another opened known alike

theorem Sound.run (sound : instances.Sound pids) (schedule : List Nat) :
    (instances.run path pids schedule).Sound pids := by
  induction schedule generalizing instances with
  | nil => exact sound
  | cons which rest ih => exact ih (sound.advance which)

theorem Sound.idle (files : Files) : ({ files } : Instances).Sound pids :=
  ⟨fun _ => ⟨nofun, nofun, nofun⟩, nofun⟩

theorem Sound.lock_unique (sound : instances.Sound pids) {which other : Nat}
    {file another : OpenFile} (mine : (instances.phases which).lock? = some file)
    (yours : (instances.phases other).lock? = some another)
    (same : file.inode = another.inode) : which = other := by
  have held := (sound.each which).owns file mine
  rw [same, (sound.each other).owns another yours] at held
  exact sound.apart which other file another (Phase.file?_of_lock? mine)
    (Phase.file?_of_lock? yours) (Option.some.inj held).symm

/-! ### The path and the lock -/

/-- At most one instance holds a PID file; the path leads to it, and it has the line
of its holder. -/
structure Exclusive (path : String) (pids : Nat → Nat) (instances : Instances) : Prop where
  alone : ∀ which other file another,
    instances.phases which = .held file → instances.phases other = .held another →
      which = other
  named : ∀ which file, instances.phases which = .held file →
    instances.files.named? path = some file.inode
  line : ∀ which file, instances.phases which = .held file →
    instances.files.node? file.inode = some (.file (content (pids which)))

/-- Whether a lock that an instance takes next is that of the file the path leads to. -/
def takesNamed (path : String) (instances : Instances) (which : Nat) : Bool :=
  match instances.phases which with
  | .opened file =>
      instances.files.named? path == some file.inode ||
        (instances.files.lock? file).isNone
  | _ => true

def takesNamedAlways (path : String) (pids : Nat → Nat) : Instances → List Nat → Bool
  | _, [] => true
  | instances, which :: rest =>
      instances.takesNamed path which &&
        takesNamedAlways path pids (instances.advance path pids which) rest

/-- The path leads to every file whose holder has not begun to give it up. -/
def Named (path : String) (instances : Instances) : Prop :=
  ∀ which file,
    instances.phases which = .locked file ∨ instances.phases which = .held file →
      instances.files.named? path = some file.inode

theorem Named.advance (named : instances.Named path) (sound : instances.Sound pids)
    {which : Nat} (taken : instances.takesNamed path which = true) :
    (instances.advance path pids which).Named path := by
  have call :
      (instances.phases which).Call path (pids which) instances.files
        ((instances.advance path pids which).phases which)
        (instances.advance path pids which).files :=
    instances.advance_self which
  intro other file owned
  by_cases same : other = which
  · subst same
    rcases call.owner owned with locked | ⟨opened, lock⟩
    · rcases call.named (named other file (.inl locked)) with kept | ⟨own, held⟩
      · exact kept
      · cases locked.symm.trans held
    · have current : instances.files.named? path = some file.inode := by
        simpa [takesNamed, opened, lock] using taken
      rcases call.named current with kept | ⟨own, held⟩
      · exact kept
      · cases opened.symm.trans held
  · rw [instances.advance_other same] at owned
    have here := named other file owned
    rcases call.named here with kept | ⟨own, held⟩
    · exact kept
    · -- The name is taken from the file of a holder, which this one would have locked as well.
      have alike : file.inode = own.inode :=
        Option.some.inj (here.symm.trans (named which own (.inr held)))
      have mine : (instances.phases which).lock? = some own := by
        rw [held]
        rfl
      have yours : (instances.phases other).lock? = some file := by
        rcases owned with locked | held
        · rw [locked]
          rfl
        · rw [held]
          rfl
      exact absurd (sound.lock_unique yours mine alike) same

theorem Named.run (named : instances.Named path) (sound : instances.Sound pids)
    {schedule : List Nat} (taken : instances.takesNamedAlways path pids schedule = true) :
    (instances.run path pids schedule).Named path := by
  induction schedule generalizing instances with
  | nil => exact named
  | cons which rest ih =>
      rw [takesNamedAlways, Bool.and_eq_true] at taken
      exact ih (named.advance sound taken.1) (sound.advance which) taken.2

/-- Instances that never lock a file to which the path has ceased to lead exclude
each other. -/
theorem run_exclusive (files : Files) {schedule : List Nat}
    (taken : takesNamedAlways path pids { files } schedule = true) :
    Exclusive path pids (run path pids { files } schedule) := by
  have sound : (run path pids { files } schedule).Sound pids := (Sound.idle files).run schedule
  have start : ({ files } : Instances).Named path := by
    rintro which file (locked | held)
    · cases locked
    · cases held
  have named := start.run (Sound.idle files) taken
  constructor
  case alone =>
    intro which other file another mine yours
    have alike : file.inode = another.inode :=
      Option.some.inj ((named which file (.inr mine)).symm.trans
        (named other another (.inr yours)))
    refine sound.lock_unique ?_ ?_ alike
    · rw [mine]
      rfl
    · rw [yours]
      rfl
  case named => exact fun which file held => named which file (.inr held)
  case line => exact fun which file held => (sound.each which).line file held

/-- The second of three instances is refused, and the third comes after the first. -/
theorem run_exclusive_sample :
    takesNamedAlways "relay.pid" (100 + ·) { files := .fresh } [0, 0, 0, 1, 1, 0, 0, 2, 2, 2] =
        true ∧
      Exclusive "relay.pid" (100 + ·)
        (run "relay.pid" (100 + ·) { files := .fresh } [0, 0, 0, 1, 1, 0, 0, 2, 2, 2]) := by
  have taken :
      takesNamedAlways "relay.pid" (100 + ·) { files := .fresh }
          [0, 0, 0, 1, 1, 0, 0, 2, 2, 2] = true := by
    decide +kernel
  exact ⟨taken, run_exclusive .fresh taken⟩

/-- Before the first instance removes the file the second opens it, so nothing keeps
the second from locking it later; the third finds no file and makes another.  Two hold
a PID file then, and the path leads to that of the third. -/
theorem run_not_exclusive :
    ∃ schedule : List Nat,
      (run "relay.pid" (100 + ·) { files := .fresh } schedule).phases 1 =
          .held { number := 1, inode := 21 } ∧
        (run "relay.pid" (100 + ·) { files := .fresh } schedule).phases 2 =
          .held { number := 2, inode := 22 } ∧
        (run "relay.pid" (100 + ·) { files := .fresh } schedule).files.named? "relay.pid" =
          some 22 ∧
        ¬ Exclusive "relay.pid" (100 + ·)
          (run "relay.pid" (100 + ·) { files := .fresh } schedule) := by
  have held :
      (run "relay.pid" (100 + ·) { files := .fresh } [0, 0, 0, 1, 0, 0, 1, 1, 2, 2, 2]).phases 1 =
          .held { number := 1, inode := 21 } ∧
        (run "relay.pid" (100 + ·) { files := .fresh }
            [0, 0, 0, 1, 0, 0, 1, 1, 2, 2, 2]).phases 2 =
          .held { number := 2, inode := 22 } ∧
        (run "relay.pid" (100 + ·) { files := .fresh }
            [0, 0, 0, 1, 0, 0, 1, 1, 2, 2, 2]).files.named? "relay.pid" = some 22 := by
    decide +kernel
  obtain ⟨second, third, named⟩ := held
  refine ⟨_, second, third, named, ?_⟩
  intro exclusive
  have same := exclusive.alone 1 2 _ _ second third
  exact absurd same (by decide)

end Instances
end PidFile
end TraceForward
