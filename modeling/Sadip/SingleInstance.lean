import Mathlib.Logic.Function.Basic
import Sadip.Machinery.Run

/-!
# SingleInstance — the lock file of `node/src/main.cpp`

A process opens `./node.lock`, takes a write lock on what it has opened and runs; one that gets no
lock returns from `main`.  A lock is on an inode and goes with its holder, while the name can be
taken off the inode: that is what `~SingleInstance` does, for a process that ran and for one that
was refused.  One event is one system call, so that runs are all interleavings of the processes.

A host stays sound (`Inv`) as long as nobody removes the name while somebody else has the file
open, and one removal that does not keep to this lets two processes run (`exists_two_running`).
-/

namespace Sadip

namespace SingleInstance

/-! ## A host and its processes -/

abbrev Pid := ℕ

abbrev Inode := ℕ

/-- How far a process has got. -/
inductive Phase
  | absent
  /-- in `main`, with `instance` constructed -/
  | launched
  /-- `fileDescriptor` is open -/
  | opened (i : Inode)
  /-- `isAnotherInstanceRunning` has returned `true` -/
  | refused
  /-- `isAnotherInstanceRunning` has returned `false` -/
  | running (i : Inode)
  /-- `~SingleInstance` has closed the file -/
  | closed
  deriving DecidableEq

/-- The inode a process has open. -/
def Phase.file : Phase → Option Inode
  | .opened i => some i
  | .running i => some i
  | _ => none

structure Host where
  /-- what `./node.lock` names -/
  name : Option Inode
  /-- the inode the next file gets -/
  next : Inode
  /-- the write locks -/
  lock : Inode → Option Pid
  phase : Pid → Phase

namespace Host

def move (h : Host) (p : Pid) (ph : Phase) : Host :=
    { h with phase := Function.update h.phase p ph }

/-- The locks of a process go when it closes the file, and when it exits. -/
def release (h : Host) (p : Pid) : Host :=
  { h with lock := fun i => if h.lock i = some p then none else h.lock i }

/-- `open(lockfile, O_RDWR | O_CREAT)`, which may fail. -/
def openFile (h : Host) (p : Pid) (ok : Bool) : Host :=
  if ok then
    match h.name with
    | some i => h.move p (.opened i)
    | none => { h with name := some h.next, next := h.next + 1 }.move p (.opened h.next)
  else h.move p .refused

/-- `fcntl(fileDescriptor, F_SETLK, &fl)`, which fails when another process has the lock, and may
fail otherwise. -/
def setLock (h : Host) (p : Pid) (i : Inode) (ok : Bool) : Host :=
  if ok ∧ (h.lock i = none ∨ h.lock i = some p) then
    { h with lock := Function.update h.lock i (some p) }.move p (.running i)
  else (h.release p).move p .refused

/-- `fs::remove(lockfile)`, the last step of `~SingleInstance`. -/
def remove (h : Host) (p : Pid) : Host := { h with name := none }.move p .absent

end Host

/-- One system call of a process, or its end by `exit` or by a signal. -/
inductive Event
  | launch (p : Pid)
  | openFile (p : Pid) (ok : Bool)
  | setLock (p : Pid) (ok : Bool)
  | close (p : Pid)
  | remove (p : Pid)
  | exit (p : Pid)

/-- A process takes its steps in the order of the source; `exit` runs no destructor of `main`. -/
def step (h : Host) : Event → Option Host
  | .launch p => if h.phase p = .absent then some (h.move p .launched) else none
  | .openFile p ok => if h.phase p = .launched then some (h.openFile p ok) else none
  | .setLock p ok =>
      match h.phase p with
      | .opened i => some (h.setLock p i ok)
      | _ => none
  | .close p =>
      match h.phase p with
      | .running _ => some ((h.release p).move p .closed)
      | _ => none
  | .remove p => if h.phase p = .refused ∨ h.phase p = .closed then some (h.remove p) else none
  | .exit p => if h.phase p = .absent then none else some ((h.release p).move p .absent)

/-- A host on which nothing runs; a run that was killed may have left the file. -/
def booted (left : Bool) : Host where
  name := if left then some 0 else none
  next := 1
  lock _ := none
  phase _ := .absent

/-- **At most one process is past the check.** -/
def AtMostOne (h : Host) : Prop :=
  ∀ p q i j, h.phase p = .running i → h.phase q = .running j → p = q

/-! ## Sound hosts -/

structure Inv (h : Host) : Prop where
  /-- who runs holds the lock, and nobody else does -/
  holder : ∀ i p, h.lock i = some p ↔ h.phase p = .running i
  /-- an open file is the one that has the name -/
  named : ∀ p i, (h.phase p).file = some i → h.name = some i
  used : ∀ i, h.name = some i → i < h.next

variable {h h' : Host} {p q : Pid} {i j : Inode} {ph : Phase} {e : Event}

theorem inv_booted (left : Bool) : Inv (booted left) where
  holder _ _ := by simp [booted]
  named _ _ hp := by simp [booted, Phase.file] at hp
  used i hi := by
    cases left
    · simp [booted] at hi
    · obtain rfl : 0 = i := by simpa [booted] using hi
      exact Nat.zero_lt_one

theorem Inv.atMostOne (hs : Inv h) : AtMostOne h := by
  intro p q i j hp hq
  have hi := hs.named p i (by rw [hp, Phase.file])
  have hj := hs.named q j (by rw [hq, Phase.file])
  obtain rfl : i = j := Option.some.inj (hi.symm.trans hj)
  exact Option.some.inj (((hs.holder i p).mpr hp).symm.trans ((hs.holder i q).mpr hq))

@[simp] theorem move_self (h : Host) (p : Pid) (ph : Phase) : (h.move p ph).phase p = ph :=
  Function.update_self ..

theorem move_other (h : Host) (ph : Phase) (hq : q ≠ p) : (h.move p ph).phase q = h.phase q :=
  Function.update_of_ne hq ..

theorem ne_running_of_file (hfile : ph.file = none) (i : Inode) : ph ≠ .running i := by
  rintro rfl
  cases hfile

theorem release_eq_some : (h.release p).lock i = some q ↔ h.lock i = some q ∧ q ≠ p := by
  show (if h.lock i = some p then none else h.lock i) = some q ↔ _
  by_cases hp : h.lock i = some p
  · rw [if_pos hp, hp, Option.some.injEq]
    exact iff_of_false (by simp) fun ⟨he, hne⟩ => hne he.symm
  · rw [if_neg hp]
    exact ⟨fun hq => ⟨hq, fun he => hp (he ▸ hq)⟩, And.left⟩

/-- **A process that closes its file and gives up its locks leaves the host sound.** -/
theorem Inv.leave (hs : Inv h) (hfile : ph.file = none) : Inv ((h.release p).move p ph) where
  holder i q := by
    refine release_eq_some.trans ?_
    by_cases hq : q = p
    · subst hq
      rw [move_self]
      exact iff_of_false (fun ⟨_, hne⟩ => hne rfl) (ne_running_of_file hfile i)
    · rw [move_other _ _ hq]
      exact (and_iff_left hq).trans (hs.holder i q)
  named q i hqi := by
    by_cases hq : q = p
    · subst hq
      rw [move_self, hfile] at hqi
      cases hqi
    · rw [move_other _ _ hq] at hqi
      exact hs.named q i hqi
  used := hs.used

/-- A process that has no lock may go on to a phase without one, with no file open or the one that
has the name. -/
theorem Inv.move (hs : Inv h) (hp : ∀ i, h.phase p ≠ .running i) (hph : ∀ i, ph ≠ .running i)
    (hfile : ∀ i, ph.file = some i → h.name = some i) : Inv (h.move p ph) where
  holder i q := by
    refine (hs.holder i q).trans ?_
    by_cases hq : q = p
    · subst hq
      rw [move_self]
      exact iff_of_false (hp i) (hph i)
    · rw [move_other _ _ hq]
  named q i hqi := by
    by_cases hq : q = p
    · subst hq
      rw [move_self] at hqi
      exact hfile i hqi
    · rw [move_other _ _ hq] at hqi
      exact hs.named q i hqi
  used := hs.used

/-- A name that nothing has may go to a new file. -/
theorem Inv.create (hs : Inv h) (hname : h.name = none) :
    Inv { h with name := some h.next, next := h.next + 1 } where
  holder := hs.holder
  named p i hp := by
    have := hs.named p i hp
    rw [hname] at this
    cases this
  used i hi := by
    obtain rfl := Option.some.inj hi
    exact Nat.lt_succ_self _

theorem Inv.openFile (hs : Inv h) (hp : h.phase p = .launched) (ok : Bool) :
    Inv (h.openFile p ok) := by
  have hnot : ∀ i, h.phase p ≠ .running i := by simp [hp]
  rw [Host.openFile]
  split
  · rcases hname : h.name with - | i
    · refine (hs.create hname).move hnot (by simp) fun i hi => ?_
      exact hi
    · refine hs.move hnot (by simp) fun j hj => ?_
      rw [hname]
      exact hj
  · exact hs.move hnot (by simp) fun i hi => by cases hi

/-- A lock that is free, or one's own, makes a process the only one on its file. -/
theorem Inv.setLock (hs : Inv h) (hp : h.phase p = .opened i) (ok : Bool) :
    Inv (h.setLock p i ok) := by
  rw [Host.setLock]
  split
  · rename_i hfree
    refine ⟨fun j q => ?_, fun q j hqj => ?_, hs.used⟩
    · show Function.update h.lock i (some p) j = some q ↔ _
      by_cases hq : q = p
      · subst hq
        rw [move_self, Phase.running.injEq]
        by_cases hj : j = i
        · subst hj
          exact iff_of_true (Function.update_self ..) rfl
        · rw [Function.update_of_ne hj, hs.holder, hp]
          exact iff_of_false (by simp) (Ne.symm hj)
      · rw [move_other _ _ hq]
        by_cases hj : j = i
        · subst hj
          rw [Function.update_self, Option.some.injEq]
          refine iff_of_false (Ne.symm hq) fun hrun => ?_
          rw [(hs.holder j q).mpr hrun] at hfree
          simp [hq] at hfree
        · rw [Function.update_of_ne hj]
          exact hs.holder j q
    · by_cases hq : q = p
      · subst hq
        rw [move_self] at hqj
        exact hs.named q j (by rw [hp, ← hqj]; rfl)
      · rw [move_other _ _ hq] at hqj
        exact hs.named q j hqj
  · exact hs.leave rfl

theorem Inv.remove (hs : Inv h) (hp : h.phase p = .refused ∨ h.phase p = .closed)
    (halone : ∀ q, q ≠ p → (h.phase q).file = none) : Inv (h.remove p) := by
  have hnone : ∀ q, (h.phase q).file = none := fun q => by
    by_cases hq : q = p
    · rcases hp with hp | hp <;> rw [hq, hp] <;> rfl
    · exact halone q hq
  refine Inv.move ⟨hs.holder, fun q i hq => ?_, fun i hi => ?_⟩ (fun i => ?_) (by simp)
    fun i hi => ?_
  · rw [hnone q] at hq
    cases hq
  · cases hi
  · exact ne_running_of_file (hnone p) i
  · cases hi

/-- What a removal must not meet: another process that has the file open. -/
def Undisturbed (h : Host) : Event → Prop
  | .remove p => ∀ q, q ≠ p → (h.phase q).file = none
  | _ => True

/-- **A system call that does not take the name off an open file leaves the host sound.** -/
theorem inv_step (hs : Inv h) (he : Undisturbed h e) (hstep : step h e = some h') : Inv h' := by
  rcases e with p | ⟨p, ok⟩ | ⟨p, ok⟩ | p | p | p
  · obtain ⟨hp, ⟨⟩⟩ := Option.ite_none_right_eq_some.mp hstep
    exact hs.move (by simp [hp]) (by simp) fun i hi => by cases hi
  · obtain ⟨hp, ⟨⟩⟩ := Option.ite_none_right_eq_some.mp hstep
    exact hs.openFile hp ok
  · rw [step] at hstep
    split at hstep
    · rename_i i hp
      obtain rfl := Option.some.inj hstep
      exact hs.setLock hp ok
    · cases hstep
  · rw [step] at hstep
    split at hstep
    · obtain rfl := Option.some.inj hstep
      exact hs.leave rfl
    · cases hstep
  · obtain ⟨hp, ⟨⟩⟩ := Option.ite_none_right_eq_some.mp hstep
    exact hs.remove hp he
  · obtain ⟨-, ⟨⟩⟩ := Option.ite_none_left_eq_some.mp hstep
    exact hs.leave rfl

/-! ## Runs -/

/-- **At most one process runs at any time** in a run that never takes the name off a file that
another process has open. -/
theorem atMostOne_of_undisturbed (left : Bool) (events : List Event)
    (hmeets : Run.Meets step Undisturbed (booted left) events)
    (hrun : Run.run step (booted left) events = some h) : AtMostOne h :=
  (Run.Meets.invariant (fun _ _ _ => inv_step) events _ (inv_booted left) hmeets h hrun).atMostOne

/-- A process that runs on a file without the name does not keep another one from running. -/
theorem run_beside (hp : h.phase p = .absent) (hname : h.name = none)
    (hlock : h.lock h.next = none) (hq : h.phase q = .running i) :
    ∃ h', Run.run step h [.launch p, .openFile p true, .setLock p true] = some h' ∧
      ¬ AtMostOne h' := by
  have hne : q ≠ p := by
    rintro rfl
    rw [hp] at hq
    cases hq
  have hlaunch : step h (.launch p) = some (h.move p .launched) := if_pos hp
  have hopen : step (h.move p .launched) (.openFile p true) = some
      (Host.move { h.move p .launched with name := some h.next, next := h.next + 1 } p
        (.opened h.next)) := by
    rw [step, if_pos (move_self ..), Host.openFile, if_pos rfl]
    show some (match h.name with | some i => _ | none => _) = _
    rw [hname]
    rfl
  rw [Run.run_cons_of_step hlaunch, Run.run_cons_of_step hopen, Run.run, step, move_self]
  refine ⟨_, rfl, fun hone => hne (hone p q h.next i ?_ ?_).symm⟩
  · rw [Host.setLock, if_pos ⟨rfl, .inl hlock⟩, move_self]
  · rw [Host.setLock, if_pos ⟨rfl, .inl hlock⟩, move_other _ _ hne]
    exact (move_other _ _ hne).trans ((move_other _ _ hne).trans hq)

/-- **A removal that does disturb another process can end with two running ones.** -/
theorem exists_two_running (hs : Inv h) (hp : h.phase p = .refused ∨ h.phase p = .closed)
    (hq : q ≠ p) (hfile : (h.phase q).file = some i) :
    ∃ events h', Run.run step h (.remove p :: events) = some h' ∧ ¬ AtMostOne h' := by
  have hremove : step h (.remove p) = some (h.remove p) := if_pos hp
  have hlock : h.lock h.next = none := by
    refine Option.eq_none_iff_forall_not_mem.mpr fun s hs' => ?_
    have hrun := (hs.holder h.next s).mp hs'
    exact Nat.lt_irrefl _ (hs.used _ (hs.named s h.next (by rw [hrun, Phase.file])))
  -- somebody running on a file is enough
  have hbeside : ∀ s j, h.phase s = .running j →
      ∃ events h', Run.run step h (.remove p :: events) = some h' ∧ ¬ AtMostOne h' := by
    intro s j hrun
    have hsp : s ≠ p := by
      rintro rfl
      rcases hp with hp | hp <;> rw [hp] at hrun <;> cases hrun
    obtain ⟨h', hrun', hnot⟩ := run_beside (h := h.remove p) (move_self ..) rfl hlock
      ((move_other _ _ hsp).trans hrun)
    exact ⟨_, h', (Run.run_cons_of_step hremove _).trans hrun', hnot⟩
  rcases hph : h.phase q with - | - | j | - | j | -
  all_goals rw [hph] at hfile; try cases hfile
  · rcases hi : h.lock i with - | s
    · have hq' : (h.remove p).phase q = .opened i := (move_other _ _ hq).trans hph
      have hset : step (h.remove p) (.setLock q true) = some ((h.remove p).setLock q i true) := by
        rw [step, hq']
      have hgot : (h.remove p).setLock q i true = Host.move
          { h.remove p with lock := Function.update h.lock i (some q) } q (.running i) :=
        if_pos ⟨rfl, .inl hi⟩
      rw [hgot] at hset
      have hi' : h.next ≠ i := Nat.ne_of_gt (hs.used i (hs.named q i (by rw [hph, Phase.file])))
      obtain ⟨h', hrun', hnot⟩ := run_beside (p := p) (q := q) (i := i)
        (h := Host.move { h.remove p with lock := Function.update h.lock i (some q) } q
          (.running i))
        ((move_other _ _ hq.symm).trans (move_self ..)) rfl
        ((Function.update_of_ne hi' _ _).trans hlock) (move_self ..)
      exact ⟨_, h', (Run.run_cons_of_step hremove _).trans
        ((Run.run_cons_of_step hset _).trans hrun'), hnot⟩
    · exact hbeside s i ((hs.holder i s).mp hi)
  · exact hbeside q i hph

/-- The first instance runs; a second one is refused, and killed before its destructor. -/
def secondKilled : List Event :=
  [.launch 1, .openFile 1 true, .setLock 1 true, .launch 2, .openFile 2 true, .setLock 2 true,
    .exit 2]

/-- One process runs all along there. -/
theorem atMostOne_secondKilled : ∃ h, Run.run step (booted true) secondKilled = some h ∧
    h.phase 1 = .running 0 ∧ AtMostOne h :=
  ⟨_, rfl, rfl, atMostOne_of_undisturbed true secondKilled
    (by repeat' first | exact trivial | (refine ⟨trivial, ?_⟩; rintro _ ⟨⟩)) rfl⟩

/-- The first instance runs; a second one is refused and takes its name away; so a third one runs.
-/
def secondRefused : List Event :=
  [.launch 1, .openFile 1 true, .setLock 1 true, .launch 2, .openFile 2 true, .setLock 2 true,
    .remove 2, .launch 3, .openFile 3 true, .setLock 3 true]

/-- **Two instances run after one failed launch.** -/
theorem not_atMostOne : ∃ h, Run.run step (booted false) secondRefused = some h ∧
    ¬ AtMostOne h := by
  refine ⟨_, rfl, fun hone => ?_⟩
  exact absurd (hone 1 3 1 2 rfl rfl) (by decide)

end SingleInstance

end Sadip
