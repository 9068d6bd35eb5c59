import PluginKit.System.Files
import PluginKit.Proofs.Effect

/-!
# Trees of files that are changed

What an operation on files changes is told by what lies at every place before and after it. Making
directories takes nothing away, and a path that leads somewhere leads there still. Copying a file
writes to one place. What it writes there is what was read after the place had been emptied: the
content of the source, unless the source lies at that very place.

## Main statements

- `Grows.makeDirectories`: making directories adds directories and changes nothing else.
- `resolve_of_keepsDirectories`: where all directories are kept, paths lead to where they led.
- `copy_of_fileAt`, `exists_of_copy`: which files can be copied, and what the tree is afterwards.
-/

namespace PluginKit.Files

variable {fs fs' : Files} {at_ n p q : Names} {e : Entry} {path source : String}

/-! ## What lies where -/

/-- A file lies at a place. -/
def FileAt (fs : Files) (n : Names) (content : Text.Octets) (mode : Nat) : Prop :=
  fs.lookup n = some (.file content mode)

theorem lookup_insert_of_ne (fs : Files) (other : n ≠ at_) (e : Entry) :
    (fs.insert at_ e).lookup n = fs.lookup n := by
  simp only [lookup, insert, Table.get?_insert_of_ne _ other]

/-- The root and the working directory are directories, so any other entry can be replaced. -/
theorem lookup_insert_self_of_ne (fs : Files) (place : fs.lookup at_ ≠ some .directory) (e : Entry) :
    (fs.insert at_ e).lookup at_ = some e := by
  have fixed : ¬(at_ = [] ∨ at_ = fs.workingDir) := by
    intro fixed
    apply place
    rw [lookup, if_pos fixed]
  exact lookup_insert_self fs e (not_or.1 fixed).1 (not_or.1 fixed).2

/-! ## Directories that are kept -/

/-- Every directory of a tree is a directory of another. -/
structure KeepsDirectories (fs fs' : Files) : Prop where
  workingDir : fs'.workingDir = fs.workingDir
  kept : ∀ n, fs.lookup n = some .directory → fs'.lookup n = some .directory

theorem KeepsDirectories.trans {fs'' : Files} (first : KeepsDirectories fs fs')
    (later : KeepsDirectories fs' fs'') : KeepsDirectories fs fs'' where
  workingDir := later.workingDir.trans first.workingDir
  kept n directory := later.kept n (first.kept n directory)

/-- An entry that takes the place of no directory leaves all directories. -/
theorem keepsDirectories_insert (place : fs.lookup at_ ≠ some .directory) (e : Entry) :
    KeepsDirectories fs (fs.insert at_ e) where
  workingDir := rfl
  kept n directory := by
    have other : n ≠ at_ := by
      rintro rfl
      exact place directory
    rw [lookup_insert_of_ne fs other]
    exact directory

/-- The place that one name of a path leads to. -/
def onward (here : Names) (name : String) : Names :=
  if name = "" ∨ name = "." then here else if name = ".." then here.dropLast else here ++ [name]

/-- A walk goes on from directories by names that are not too long. -/
theorem walk_cons_eq_ok_iff {here there : Names} {name : String} {rest : List String} :
    fs.walk here (name :: rest) = .ok there ↔ fs.lookup here = some .directory ∧
      ¬nameLimit < name.utf8ByteSize ∧ fs.walk (onward here name) rest = .ok there := by
  rw [walk, checkDirectory, onward]
  cases fs.lookup here with
  | none => simp [bind, Except.bind]
  | some e =>
    cases e with
    | file content mode => simp [bind, Except.bind]
    | socket => simp [bind, Except.bind]
    | directory =>
      by_cases long : nameLimit < name.utf8ByteSize
      · simp [long, bind, Except.bind, throw, throwThe, MonadExceptOf.throw]
      · simp only [bind, Except.bind, long, if_false, not_false_eq_true, true_and]
        by_cases stay : name = "" ∨ name = "."
        · rw [if_pos stay, if_pos stay]
        · by_cases up : name = ".."
          · rw [if_neg stay, if_pos up, if_neg stay, if_pos up]
          · rw [if_neg stay, if_neg up, if_neg stay, if_neg up]

/-- A walk leads to the same place when all directories are kept. -/
theorem walk_of_keepsDirectories (keeps : KeepsDirectories fs fs') {here there : Names}
    {names : List String} (h : fs.walk here names = .ok there) : fs'.walk here names = .ok there := by
  induction names generalizing here with
  | nil => exact h
  | cons name rest ih =>
    obtain ⟨directory, short, goes⟩ := walk_cons_eq_ok_iff.1 h
    exact walk_cons_eq_ok_iff.2 ⟨keeps.kept here directory, short, ih goes⟩

/-- A path leads to the same place when all directories are kept. -/
theorem resolve_of_keepsDirectories (keeps : KeepsDirectories fs fs') (h : fs.resolve path = .ok n) :
    fs'.resolve path = .ok n := by
  rw [resolve] at h ⊢
  obtain ⟨begins, starts, walks⟩ := ok_of_bind h
  have same : fs'.start path = fs.start path := by rw [start, start, keeps.workingDir]
  rw [same, starts]
  exact walk_of_keepsDirectories keeps walks

/-! ## Making directories -/

/-- A tree has got some directories and is as it was otherwise. -/
structure Grows (fs fs' : Files) : Prop where
  workingDir : fs'.workingDir = fs.workingDir
  kept : ∀ n e, fs.lookup n = some e → fs'.lookup n = some e
  added : ∀ n e, fs'.lookup n = some e → fs.lookup n = some e ∨ e = .directory

theorem Grows.refl (fs : Files) : Grows fs fs :=
  ⟨rfl, fun _ _ h => h, fun _ _ h => .inl h⟩

theorem Grows.trans {fs'' : Files} (first : Grows fs fs') (later : Grows fs' fs'') : Grows fs fs'' where
  workingDir := later.workingDir.trans first.workingDir
  kept n e h := later.kept n e (first.kept n e h)
  added n e h := by
    rcases later.added n e h with before | new
    · exact first.added n e before
    · exact .inr new

theorem Grows.keepsDirectories (grows : Grows fs fs') : KeepsDirectories fs fs' :=
  ⟨grows.workingDir, fun n directory => grows.kept n .directory directory⟩

/-- No file comes up or goes. -/
theorem Grows.fileAt_iff (grows : Grows fs fs') {content : Text.Octets} {mode : Nat} :
    fs'.FileAt n content mode ↔ fs.FileAt n content mode := by
  constructor
  · intro h
    rcases grows.added n _ h with before | new
    · exact before
    · cases new
  · exact grows.kept n _

theorem Grows.makeDirectory (made : fs.makeDirectory path = .ok fs') : Grows fs fs' := by
  rw [Files.makeDirectory] at made
  obtain ⟨at_, -, made⟩ := ok_of_bind made
  split at made
  · cases made
  · next free =>
    cases made
    have place : fs.lookup at_ ≠ some .directory := by
      rw [free]
      exact nofun
    refine ⟨rfl, ?_, ?_⟩
    · intro n e h
      have other : n ≠ at_ := by
        rintro rfl
        cases free.symm.trans h
      rw [lookup_insert_of_ne fs other]
      exact h
    · intro n e h
      by_cases same : n = at_
      · subst same
        rw [lookup_insert_self_of_ne fs place] at h
        exact .inr (Option.some.inj h).symm
      · rw [lookup_insert_of_ne fs same] at h
        exact .inl h

theorem Grows.makeAll (absolute : Bool) (names : List String) (fs : Files) :
    Grows fs (makeAll absolute names fs).2 := by
  induction names generalizing fs with
  | nil => exact Grows.refl fs
  | cons name outer ih =>
    rw [Files.makeAll]
    split
    · next made => exact Grows.makeDirectory made
    · split
      -- the outer directories are made first, and this one is tried again
      · split
        · next halted =>
          have outer_ := ih fs
          rw [halted] at outer_
          exact outer_
        · next made =>
          have outer_ := ih fs
          rw [made] at outer_
          split
          · next made => exact outer_.trans (Grows.makeDirectory made)
          · exact outer_
      · exact Grows.refl fs

/-- Making directories adds directories and changes nothing else, whether it fails or not. -/
theorem Grows.makeDirectories (fs : Files) (path : String) : Grows fs (fs.makeDirectories path).2 :=
  Grows.makeAll _ _ fs

/-! ## Copying -/

/-- A path leads to where a file can be written: to a file or to nothing. -/
structure Writable (fs : Files) (path : String) (q : Names) : Prop where
  some_ : path ≠ ""
  plain : Path.namesDirectory path = false
  leads : fs.resolve path = .ok q
  free : fs.lookup q = none ∨ ∃ content mode, fs.FileAt q content mode

theorem Writable.place (writable : fs.Writable path q) : fs.lookup q ≠ some .directory := by
  intro directory
  rcases writable.free with nothing | ⟨content, mode, file⟩
  · cases nothing.symm.trans directory
  · cases file.symm.trans directory

theorem writable_of_target {old : Option Nat} (h : fs.target path = .ok (q, old)) :
    fs.Writable path q := by
  rw [target] at h
  split at h
  · cases h
  · next some_ =>
    simp only [bind, Except.bind, pure, Except.pure] at h
    split at h
    · split at h <;> cases h
    · next plain =>
      split at h
      · cases h
      · next at_ leads =>
        split at h
        · next nothing =>
          cases h
          exact ⟨some_, eq_false_of_ne_true plain, leads, .inl nothing⟩
        · next file =>
          cases h
          exact ⟨some_, eq_false_of_ne_true plain, leads, .inr ⟨_, _, file⟩⟩
        · cases h
        · cases h

theorem Writable.exists_target (writable : fs.Writable path q) :
    ∃ old, fs.target path = .ok (q, old) := by
  rcases writable.free with nothing | ⟨content, mode, file⟩
  · refine ⟨none, ?_⟩
    simp [target, writable.some_, writable.plain, writable.leads, nothing, bind, Except.bind, pure,
      Except.pure]
  · refine ⟨some mode, ?_⟩
    rw [FileAt] at file
    simp [target, writable.some_, writable.plain, writable.leads, file, bind, Except.bind, pure,
      Except.pure]

theorem entry_eq_ok_iff : fs.entry path = .ok e ↔
    ∃ n, fs.resolve path = .ok n ∧ fs.lookup n = some e := by
  rw [entry]
  cases fs.resolve path with
  | error fault => simp [bind, Except.bind]
  | ok n =>
    cases found : fs.lookup n with
    | none => simp [found, bind, Except.bind, throw, throwThe, MonadExceptOf.throw]
    | some e => simp [found, bind, Except.bind, pure, Except.pure]

theorem read_of_fileAt {content : Text.Octets} {mode : Nat} (leads : fs.resolve path = .ok n)
    (file : fs.FileAt n content mode) : fs.read path = .ok content := by
  have found : fs.entry path = .ok (.file content mode) := entry_eq_ok_iff.2 ⟨n, leads, file⟩
  rw [Files.read, found]
  rfl

/-- The content of a copy of a file: empty if the place of the source is the place to be written to, as
that is emptied first. -/
def stored (p q : Names) (content : Text.Octets) : Text.Octets := if p = q then .empty else content

/-- A file has been copied from one place to another. Nothing else has changed. -/
structure Copied (fs fs' : Files) (content : Text.Octets) (mode : Nat) (p q : Names) : Prop where
  place : fs.lookup q ≠ some .directory
  workingDir : fs'.workingDir = fs.workingDir
  target : fs'.FileAt q (stored p q content) mode
  others : ∀ n, n ≠ q → fs'.lookup n = fs.lookup n

theorem Copied.keepsDirectories {content : Text.Octets} {mode : Nat}
    (copied : Copied fs fs' content mode p q) : KeepsDirectories fs fs' where
  workingDir := copied.workingDir
  kept n directory := by
    have other : n ≠ q := by
      rintro rfl
      exact copied.place directory
    rw [copied.others n other]
    exact directory

/-- A file can be copied to where a file can be written. -/
theorem copy_of_fileAt {content : Text.Octets} {mode : Nat} (leads : fs.resolve source = .ok p)
    (file : fs.FileAt p content mode) (writable : fs.Writable path q) :
    ∃ fs', fs.copy source path = .ok ((stored p q content).size, fs') ∧
      Copied fs fs' content mode p q := by
  obtain ⟨old, target⟩ := writable.exists_target
  have found : fs.entry source = .ok (.file content mode) := entry_eq_ok_iff.2 ⟨p, leads, file⟩
  have place := writable.place
  -- the source is read from the tree in which the target has been emptied
  have emptied : KeepsDirectories fs (fs.insert q (.file .empty (old.getD mode))) :=
    keepsDirectories_insert place _
  have here := lookup_insert_self_of_ne fs place (.file .empty (old.getD mode))
  have left : ∃ mode', (fs.insert q (.file .empty (old.getD mode))).FileAt p (stored p q content) mode' := by
    unfold stored
    split
    · next same =>
      subst same
      exact ⟨_, here⟩
    · next other => exact ⟨mode, (lookup_insert_of_ne fs other _).trans file⟩
  obtain ⟨mode', left⟩ := left
  have read := read_of_fileAt (resolve_of_keepsDirectories emptied leads) left
  refine ⟨(fs.insert q (.file .empty (old.getD mode))).insert q (.file (stored p q content) mode),
    ?_, place, rfl, ?_, ?_⟩
  · simp [copy, found, target, read, bind, Except.bind, pure, Except.pure]
  · apply lookup_insert_self_of_ne
    rw [here]
    exact nofun
  · intro n other
    rw [lookup_insert_of_ne _ other, lookup_insert_of_ne _ other]

/-- Only files can be copied, and only to where a file can be written. -/
theorem exists_of_copy {size : Nat} (h : fs.copy source path = .ok (size, fs')) :
    ∃ p q content mode, fs.resolve source = .ok p ∧ fs.FileAt p content mode ∧ fs.Writable path q := by
  rw [copy] at h
  obtain ⟨e, found, h⟩ := ok_of_bind h
  obtain ⟨p, leads, there⟩ := entry_eq_ok_iff.1 found
  split at h
  · cases h
  · cases h
  · next content mode =>
    obtain ⟨⟨q, old⟩, target, -⟩ := ok_of_bind h
    exact ⟨p, q, content, mode, leads, there, writable_of_target target⟩

end PluginKit.Files
