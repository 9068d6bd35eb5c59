import PluginKit.System.Files

/-!
# Programs

A program that is run writes octets, changes files and ends, each at some moment after its start. What
the programs of a site do is given; what a host makes of it is not. The site keeps which programs
were run, each by the path or the name that it was called by.

A path with a slash leads to the file of the program. A name without one is looked for in the
directories of the search path.

## Main statements

- `firstBinary_append`: candidates that are missing or may not be run are passed over.
- `run_runs`: a program that was run is kept.
-/

namespace PluginKit

open Text (Octets)

/-- How a program ended. -/
inductive Ending where
  | exited (status : Nat)
  | signalled (number : Nat)
  deriving DecidableEq, Repr

namespace Ending

/-- The names of signals. -/
def signalNames : List (Nat × String) :=
  [(1, "SIGHUP"), (2, "SIGINT"), (3, "SIGQUIT"), (4, "SIGILL"), (5, "SIGTRAP"), (6, "SIGABRT"),
    (7, "SIGBUS"), (8, "SIGFPE"), (9, "SIGKILL"), (10, "SIGUSR1"), (11, "SIGSEGV"), (12, "SIGUSR2"),
    (13, "SIGPIPE"), (14, "SIGALRM"), (15, "SIGTERM"), (16, "SIGSTKFLT"), (17, "SIGCHLD"),
    (18, "SIGCONT"), (19, "SIGSTOP"), (20, "SIGTSTP"), (21, "SIGTTIN"), (22, "SIGTTOU"),
    (23, "SIGURG"), (24, "SIGXCPU"), (25, "SIGXFSZ"), (26, "SIGVTALRM"), (27, "SIGPROF"),
    (28, "SIGWINCH"), (29, "SIGIO"), (30, "SIGPWR"), (31, "SIGSYS")]

/-- The wording of an ending. -/
def text : Ending → String
  | .exited status => "exit status: " ++ toString status
  | .signalled n =>
    "signal: " ++ toString n ++ ((signalNames.lookup n).elim "" fun name => " (" ++ name ++ ")")

/-- Whether the program did what it was to do. -/
def isSuccess (e : Ending) : Bool := e == .exited 0

end Ending

/-- The run of a program after its start, by milliseconds: the octets that it writes, the files as it
leaves them, and how it ends if it does so by itself. -/
structure Execution where
  output : List (Nat × Octets) := []
  files : List (Nat × Files) := []
  ending : Option (Nat × Ending) := none

namespace Execution

/-- The octets that were written up to a moment. -/
def outputUntil (x : Execution) (time : Nat) : Octets :=
  (x.output.filter fun e => e.1 ≤ time).foldl (fun acc e => acc ++ e.2) .empty

/-- Everything that is written. -/
def allOutput (x : Execution) : Octets := x.output.foldl (fun acc e => acc ++ e.2) .empty

/-- The files right before a moment, given those at the start. -/
def filesBefore (x : Execution) (start : Files) (time : Nat) : Files :=
  ((x.files.filter fun e => e.1 < time).getLast?.map Prod.snd).getD start

/-- Whether the program has ended before a moment. -/
def endsBefore (x : Execution) (time : Nat) : Bool := x.ending.any fun e => e.1 < time

end Execution

/-- The runs of programs, by the content of their files and the arguments. -/
abbrev Programs := Files → Octets → List String → Except IoError Execution

/-- A program that was run. -/
structure Run where
  path : String
  arguments : List String
  deriving DecidableEq, Repr

/-- The variables of the environment that tell where binaries are: the search path and the home
directory. -/
structure Environment where
  searchPath : Option String := none
  home : Option String := none

/-- A site: its files, its programs, its environment and which of the programs were run. -/
structure Site where
  files : Files
  programs : Programs
  environment : Environment := {}
  runs : List Run := []

/-! ## Finding binaries -/

namespace Environment

/-- The directories of a search path, which stand between colons. -/
def directoriesIn (searchPath : String) : List String :=
  (Text.splitAll ':' searchPath.toList).map String.ofList

/-- The directories in which a program is looked for that is called by its name. Without a search path
they are those of the operating system. -/
def callDirectories (e : Environment) : List String :=
  directoriesIn (e.searchPath.getD "/bin:/usr/bin")

end Environment

namespace Files

/-- The content of a file that may be run. -/
def binary (fs : Files) (path : String) : Except IoError Octets := do
  match ← fs.entry path with
  | .file content _ => if fs.isExecutable path then return content else throw .denied
  | _ => throw .denied

/-- An error on which the next candidate for a binary is tried. -/
def isPassedOver (e : IoError) : Bool := e == .notFound || e == .notDirectory || e == .denied

/-- The content of the first of some candidates that may be run. If there is none, the fault is that one
may not be run, or else that of the last one. -/
def firstBinary (fs : Files) (fault : IoError) : List String → Except IoError Octets
  | [] => .error fault
  | path :: rest =>
    match fs.binary path with
    | .ok content => .ok content
    | .error e =>
      if isPassedOver e then fs.firstBinary (if fault = .denied then .denied else e) rest
      else .error e

/-- Candidates that are missing or may not be run are passed over. -/
theorem firstBinary_append {fs : Files} {before : List String}
    (passed : ∀ path ∈ before, ∃ e, fs.binary path = .error e ∧ isPassedOver e = true)
    {path : String} {content : Octets} (found : fs.binary path = .ok content) (fault : IoError)
    (after : List String) : fs.firstBinary fault (before ++ path :: after) = .ok content := by
  induction before generalizing fault with
  | nil => rw [List.nil_append, firstBinary, found]
  | cons p before ih =>
    obtain ⟨e, failed, skipped⟩ := passed p List.mem_cons_self
    rw [List.cons_append, firstBinary, failed]
    dsimp only
    rw [if_pos skipped]
    exact ih (fun q mem => passed q (List.mem_cons_of_mem p mem)) _

end Files

namespace Site

/-- The content of the binary that a call leads to: by a path with a slash to the file there, and by a
name to the first file of this name in the search path that may be run. -/
def binary (s : Site) (path : String) : Except IoError Octets :=
  if '/' ∈ path.toList then s.files.binary path
  else if path = "" then .error .notFound
  else s.files.firstBinary .notFound (s.environment.callDirectories.map fun dir => Path.join dir path)

/-- Runs a program. -/
def run (s : Site) (path : String) (arguments : List String) : Except IoError Execution × Site :=
  match s.binary path with
  | .error e => (.error e, s)
  | .ok content =>
    match s.programs s.files content arguments with
    | .error e => (.error e, s)
    | .ok x => (.ok x, { s with runs := s.runs ++ [.mk path arguments] })

/-- A program that was run is kept. -/
theorem run_runs {s : Site} {path : String} {arguments : List String} {x : Execution}
    (h : (s.run path arguments).1 = .ok x) :
    (s.run path arguments).2.runs = s.runs ++ [.mk path arguments] := by
  unfold run at h ⊢
  split at h
  · simp at h
  · split at h
    · simp at h
    · simp_all

end Site

end PluginKit
