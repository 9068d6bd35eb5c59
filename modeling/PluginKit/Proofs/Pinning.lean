import PluginKit.Discovery
import PluginKit.Proofs.Effect
import PluginKit.Startup

/-!
# Pinned binaries

A configured plugin may be pinned to the hash of its binary. A launch compares before it runs the
binary, and runs nothing if the hashes differ. Discovery compares as well, but has the binary describe
itself first: a binary that is not the pinned one is run once, by discovery, and never by a launch.

A run is told apart by the path that the program was called by. For a command without a slash that is
the path at which discovery found the binary in the search path.

## Main statements

- `locate_eq_ok_iff`: a command leads to the first of its candidates that may be run.
- `exists_binary_of_locate`: a binary that was found by a path with a slash can be called by it.
- `start_of_mismatch`: a launch of a binary that does not have its hash leaves the site as it is.
- `Launches.runsOf_eq`: no launch runs the binary while its file does not have the hash.
- `describeEntry_then_launched`: what discovery runs, what it hands on, and what launches run of it.
-/

namespace PluginKit

/-- The runs of one binary, in their order. -/
def Site.runsOf (s : Site) (path : String) : List Run := s.runs.filter fun r => r.path = path

/-! ## Launches -/

namespace PluginDescriptor

/-- A pinned binary is verified if its file has the hash. -/
theorem verify_pinned_iff {d : PluginDescriptor} {pin : String} (pinned : d.binaryHash = some pin)
    (fs : Files) : d.verify fs = .ok () ↔ hashFile fs d.path = .ok pin := by
  unfold verify
  rw [pinned]
  dsimp only
  cases hashFile fs d.path with
  | error e =>
    constructor <;> intro h <;> cases h
  | ok actual =>
    dsimp only
    split
    · next same => exact iff_of_true rfl (congrArg _ same.symm)
    · next other =>
      refine iff_of_false ?_ ?_
      · intro h
        cases h
      · intro h
        exact other (Except.ok.inj h).symm

/-- A launch of a binary that does not have its hash leaves the site as it is. -/
theorem start_of_mismatch {d : PluginDescriptor} {pin : String} (pinned : d.binaryHash = some pin)
    {site : Site} (mismatch : hashFile site.files d.path ≠ .ok pin) (net : Network Site)
    (ids : Nat → Telemetry.RequestId) (documents : Schema.Documents) (c : ManagerConfig)
    (cap : Capability) : (Startup.start net ids documents c d cap site).2 = site := by
  cases verified : d.verify site.files with
  | error e => rw [Startup.start_unverified verified]
  | ok => exact absurd ((verify_pinned_iff pinned site.files).1 verified) mismatch

/-- From one site to another by launches of a plugin and by whatever else happens meanwhile, which
neither runs its binary nor changes its file. -/
inductive Launches (d : PluginDescriptor) (s : Site) : Site → Prop where
  | here : Launches d s s
  | launch {t : Site} (before : Launches d s t) (net : Network Site)
      (ids : Nat → Telemetry.RequestId) (documents : Schema.Documents) (c : ManagerConfig)
      (cap : Capability) : Launches d s (Startup.start net ids documents c d cap t).2
  | meanwhile {t u : Site} (before : Launches d s t) (quiet : u.runsOf d.path = t.runsOf d.path)
      (kept : u.files.read d.path = t.files.read d.path) : Launches d s u

/-- Files that read alike have the same hash. -/
theorem hashFile_congr {fs gs : Files} {path : String} (same : fs.read path = gs.read path) :
    hashFile fs path = hashFile gs path := by
  rw [hashFile, hashFile, same]

/-- While its file does not have the hash, no launch runs a pinned binary, and none gives it the
hash. -/
theorem Launches.runsOf_eq {d : PluginDescriptor} {pin : String} (pinned : d.binaryHash = some pin)
    {s t : Site} (h : Launches d s t) (mismatch : hashFile s.files d.path ≠ .ok pin) :
    t.runsOf d.path = s.runsOf d.path ∧ hashFile t.files d.path ≠ .ok pin := by
  induction h with
  | here => exact ⟨rfl, mismatch⟩
  | launch before net ids documents c cap ih =>
    -- a launch that is refused changes nothing at all
    rw [start_of_mismatch pinned ih.2]
    exact ih
  | meanwhile before quiet kept ih =>
    refine ⟨quiet.trans ih.1, ?_⟩
    rw [hashFile_congr kept]
    exact ih.2

end PluginDescriptor

/-! ## Commands -/

/-- A file that may be run has a content that is run. -/
theorem Files.exists_binary_of_isExecutable {fs : Files} {path : String}
    (executable : fs.isExecutable path = true) : ∃ content, fs.binary path = .ok content := by
  unfold Files.isExecutable at executable
  split at executable
  · next content mode there =>
    refine ⟨content, ?_⟩
    unfold Files.binary Files.isExecutable
    simp only [there, executable]
    rfl
  · cases executable

namespace Discovery

open PluginDescriptor

variable {c : ManagerConfig} {name : String} {e : PluginEntry} {s : Site}

/-- A command leads to the first of its candidates that may be run. -/
theorem locate_eq_ok_iff {command path : String} : locate s command = .ok path ↔
    ∃ before after, candidates s command = .ok (before ++ path :: after) ∧
      s.files.isExecutable path = true ∧ ∀ p ∈ before, s.files.isExecutable p = false := by
  unfold locate
  cases candidates s command with
  | error reason => exact ⟨nofun, fun ⟨_, _, listed, _⟩ => nomatch listed⟩
  | ok paths =>
    have first : paths.find? s.files.isExecutable = some path ↔ s.files.isExecutable path = true ∧
        ∃ before after, paths = before ++ path :: after ∧
          ∀ p ∈ before, (!s.files.isExecutable p) = true := List.find?_eq_some_iff_append
    simp only [Bool.not_eq_true'] at first
    dsimp only
    constructor
    · intro h
      split at h
      · next found =>
        cases h
        obtain ⟨executable, before, after, rfl, earlier⟩ := first.1 found
        exact ⟨before, after, rfl, executable, earlier⟩
      · cases h
    · rintro ⟨before, after, listed, executable, earlier⟩
      cases listed
      rw [first.2 ⟨executable, before, after, rfl, earlier⟩]

/-- A binary that was found by a path with a slash can be called by it. -/
theorem exists_binary_of_locate {command path : String} (found : locate s command = .ok path)
    (slash : '/' ∈ path.toList) : ∃ content, s.binary path = .ok content := by
  obtain ⟨-, -, -, executable, -⟩ := locate_eq_ok_iff.1 found
  rw [Site.binary, if_pos slash]
  exact Files.exists_binary_of_isExecutable executable

/-! ## Discovery -/

/-- Under an invalid name nothing is run. -/
theorem describeEntry_of_invalid {flaw : PluginId.Flaw} (invalid : PluginId.parse name = .error flaw) :
    (describeEntry c name e).run s = (.error (.invalidId (flaw.message name)), s) := by
  rw [describeEntry, Effect.run_bind, invalid]
  rfl

/-- A command that is not found is not run. -/
theorem describeEntry_of_missing {id : PluginId} {fault : Fault}
    (named : PluginId.parse name = .ok id) (missing : locate s e.command = .error fault) :
    (describeEntry c name e).run s = (.error fault, s) := by
  rw [describeEntry, Effect.run_bind, named]
  change (Effect.ofFunction _ >>= _ : Effect Site _).run s = _
  rw [Effect.run_bind, Effect.run_ofFunction, missing]

/-- A command that is found is run, and its descriptor verified afterwards. -/
theorem describeEntry_of_found {id : PluginId} {path : String}
    (named : PluginId.parse name = .ok id) (found : locate s e.command = .ok path) :
    (describeEntry c name e).run s =
      match (describe id path c.discoveryTimeout).run s with
      | (.error fault, t) => (.error fault, t)
      | (.ok d, t) =>
        let d := { d with connection := e.connection.getD c.connection, binaryHash := e.binaryHash }
        ((d.verify t.files).map fun _ => d, t) := by
  rw [describeEntry, Effect.run_bind, named]
  change (Effect.ofFunction _ >>= _ : Effect Site _).run s = _
  rw [Effect.run_bind, Effect.run_ofFunction, found]
  dsimp only
  rw [Effect.run_bind]
  cases (describe id path c.discoveryTimeout).run s with
  | mk r t =>
    cases r with
    | error fault => rfl
    | ok d =>
      -- the hash is compared on the site that the run has left
      dsimp only
      rw [Effect.run_bind, Effect.run_ofFunction]
      cases PluginDescriptor.verify t.files _ with
      | error fault => rfl
      | ok => rfl

/-- Discovery leaves the site as the run of the binary does. -/
theorem describeEntry_site {id : PluginId} {path : String}
    (named : PluginId.parse name = .ok id) (found : locate s e.command = .ok path) :
    ((describeEntry c name e).run s).2 = ((describe id path c.discoveryTimeout).run s).2 := by
  rw [describeEntry_of_found named found]
  cases (describe id path c.discoveryTimeout).run s with
  | mk r t => cases r <;> rfl

/-- Discovery runs nothing but the command, once at most, with the one argument that asks for its
document. -/
theorem describeEntry_runs : ((describeEntry c name e).run s).2.runs = s.runs ∨
    ∃ path, locate s e.command = .ok path ∧ ((describeEntry c name e).run s).2.runs =
      s.runs ++ [{ path, arguments := capabilitiesArguments }] := by
  cases named : PluginId.parse name with
  | error flaw =>
    rw [describeEntry_of_invalid named]
    exact .inl rfl
  | ok id =>
    cases found : locate s e.command with
    | error fault =>
      rw [describeEntry_of_missing named found]
      exact .inl rfl
    | ok path =>
      rw [describeEntry_site named found]
      exact (describe_runs id path c.discoveryTimeout s).imp_right fun once => ⟨path, rfl, once⟩

/-- A command that can be run is run, whatever its plugin is pinned to. -/
theorem describeEntry_runs_of_starts {id : PluginId} {path : String} {x : Execution}
    (named : PluginId.parse name = .ok id) (found : locate s e.command = .ok path)
    (starts : (s.run path capabilitiesArguments).1 = .ok x) :
    ((describeEntry c name e).run s).2.runs =
      s.runs ++ [{ path, arguments := capabilitiesArguments }] := by
  rw [describeEntry_site named found]
  exact Site.run_runs starts

/-- The descriptor that comes of asking a binary has the name and the path that were asked for, and no
hash. -/
theorem of_describe_eq_ok {id : PluginId} {path : String} {limit : Duration} {d : PluginDescriptor}
    (h : ((describe id path limit).run s).1 = .ok d) :
    d.id = id ∧ d.path = path ∧ d.binaryHash = none := by
  change (answer path limit (s.run path capabilitiesArguments).1).map _ = .ok d at h
  cases said : answer path limit (s.run path capabilitiesArguments).1 with
  | error fault =>
    rw [said] at h
    cases h
  | ok capabilities =>
    rw [said] at h
    cases h
    exact ⟨rfl, rfl, rfl⟩

/-- A descriptor that discovery hands on is that of the command, with the name, the connection and the
hash of the entry, and its binary was verified as its own run left it. -/
theorem of_describeEntry_eq_ok {d : PluginDescriptor}
    (h : ((describeEntry c name e).run s).1 = .ok d) :
    PluginId.parse name = .ok d.id ∧ locate s e.command = .ok d.path ∧
      d.connection = e.connection.getD c.connection ∧ d.binaryHash = e.binaryHash ∧
      d.verify ((describeEntry c name e).run s).2.files = .ok () := by
  cases named : PluginId.parse name with
  | error flaw =>
    rw [describeEntry_of_invalid named] at h
    cases h
  | ok id =>
    cases found : locate s e.command with
    | error fault =>
      rw [describeEntry_of_missing named found] at h
      cases h
    | ok path =>
      rw [describeEntry_of_found named found] at h ⊢
      have same : ∀ d, ((describe id path c.discoveryTimeout).run s).1 = .ok d →
          d.id = id ∧ d.path = path ∧ d.binaryHash = none := fun d => of_describe_eq_ok
      -- of the run of the binary only the name and the path of its descriptor matter here
      generalize (describe id path c.discoveryTimeout).run s = r at h same ⊢
      obtain ⟨r, t⟩ := r
      cases r with
      | error fault => cases h
      | ok described =>
        dsimp only at h ⊢
        generalize eq : PluginDescriptor.verify t.files _ = verified at h
        cases verified with
        | error fault => cases h
        | ok =>
          cases h
          obtain ⟨asked, there, -⟩ := same _ rfl
          exact ⟨congrArg _ asked.symm, congrArg _ there.symm, rfl, rfl, eq⟩

/-- Of a pinned plugin, discovery runs the binary that its command leads to, once at most and whatever
its hash, with the one argument that asks for its document. It hands on a descriptor only if the file
has the hash afterwards, and no launch of this descriptor runs the binary while its file does not
have it. -/
theorem describeEntry_then_launched {pin : String} (pinned : e.binaryHash = some pin) :
    (((describeEntry c name e).run s).2.runs = s.runs ∨
      ∃ path, locate s e.command = .ok path ∧ ((describeEntry c name e).run s).2.runs =
        s.runs ++ [{ path, arguments := capabilitiesArguments }]) ∧
    (∀ id path x, PluginId.parse name = .ok id → locate s e.command = .ok path →
      (s.run path capabilitiesArguments).1 = .ok x → ((describeEntry c name e).run s).2.runs =
        s.runs ++ [{ path, arguments := capabilitiesArguments }]) ∧
    ∀ d, ((describeEntry c name e).run s).1 = .ok d →
      locate s e.command = .ok d.path ∧ d.binaryHash = some pin ∧
        hashFile ((describeEntry c name e).run s).2.files d.path = .ok pin ∧
        ∀ t u, hashFile t.files d.path ≠ .ok pin → Launches d t u →
          u.runsOf d.path = t.runsOf d.path := by
  refine ⟨describeEntry_runs, fun id path x => describeEntry_runs_of_starts, ?_⟩
  intro d h
  obtain ⟨-, found, -, same, verified⟩ := of_describeEntry_eq_ok h
  have pinned := same.trans pinned
  refine ⟨found, pinned, (verify_pinned_iff pinned _).1 verified, ?_⟩
  intro t u mismatch launched
  exact (launched.runsOf_eq pinned mismatch).1

/-- A site with one binary in the search path, which describes itself as a digest processor. -/
def oneBinary (script : String) : Site where
  files := { entries := [(["bin"], .directory), (["bin", "p"], .file (Text.encode script) 0o755)] }
  environment := { searchPath := some "/usr/bin:/bin" }
  programs _ _ _ := .ok {
    output := [(0, Text.encode
      "\x7b\"types\":\x7b\"digestProcessor\":[\x7b\"type\":\"blob\"\x7d]\x7d\x7d")]
    ending := some (0, .exited 0) }

/-- The name of that binary as a command, pinned to the hash of an empty script. -/
def pinnedEntry : PluginEntry where
  command := "p"
  binaryHash := some "sha256:a8076d3d28d21e02012b20eaf7dbf75409a6277134439025f282e368e3305abf"

/-- An empty script is discovered. When another script takes its place, no launch runs that. -/
theorem replaced_not_launched : ∃ d,
    ((describeEntry {} "p" pinnedEntry).run (oneBinary "#!/bin/sh\n")).1 = .ok d ∧
    ∀ t, Launches d (oneBinary "#!/bin/sh\nexit\n") t → t.runsOf d.path = [] := by
  have described : ((describeEntry {} "p" pinnedEntry).run (oneBinary "#!/bin/sh\n")).1.toOption.map
      PluginDescriptor.path = some "/bin/p" := by
    decide +kernel
  cases h : ((describeEntry {} "p" pinnedEntry).run (oneBinary "#!/bin/sh\n")).1 with
  | error fault =>
    rw [h] at described
    cases described
  | ok d =>
    rw [h] at described
    have path : d.path = "/bin/p" := Option.some.inj described
    obtain ⟨-, -, launches⟩ :=
      @describeEntry_then_launched {} "p" pinnedEntry (oneBinary "#!/bin/sh\n") _ rfl
    obtain ⟨-, -, -, unlaunched⟩ := launches d h
    refine ⟨d, rfl, fun t => unlaunched (oneBinary "#!/bin/sh\nexit\n") t ?_⟩
    rw [path]
    intro same
    exact absurd (congrArg Except.toOption same) (by decide +kernel)

/-- Discovery runs that other script as well, although its plugin is pinned to the empty one. -/
theorem mismatched_described :
    hashFile (oneBinary "#!/bin/sh\nexit\n").files "/bin/p" ≠
      .ok "sha256:a8076d3d28d21e02012b20eaf7dbf75409a6277134439025f282e368e3305abf" ∧
    (oneBinary "#!/bin/sh\nexit\n").runs = [] ∧
    ((describeEntry {} "p" pinnedEntry).run (oneBinary "#!/bin/sh\nexit\n")).2.runs =
      [{ path := "/bin/p", arguments := ["capabilities"] }] := by
  refine ⟨?_, rfl, by decide +kernel⟩
  intro same
  exact absurd (congrArg Except.toOption same) (by decide +kernel)

end Discovery

end PluginKit
