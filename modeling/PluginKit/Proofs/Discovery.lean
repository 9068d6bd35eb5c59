import PluginKit.Proofs.Launch
import PluginKit.Proofs.Pinning
import PluginKit.Proofs.Table

/-!
# Where descriptors come from

Discovery gives the descriptors of the binaries in directories first and those of configured commands
afterwards. A plugin in a directory is named by its file and has no hash to be compared with. One that
is configured is named by its entry and has the hash of the entry, if there is one. Nothing keeps a file
from having the name of an entry.

## Main statements

- `exists_collect`: what is collected was described.
- `exists_discover`: discovery gives a list of descriptors, and where each of them comes from.
- `Configured.binaryHash_eq`: the hash of a configured plugin is that of the entry under its name.
-/

namespace PluginKit.Discovery

variable {c : ManagerConfig} {d : PluginDescriptor} {s : Site}

/-- A descriptor of a binary in a configured directory. It is not pinned. -/
structure Scanned (c : ManagerConfig) (d : PluginDescriptor) : Prop where
  file : ∃ dir ∈ c.pluginDirs, ∃ name, d.path = Path.join dir name
  named : idOf? d.path = some d.id
  connection : d.connection = c.connection
  unpinned : d.binaryHash = none

/-- A descriptor of the command of a configured entry. It is pinned if the entry is. -/
structure OfEntry (c : ManagerConfig) (name : String) (e : PluginEntry) (d : PluginDescriptor) :
    Prop where
  named : PluginId.parse name = .ok d.id
  connection : d.connection = e.connection.getD c.connection
  pinned : d.binaryHash = e.binaryHash

/-- A descriptor of some configured command. -/
def Configured (c : ManagerConfig) (d : PluginDescriptor) : Prop :=
  ∃ name e, (name, e) ∈ c.plugins ∧ OfEntry c name e d

theorem ofEntry_of_describeEntry {name : String} {e : PluginEntry}
    (h : ((describeEntry c name e).run s).1 = .ok d) : OfEntry c name e d := by
  obtain ⟨named, -, connection, pinned, -⟩ := of_describeEntry_eq_ok h
  exact ⟨named, connection, pinned⟩

/-! ## Directories and entries -/

/-- Collecting descriptors does not fail. What is collected was described by one of the binaries. -/
theorem exists_collect (asks : List (Effect Site PluginDescriptor)) (s : Site) :
    ∃ ds t, (collect asks).run s = (.ok ds, t) ∧
      ∀ d ∈ ds, ∃ ask ∈ asks, ∃ u, (ask.run u).1 = .ok d := by
  induction asks generalizing s with
  | nil => exact ⟨[], s, rfl, nofun⟩
  | cons ask asks ih =>
    rw [collect, Effect.run_ofFunction]
    rcases asked : ask.run s with ⟨fault | described, t⟩
    -- a binary that cannot be described is passed over
    · obtain ⟨ds, u, collected, from_⟩ := ih t
      refine ⟨ds, u, collected, fun d mem => ?_⟩
      obtain ⟨other, listed, said⟩ := from_ d mem
      exact ⟨other, List.mem_cons_of_mem ask listed, said⟩
    · obtain ⟨ds, u, collected, from_⟩ := ih t
      refine ⟨described :: ds, u, by simp only [collected]; rfl, fun d mem => ?_⟩
      rcases List.mem_cons.1 mem with rfl | mem
      · exact ⟨ask, List.mem_cons_self, s, congrArg Prod.fst asked⟩
      · obtain ⟨other, listed, said⟩ := from_ d mem
        exact ⟨other, List.mem_cons_of_mem ask listed, said⟩

/-- Every descriptor that a scan of a directory gives is that of a binary in the directory. -/
theorem scanned_of_scan {dir : String} (listed : dir ∈ c.pluginDirs) {ds : List PluginDescriptor}
    (h : ((scan dir c).run s).1 = .ok ds) (mem : d ∈ ds) : Scanned c d := by
  rw [scan, Effect.run_ofFunction] at h
  cases listing : s.files.list dir with
  | error e =>
    rw [listing] at h
    cases h
  | ok names =>
    simp only [listing] at h
    obtain ⟨ds', t, collected, from_⟩ := exists_collect
      ((binariesIn s.files dir names).map fun b => do
        return { (← describe b.1 b.2 c.discoveryTimeout) with connection := c.connection }) s
    rw [collected] at h
    cases h
    obtain ⟨ask, mem, u, said⟩ := from_ d mem
    obtain ⟨⟨id, path⟩, binary, rfl⟩ := List.mem_map.1 mem
    -- the file has the name of its plugin
    obtain ⟨path', inside, named⟩ := List.mem_filterMap.1 binary
    obtain ⟨name, -, rfl⟩ := List.mem_map.1 inside
    split at named
    · obtain ⟨id', stem, same⟩ := Option.map_eq_some_iff.1 named
      cases same
      rw [Effect.run_bind] at said
      rcases describes : (describe id (Path.join dir name) c.discoveryTimeout).run u with
        ⟨fault | described, t⟩
      · rw [describes] at said
        cases said
      · rw [describes] at said
        cases said
        obtain ⟨rfl, path, unpinned⟩ := of_describe_eq_ok (congrArg Prod.fst describes)
        exact ⟨⟨dir, listed, name, path⟩, (congrArg idOf? path).trans stem, rfl, unpinned⟩
    · cases named

/-- Scanning directories does not fail. What is found is in one of them. -/
theorem exists_scanAll {dirs : List String} (listed : ∀ dir ∈ dirs, dir ∈ c.pluginDirs) (s : Site) :
    ∃ ds t, (scanAll c dirs).run s = (.ok ds, t) ∧ ∀ d ∈ ds, Scanned c d := by
  induction dirs generalizing s with
  | nil => exact ⟨[], s, rfl, nofun⟩
  | cons dir dirs ih =>
    have later := ih fun dir mem => listed dir (List.mem_cons_of_mem _ mem)
    rw [scanAll, Effect.run_ofFunction]
    have here : ∀ ds, (if s.files.pathExists dir then (scan dir c).run s else (.ok [], s)).1 = .ok ds →
        ∀ d ∈ ds, Scanned c d := by
      intro ds found d mem
      split at found
      · exact scanned_of_scan (listed dir List.mem_cons_self) found mem
      · cases found
        cases mem
    generalize (if s.files.pathExists dir then (scan dir c).run s else (.ok [], s)) = first at here
    obtain ⟨ds, t, found, from_⟩ := later first.2
    refine ⟨(first.1.toOption.getD []) ++ ds, t, by simp only [found]; rfl, fun d mem => ?_⟩
    rcases List.mem_append.1 mem with mem | mem
    · cases outcome : first.1 with
      | error fault =>
        rw [outcome] at mem
        cases mem
      | ok ds' =>
        rw [outcome] at mem
        exact here ds' outcome d mem
    · exact from_ d mem

/-- Discovery does not fail. It gives first what is in directories and then what is configured. -/
theorem exists_discover (c : ManagerConfig) (s : Site) :
    ∃ found configured t, (discover c).run s = (.ok (found ++ configured), t) ∧
      (∀ d ∈ found, Scanned c d) ∧ ∀ d ∈ configured, Configured c d := by
  obtain ⟨found, t, scanned, inDirectories⟩ := exists_scanAll (c := c) (fun _ mem => mem) s
  obtain ⟨configured, u, collected, from_⟩ :=
    exists_collect (c.plugins.map fun e => describeEntry c e.1 e.2) t
  refine ⟨found, configured, u, ?_, inDirectories, fun d mem => ?_⟩
  · rw [discover, Effect.run_bind_ok scanned, Effect.run_bind_ok collected]
    rfl
  · obtain ⟨ask, listed, u, said⟩ := from_ d mem
    obtain ⟨⟨name, e⟩, entry, rfl⟩ := List.mem_map.1 listed
    exact ⟨name, e, entry, ofEntry_of_describeEntry said⟩

/-! ## The entry of a plugin -/

/-- A configured plugin has the hash of the entry under its name. -/
theorem Configured.binaryHash_eq (ascending : c.plugins.Ascending) (configured : Configured c d)
    {e : PluginEntry} (entry : c.plugins.get? d.id.text = some e) : d.binaryHash = e.binaryHash := by
  obtain ⟨name, e', listed, named, -, pinned⟩ := configured
  rw [(PluginId.parse_eq_ok_iff.1 named).1, (Table.get?_eq_some_iff ascending).2 listed] at entry
  cases entry
  exact pinned

end PluginKit.Discovery
