import PluginKit.Proofs.Discovery
import PluginKit.Proofs.Host.Flight
import PluginKit.Proofs.Registry.Precedence

/-!
# Pinned plugins and their namesakes

The plugins in directories are registered before those that are configured. They are named by their
files, and no hash is compared for them. A configured plugin may be pinned to a hash, but a file of its
name in a directory is registered beside it, without a fault. Of the two the one that is first to
advertise a type is launched for it.

## Main statements

- `bound_of_launches`: what is launched was bound to some type before.
- `launches_iff`: what can be launched once nothing is bound any more.
- `pin_honoured_iff`: when everything that is launched under the name of a pinned plugin is pinned.
-/

namespace PluginKit

variable {σ τ : Type} {l : Launcher τ}

/-! ## Histories in which nothing is bound -/

namespace Host

/-- A task that goes on binds nothing. -/
theorem external_goOn (l : Launcher τ) (h : Host σ τ) (n : Nat) (c : Capability) :
    ((Act.goOn l h n).registries c).external = (h.registries c).external := by
  unfold Act.goOn
  split
  · rfl
  · split
    · rfl
    · next ready =>
      split
      · obtain ⟨s, g, moves, went⟩ := moves_next l h n (rank_ne_zero_of_readyAt ready)
        rw [went, registries_onStage]
        exact (moves.registryMoves c).bindings.2.2
      · rfl

end Host

namespace History

open Host

variable {r : History σ l} {d : PluginDescriptor}

/-- No type is bound to a plugin any more. -/
def BindsNothing (r : History σ l) : Prop :=
  ∀ i c, ((r.state (i + 1)).registries c).external = ((r.state i).registries c).external

/-- Some task starts an instance of a plugin. -/
def Launches (r : History σ l) (d : PluginDescriptor) : Prop :=
  ∃ m n s k, (r.state m).stage? n = some s ∧ s.starts? = some k ∧ k.descriptor = d

/-- Every descriptor that is launched under a name is pinned to a hash. -/
def HonoursPin (r : History σ l) (id : PluginId) (pin : String) : Prop :=
  ∀ d, r.Launches d → d.id = id → d.binaryHash = some pin

theorem bindsNothing_findAndGo {h : Host σ τ} (fresh : h.Fresh) (c : Capability) (kind : String)
    (tag : TypeId) (n : Nat) : (ofScript l fresh (findAndGo c kind tag n)).BindsNothing := by
  intro i c'
  match i with
  | 0 => rfl
  | 1 => exact external_goOn l _ n c'
  | 2 => exact external_goOn l _ n c'
  | _ + 3 => rfl

theorem BindsNothing.external_eq (quiet : r.BindsNothing) (m : Nat) (c : Capability) :
    ((r.state m).registries c).external = ((r.state 0).registries c).external := by
  induction m with
  | zero => rfl
  | succ m ih => exact (quiet m c).trans ih

/-- A scheme that is consistent stays so. -/
theorem consistent_state {c : Capability} (consistent : ((r.state 0).registries c).scheme.Consistent)
    (m : Nat) : ((r.state m).registries c).scheme.Consistent := by
  induction m with
  | zero => exact consistent
  | succ m ih =>
    have change : Change l false (r.state m) (r.state (m + 1)) := .stepped (r.step m)
    exact (change.rebinds c).keeps.scheme.consistent ih

/-- A descriptor that is launched was bound to some type before, which is not the empty one. -/
theorem bound_of_launches (consistent : ∀ c, ((r.state 0).registries c).scheme.Consistent)
    (quiet : r.BindsNothing) (launches : r.Launches d) :
    ∃ c t, t.isEmpty = false ∧ ((r.state 0).registries c).external.get? t = some d := by
  obtain ⟨m, n, s, k, at_, starts, rfl⟩ := launches
  obtain ⟨a, -, looks⟩ := looksUp_of_ticket at_ (Stage.ticket?_of_starts? starts)
  obtain ⟨kind, tag, -, sought⟩ := looks.looking
  obtain ⟨t, named, bound⟩ := Registry.exists_bound_of_lookup (consistent_state (consistent _) a) sought
  refine ⟨k.capability, t, named, ?_⟩
  rw [← quiet.external_eq a]
  exact bound

/-- The descriptors that can be launched while no further types are bound are those that are bound to a
type that is not empty. -/
theorem launches_iff {h : Host σ τ} (fresh : h.Fresh) (outward : h.Outward)
    (consistent : ∀ c, (h.registries c).scheme.Consistent) :
    (∃ r : History σ l, r.state 0 = h ∧ r.BindsNothing ∧ r.Launches d) ↔
      ∃ c t, t.isEmpty = false ∧ (h.registries c).external.get? t = some d := by
  constructor
  · rintro ⟨r, rfl, quiet, launches⟩
    exact bound_of_launches consistent quiet launches
  · rintro ⟨c, t, named, bound⟩
    have serves : (h.registries c).lookup "" t = .ok (.plugin d) :=
      Registry.lookup_of_bound named (outward c) bound
    have absent : (h.registries c).cells.get? d.id = none := by
      rw [fresh.places]
      rfl
    obtain ⟨k, ready, outcome, -, same, starting, -⟩ := launch_of_absent (l := l) serves absent
    exact ⟨ofScript l fresh (findAndGo c "" t h.tasks.length), rfl, bindsNothing_findAndGo fresh _ _ _ _,
      3, h.tasks.length, _, k, starting, rfl, same⟩

end History

/-! ## Plugins that were discovered -/

namespace Host

/-- A host that has registered plugins. -/
def registered (s : Scheme) (c : ManagerConfig) (ds : List PluginDescriptor) : Host σ τ :=
  ((ofScheme s c).registerAll ds).2

theorem bindsFirst_registered (s : Scheme) (c : ManagerConfig) (ds : List PluginDescriptor) :
    BindsFirst (ofScheme s c : Host σ τ) (registered s c ds) (firstAdvertiser ds) :=
  bindsFirst_registerAll (fun _ _ => rfl) ds

theorem external_registered (s : Scheme) (config : ManagerConfig) (ds : List PluginDescriptor)
    (c : Capability) (t : TypeId) :
    ((registered s config ds : Host σ τ).registries c).external.get? t = firstAdvertiser ds c t :=
  ((bindsFirst_registered s config ds).external c t).trans Option.none_or

end Host

namespace History

open Host Discovery

variable {d : PluginDescriptor}

/-- Of plugins that were registered on a host, those can be launched that are the first to advertise a
type that is not empty. -/
theorem launches_registered_iff {s : Scheme} (reachable : s.Reachable) (config : ManagerConfig)
    (ds : List PluginDescriptor) :
    (∃ r : History σ l, r.state 0 = registered s config ds ∧ r.BindsNothing ∧ r.Launches d) ↔
      ∃ c t, t.isEmpty = false ∧ firstAdvertiser ds c t = some d := by
  have binds := bindsFirst_registered (σ := σ) (τ := τ) s config ds
  rw [launches_iff (binds.fresh (fresh_ofScheme s config)) (binds.outward fun _ _ => rfl)]
  · simp only [external_registered]
  · intro c
    rw [binds.scheme]
    exact reachable.consistent

/-- Discovery gives the plugins in directories, none of which is pinned, and then the configured ones,
which are pinned as their entries are. Once they are registered, those are launched that are the first
to advertise some type. Everything that is launched under the name of a pinned plugin has its hash, in
all histories in which nothing else is bound, if and only if no plugin of that name in a directory is the
first there to advertise a type. -/
theorem pin_honoured_iff {s : Scheme} (reachable : s.Reachable) {config : ManagerConfig}
    (ascending : config.plugins.Ascending) (site : Site) (l : Launcher τ) :
    ∃ found configured left, (discover config).run site = (.ok (found ++ configured), left) ∧
      (∀ d ∈ found, Scanned config d) ∧ (∀ d ∈ configured, Configured config d) ∧
      (∀ d, (∃ r : History σ l, r.state 0 = registered s config (found ++ configured) ∧
          r.BindsNothing ∧ r.Launches d) ↔
        ∃ c t, t.isEmpty = false ∧ firstAdvertiser (found ++ configured) c t = some d) ∧
      ∀ id e pin, config.plugins.get? id.text = some e → e.binaryHash = some pin →
        ((∀ r : History σ l, r.state 0 = registered s config (found ++ configured) →
            r.BindsNothing → r.HonoursPin id pin) ↔
          ∀ c t d, t.isEmpty = false → firstAdvertiser found c t = some d → d.id ≠ id) := by
  obtain ⟨found, configured, left, discovered, scanned, entries⟩ := exists_discover config site
  refine ⟨found, configured, left, discovered, scanned, entries,
    fun d => launches_registered_iff reachable config _, ?_⟩
  intro id e pin entry pinned
  constructor
  · rintro honoured c t d named first rfl
    -- the plugin of the directory is the first of all, so it is launched for the type
    have overall : firstAdvertiser (found ++ configured) c t = some d := by
      rw [firstAdvertiser_append, first, Option.some_or]
    obtain ⟨r, starts, quiet, launches⟩ :=
      (launches_registered_iff (σ := σ) (l := l) reachable config _).2 ⟨c, t, named, overall⟩
    have hash := honoured r starts quiet d launches rfl
    rw [(scanned d (mem_of_firstAdvertiser first)).unpinned] at hash
    cases hash
  · rintro apart r starts quiet d launches rfl
    obtain ⟨c, t, named, first⟩ :=
      (launches_registered_iff reachable config _).1 ⟨r, starts, quiet, launches⟩
    rw [firstAdvertiser_append] at first
    rcases Option.or_eq_some_iff.1 first with inside | ⟨-, given⟩
    · exact absurd rfl (apart c t d named inside)
    · have own := entries d (mem_of_firstAdvertiser given)
      exact (own.binaryHash_eq ascending entry).trans pinned

/-- A site with a script in a directory and an empty one in the search path. Both describe themselves as
digest processors for the same type. -/
def twoBinaries (name : String) : Site where
  files := { entries := [(["bin"], .directory), (["bin", "q"], .file (Text.encode "#!/bin/sh\n") 0o755),
    (["d"], .directory), (["d", name], .file (Text.encode "#!/bin/sh\nexit\n") 0o755)] }
  programs := (oneBinary "").programs
  environment := (oneBinary "").environment

/-- The directory, and the empty script, called by its name, under the identifier `p`, pinned to its
hash. -/
def besideDirectory : ManagerConfig where
  pluginDirs := ["/d"]
  plugins := [("p", { pinnedEntry with command := "q" })]

/-- The hash of an empty script. -/
def emptyHash : String := "sha256:a8076d3d28d21e02012b20eaf7dbf75409a6277134439025f282e368e3305abf"

/-- The script in the directory has another name, and is the first that is registered for the type. So
nothing but the pinned script is launched under the name of that. -/
theorem neighbour_pinned : Scheme.Reachable {} ∧ besideDirectory.plugins.Ascending ∧
    (besideDirectory.plugins.get? "p").bind PluginEntry.binaryHash = some emptyHash ∧
    ∃ ds left, (discover besideDirectory).run (twoBinaries "o") = (.ok ds, left) ∧
      ds.map (fun d => (d.id, d.path, d.binaryHash)) =
        [(⟨"o"⟩, "/d/o", none), (⟨"p"⟩, "/bin/q", some emptyHash)] ∧
      ∀ r : History Unit (sampleLauncher 0), r.state 0 = registered {} besideDirectory ds →
        r.BindsNothing → r.HonoursPin ⟨"p"⟩ emptyHash := by
  have reachable : Scheme.Reachable {} := ⟨false, .same⟩
  have ascending : besideDirectory.plugins.Ascending := by decide
  refine ⟨reachable, ascending, rfl, ?_⟩
  obtain ⟨found, configured, left, discovered, scanned, -, -, pins⟩ :=
    pin_honoured_iff (σ := Unit) reachable ascending (twoBinaries "o") (sampleLauncher 0)
  have described : (found ++ configured).map (fun d => (d.id, d.path, d.binaryHash)) =
      [(⟨"o"⟩, "/d/o", none), (⟨"p"⟩, "/bin/q", some emptyHash)] := by
    have all : ((discover besideDirectory).run (twoBinaries "o")).1.toOption.map
        (List.map fun d => (d.id, d.path, d.binaryHash)) =
          some [(⟨"o"⟩, "/d/o", none), (⟨"p"⟩, "/bin/q", some emptyHash)] := by
      decide +kernel
    rw [discovered] at all
    exact Option.some.inj all
  refine ⟨found ++ configured, left, discovered, described, ?_⟩
  refine (pins ⟨"p"⟩ _ emptyHash rfl rfl).2 ?_
  rintro c t d - first same
  -- a plugin of the directory is not pinned, but the one of this name is
  have mem := mem_of_firstAdvertiser first
  have listed : (d.id, d.path, d.binaryHash) ∈
      (found ++ configured).map (fun d => (d.id, d.path, d.binaryHash)) :=
    List.mem_map.2 ⟨d, List.mem_append_left _ mem, rfl⟩
  rw [described, (scanned d mem).unpinned, same] at listed
  simp at listed

/-- The script in the directory has the name of the pinned one. It is the first that is registered for
the type, so it is launched under this name, and no hash is compared. -/
theorem namesake_unpinned :
    (besideDirectory.plugins.get? "p").bind PluginEntry.binaryHash = some emptyHash ∧
    ∃ ds left, (discover besideDirectory).run (twoBinaries "p") = (.ok ds, left) ∧
      ∃ (r : History Unit (sampleLauncher 0)) (d : PluginDescriptor),
        r.state 0 = registered {} besideDirectory ds ∧ r.BindsNothing ∧ r.Launches d ∧
          d.path = "/d/p" ∧ d.binaryHash = none ∧ ¬ r.HonoursPin ⟨"p"⟩ emptyHash := by
  refine ⟨rfl, ?_⟩
  obtain ⟨found, configured, left, discovered, -⟩ :=
    exists_discover besideDirectory (twoBinaries "p")
  have described : (firstAdvertiser (found ++ configured) .digestProcessor (.ofName "blob")).map
      (fun d => (d.id, d.path, d.binaryHash)) = some (⟨"p"⟩, "/d/p", none) := by
    have all : ((discover besideDirectory).run (twoBinaries "p")).1.toOption.map
        (fun ds => (firstAdvertiser ds .digestProcessor (.ofName "blob")).map
          fun d => (d.id, d.path, d.binaryHash)) = some (some (⟨"p"⟩, "/d/p", none)) := by
      decide +kernel
    rw [discovered] at all
    exact Option.some.inj all
  obtain ⟨d, first, fields⟩ := Option.map_eq_some_iff.1 described
  obtain ⟨name, path, unpinned⟩ : d.id = ⟨"p"⟩ ∧ d.path = "/d/p" ∧ d.binaryHash = none := by
    simpa only [Prod.mk.injEq] using fields
  obtain ⟨r, starts, quiet, launches⟩ := (launches_registered_iff (σ := Unit) (l := sampleLauncher 0)
    ⟨false, .same⟩ besideDirectory _).2 ⟨_, _, rfl, first⟩
  refine ⟨found ++ configured, left, discovered, r, d, starts, quiet, launches, path, unpinned, ?_⟩
  intro honoured
  have hash := honoured d launches name
  rw [unpinned] at hash
  cases hash

end History

end PluginKit
