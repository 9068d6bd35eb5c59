import PluginKit.CommandLine
import PluginKit.Proofs.Effect
import PluginKit.Proofs.Json.Decoding
import PluginKit.Proofs.Json.Reading
import PluginKit.Proofs.Path
import PluginKit.Serve.Server
import PluginKit.Startup

/-!
# What host and plugin agree on at a launch

A host starts an instance with a launch configuration as the text of an argument. The plugin reads the
configuration back as it was, so the socket file on which it listens is the one that the host looks for.
The file lies in the directory for sockets, and different instances have different files, although an
identifier may have hyphens and may end like another instance.

## Main statements

- `PluginId.parse_eq_ok_iff`: which texts are identifiers.
- `LaunchConfig.ofText_text`: a configuration is read as it was written.
- `socketPath_join`, `instance_of_components`: where socket files lie, and that instances do not share
  them.
- `readiness_socket`, `start_eq_ok`: what a host waits for, and what it has done that has started an
  instance.
- `bind_socket`: where an instance listens.
- `launch_agreed`: the above, for every configuration of a host.
-/

namespace PluginKit

open Json

/-! ## Identifiers -/

theorem PluginId.allowed_iff {c : Char} :
    allowed c = true ↔ 'a' ≤ c ∧ c ≤ 'z' ∨ '0' ≤ c ∧ c ≤ '9' ∨ c = '-' := by
  have lower : c.isLower = (decide ('a' ≤ c) && decide (c ≤ 'z')) := rfl
  have digit : c.isDigit = (decide ('0' ≤ c) && decide (c ≤ '9')) := rfl
  simp [allowed, lower, digit, or_assoc]

/-- A text is an identifier if and only if it has lowercase letters, digits and hyphens only, at least
one character, and no hyphen at either end. -/
theorem PluginId.parse_eq_ok_iff {s : String} {id : PluginId} : parse s = .ok id ↔
    id.text = s ∧ s ≠ "" ∧
      (∀ c ∈ s.toList, 'a' ≤ c ∧ c ≤ 'z' ∨ '0' ≤ c ∧ c ≤ '9' ∨ c = '-') ∧
      s.toList.head? ≠ some '-' ∧ s.toList.getLast? ≠ some '-' := by
  have chars : s.toList.all allowed = true ↔
      ∀ c ∈ s.toList, 'a' ≤ c ∧ c ≤ 'z' ∨ '0' ≤ c ∧ c ≤ '9' ∨ c = '-' := by
    simp only [List.all_eq_true, allowed_iff]
  have blank : s.toList.isEmpty = true ↔ s = "" := by simp
  rw [← chars, parse]
  split
  · next empty => exact ⟨nofun, fun h => absurd (blank.1 empty) h.2.1⟩
  · next some_ =>
    split
    · next foreign =>
      refine ⟨nofun, fun h => ?_⟩
      rw [h.2.2.1] at foreign
      cases foreign
    · next all =>
      split
      · next outer => exact ⟨nofun, fun h => absurd outer (not_or.2 h.2.2.2)⟩
      · next inner =>
        obtain ⟨first, last⟩ := not_or.1 inner
        have allowed : s.toList.all allowed = true := by simpa using all
        constructor
        · intro same
          cases same
          exact ⟨rfl, fun empty => some_ (blank.2 empty), allowed, first, last⟩
        · rintro ⟨rfl, -⟩
          rfl

theorem PluginId.not_mem_text {s : String} {id : PluginId} (valid : parse s = .ok id) :
    '/' ∉ id.text.toList := by
  obtain ⟨rfl, -, chars, -⟩ := parse_eq_ok_iff.1 valid
  intro mem
  exact absurd (chars '/' mem) (by decide)

/-! ## Instances -/

/-- The name of an instance. -/
def instanceName (id : PluginId) (cap : Capability) : String := id.text ++ "-" ++ cap.slug

/-- The last letters of the short names of capabilities. -/
def Capability.lastLetter : Capability → Char
  | .resourceRepository => 'e'
  | .digestProcessor => 't'
  | .componentLister => 'r'

theorem Capability.getLast?_slug (cap : Capability) :
    cap.slug.toList.getLast? = some cap.lastLetter := by
  cases cap <;> decide

theorem Capability.eq_of_lastLetter {c d : Capability} (same : c.lastLetter = d.lastLetter) :
    c = d := by
  cases c <;> cases d <;> first | rfl | cases same

/-- An instance is told by its name, whatever hyphens there are in the identifier. -/
theorem instanceName_inj {p q : PluginId} {c d : Capability}
    (same : instanceName p c = instanceName q d) : p = q ∧ c = d := by
  have last (id : PluginId) (cap : Capability) :
      (instanceName id cap).toList.getLast? = some cap.lastLetter := by
    rw [instanceName, String.toList_append, List.getLast?_append, cap.getLast?_slug, Option.some_or]
  have letters : some c.lastLetter = some d.lastLetter := by rw [← last p, same, last]
  cases Capability.eq_of_lastLetter (Option.some.inj letters)
  rw [instanceName, instanceName, String.append_left_inj, String.append_left_inj] at same
  exact ⟨congrArg PluginId.mk same, rfl⟩

/-! ## Socket files -/

/-- The name of the socket file of an instance names a file in a directory. -/
theorem names_socketName {s : String} {id : PluginId} (valid : PluginId.parse s = .ok id)
    (cap : Capability) : Path.Names (socketName (instanceName id cap)) := by
  have chars : (socketName (instanceName id cap)).toList =
      id.text.toList ++ '-' :: (cap.slug.toList ++ "-plugin.socket".toList) := by
    simp [socketName, instanceName, String.toList_append]
  have long : 13 < (socketName (instanceName id cap)).toList.length := by
    rw [chars]
    simp
    omega
  have short {other : String} (few : other.toList.length ≤ 13) :
      socketName (instanceName id cap) ≠ other := by
    rintro rfl
    omega
  refine ⟨?_, short (by decide), short (by decide), short (by decide)⟩
  rw [chars]
  simp only [List.mem_append, List.mem_cons, not_or]
  refine ⟨PluginId.not_mem_text valid, by decide, ?_, by decide⟩
  cases cap <;> decide

/-- A socket file lies in the directory for sockets. -/
theorem socketPath_join {s : String} {id : PluginId} (valid : PluginId.parse s = .ok id)
    (cap : Capability) (dir : String) :
    Path.components (socketPath dir (instanceName id cap)) =
        Path.components dir ++ [socketName (instanceName id cap)] ∧
      Path.isAbsolute (socketPath dir (instanceName id cap)) = Path.isAbsolute dir ∧
      Path.parent? (socketPath dir (instanceName id cap)) =
        some (Path.ofComponents (Path.isAbsolute dir) (Path.components dir)) := by
  have names := names_socketName valid cap
  exact ⟨Path.components_join names dir, Path.isAbsolute_join names dir, Path.parent?_join names dir⟩

/-- Instances whose socket files are the same file of a directory are the same. -/
theorem instance_of_components {s u : String} {p q : PluginId} (validp : PluginId.parse s = .ok p)
    (validq : PluginId.parse u = .ok q) {c d : Capability} {dir : String}
    (same : Path.components (socketPath dir (instanceName p c)) =
      Path.components (socketPath dir (instanceName q d))) : p = q ∧ c = d := by
  rw [(socketPath_join validp c dir).1, (socketPath_join validq d dir).1] at same
  have names := List.singleton_inj.1 (List.append_cancel_left same)
  rw [socketName, socketName, String.append_left_inj] at names
  exact instanceName_inj names

/-! ## Launch configurations -/

namespace LaunchConfig

variable {l : LaunchConfig}

theorem reads_connection (c : Connection) : Connection.decoder.Reads (.str c.name) c := by
  cases c <;> rfl

theorem reads_capability (c : Capability) : Capability.decoder.Reads (.str c.name) c := by
  cases c <;> rfl

/-- A configuration reads back from its document. -/
theorem reads_toJson (limit : ∀ n ∈ l.idleSeconds, n < Nat.pow 2 64) : decoder.Reads l.toJson l := by
  refine Decoder.reads_record (a := l) ?_ ?_
  · refine Fields.readsFrom_seq (Fields.readsFrom_seq (Fields.readsFrom_seq (Fields.readsFrom_seq
      (Fields.readsFrom_map _ (Fields.readsFrom_string ?_))
      (Fields.readsFrom_required ?_ (reads_connection l.connection)))
      (Fields.readsFrom_required ?_ (reads_capability l.capability)))
      (Fields.readsFrom_optional (o := l.socketDir) ?_ fun s _ => ⟨Decoder.reads_path s, rfl⟩))
      (Fields.readsFrom_optional (o := l.idleSeconds) ?_ fun n within =>
        ⟨Decoder.reads_unsigned (limit n within), rfl⟩)
    all_goals simp [List.lookup_append, List.lookup_cons]
  · have keys := ((List.Sublist.refl ["id", "type", "pluginType"]).append
      (Fields.keys_ifSome "socketDir" (l.socketDir.map Json.str))).append
      (Fields.keys_ifSome "idleTimeout" (l.idleSeconds.map Json.nat))
    simp only [List.map_append, List.map_cons, List.map_nil]
    exact keys.nodup (by decide)

theorem isIntegral_toJson (limit : ∀ n ∈ l.idleSeconds, n < Nat.pow 2 64) :
    l.toJson.isIntegral = true := by
  have idle : (l.idleSeconds.map Json.nat).all isIntegral = true := by
    cases seconds : l.idleSeconds with
    | none => rfl
    | some n =>
      rw [Option.map_some, Option.all_some]
      exact isIntegral_nat (limit n seconds)
  have dir : (l.socketDir.map Json.str).all isIntegral = true := by
    cases l.socketDir <;> rfl
  simp [toJson, isIntegral, integralMembers, idle, dir]

theorem depth_toJson (l : LaunchConfig) : l.toJson.depth ≤ Reader.maxDepth := by
  unfold toJson
  cases l.socketDir <;> cases l.idleSeconds <;>
    simp [depth, depthMembers, ifSome, nat, Reader.maxDepth]

/-- A configuration is read as it was written. -/
theorem ofText_text (limit : ∀ n ∈ l.idleSeconds, n < Nat.pow 2 64) : ofText l.text = .ok l := by
  have read : decoder (Node.ofJson l.toJson) = .ok l := reads_toJson limit
  rw [ofText, text, decodeText_render decoder (isIntegral_toJson limit) (depth_toJson l), read]
  rfl

/-- The text of a configuration is no option. -/
theorem argument_text (l : LaunchConfig) : CommandLine.Argument.of l.text = .plain l.text := by
  obtain ⟨rest, chars⟩ : ∃ rest, l.text.toList = '{' :: rest := by
    rw [text, render, String.toList_ofList]
    exact ⟨_, rfl⟩
  rw [CommandLine.Argument.of, chars]
  rfl

end LaunchConfig

/-! ## Starting and listening -/

/-- The arguments of a plugin are read as its configuration. -/
theorem parse_arguments (name : String) (l : LaunchConfig) :
    CommandLine.parse (name :: Startup.arguments l) = .ok { config := some l.text } :=
  CommandLine.parse_launch name l.text l.argument_text

/-- A plugin serves the configuration that it is started with. -/
theorem run_text {σ : Type} (e : Endpoints σ) {l : LaunchConfig}
    (limit : ∀ n ∈ l.idleSeconds, n < Nat.pow 2 64) :
    CommandLine.run { config := some l.text } e =
      (Router.ofEndpoints e l.capability).map (CommandLine.Action.serve l) := by
  rw [CommandLine.run, if_neg Bool.false_ne_true]
  simp only [LaunchConfig.ofText_text limit]
  change (Router.ofEndpoints e l.capability >>= fun router =>
    pure (CommandLine.Action.serve l router)) = _
  cases Router.ofEndpoints e l.capability <;> rfl

/-- An instance on a socket listens on the file of its configuration. -/
theorem bind_socket {σ : Type} {e : Endpoints σ} {l : LaunchConfig} {port : Net.Address}
    {fs fs' : Files} {server : Server σ} (on : l.connection = .socket)
    (bound : (Server.bind e l port).run fs = (.ok server, fs')) :
    server.place = .socket l.socketPath := by
  rw [Server.bind, Effect.run_bind, Effect.run_lift] at bound
  cases served : Router.ofEndpoints e l.capability with
  | error fault =>
    rw [served] at bound
    cases bound
  | ok router =>
    rw [served] at bound
    simp only [Server.listenFor, on] at bound
    rw [Effect.run_bind, Effect.run_bind] at bound
    generalize (Server.listenAt l.socketPath).run fs = listens at bound
    obtain ⟨fault | ⟨⟨⟩⟩, fs₁⟩ := listens
    · cases bound
    · cases bound
      rfl

/-- A file that is found by looking for it is the one looked for, and it is there. -/
theorem lookForSocket_eq_ok {id : PluginId} {path : String} {c : HandshakeConfig}
    {isThere : Nat → Bool} {x : Execution} {left time delay : Nat} {place : Place}
    (h : (Handshake.lookForSocket id path c isThere x left time delay).outcome = .ok place) :
    place = .socket path ∧
      isThere (Handshake.lookForSocket id path c isThere x left time delay).time = true := by
  induction left generalizing time delay with
  | zero => cases h
  | succ left ih =>
    rw [Handshake.lookForSocket] at h ⊢
    split
    · next there =>
      rw [if_pos there] at h
      cases h
      exact ⟨rfl, there⟩
    · next absent =>
      rw [if_neg absent] at h
      split
      · next ends =>
        rw [if_pos ends] at h
        cases h
      · next goesOn =>
        rw [if_neg goesOn] at h
        exact ih h

/-- A host that waits for an instance on a socket is satisfied with its socket file only, and the file
is there then. -/
theorem readiness_socket {id : PluginId} {l : LaunchConfig} {c : HandshakeConfig} {fs : Files}
    {x : Execution} {t : Handshake.Timed Place} {place : Place} (on : l.connection = .socket)
    (ready : Startup.readiness id l c fs x = some t) (ok : t.outcome = .ok place) :
    place = .socket l.socketPath ∧ (x.filesBefore fs t.time).pathExists l.socketPath = true := by
  unfold Startup.readiness at ready
  simp only [on] at ready
  cases ready
  exact lookForSocket_eq_ok ok

/-- A wait that gives a place has ended with it. -/
theorem of_await_eq_ok {id : PluginId} {l : LaunchConfig} {c : HandshakeConfig} {fs : Files}
    {x : Execution} {place : Place} (ok : (Startup.await id l c fs x).outcome = .ok place) :
    ∃ t, Startup.readiness id l c fs x = some t ∧ t.outcome = .ok place := by
  unfold Startup.await at ok
  cases ready : Startup.readiness id l c fs x with
  | none =>
    rw [ready] at ok
    cases ok
  | some t =>
    rw [ready] at ok
    simp only at ok
    split at ok
    · exact ⟨t, rfl, ok⟩
    · cases ok

/-- An instance is reached where it was greeted. -/
theorem place_of_greet {net : Network Site} {ids : Nat → Telemetry.RequestId}
    {documents : Schema.Documents} {id : PluginId} {place : Place} {site : Site} {started : Started Site}
    (ok : ((Startup.greet net ids documents id place).run site).1 = .ok started) :
    started.place = place := by
  rw [Startup.greet, Effect.run_ofFunction] at ok
  simp only at ok
  generalize (Client.ping _).run _ = answer at ok
  obtain ⟨fault | ⟨⟨⟩⟩, link⟩ := answer
  · cases ok
  · cases ok
    rfl

/-- The steps by which a host has started an instance. -/
theorem start_eq_ok {net : Network Site} {ids : Nat → Telemetry.RequestId}
    {documents : Schema.Documents} {c : ManagerConfig} {d : PluginDescriptor} {cap : Capability}
    {site : Site} {started : Started Site}
    (starts : (Startup.start net ids documents c d cap site).1.outcome = .ok started) :
    ∃ (site₀ site₁ : Site) (x : Execution) (t : Handshake.Timed Place),
      site₀.run d.path (Startup.arguments (c.launch d cap)) = (.ok x, site₁) ∧
      Startup.readiness d.id (c.launch d cap) c.handshake site₁.files x = some t ∧
      t.outcome = .ok started.place := by
  unfold Startup.start at starts
  cases verified : d.verify site.files with
  | error fault =>
    rw [verified] at starts
    cases starts
  | ok u =>
    rw [verified] at starts
    simp only at starts
    generalize { site with files := Startup.clear (c.launch d cap) site.files } = site₀ at starts
    rcases ran : site₀.run d.path (Startup.arguments (c.launch d cap)) with ⟨e | x, site₁⟩
    · rw [ran] at starts
      cases starts
    · rw [ran] at starts
      simp only at starts
      cases awaited : (Startup.await d.id (c.launch d cap) c.handshake site₁.files x).outcome with
      | error e =>
        rw [awaited] at starts
        cases starts
      | ok place =>
        rw [awaited] at starts
        obtain ⟨t, ready, ok⟩ := of_await_eq_ok awaited
        exact ⟨site₀, site₁, x, t, ran, ready, ok.trans (congrArg _ (place_of_greet starts).symm)⟩

/-- Every launch configuration of a host is handed over as a text that the plugin reads back as it was.
So the plugin binds the socket file that the host looks for and connects to. In one directory, which may
be any, no two instances of plugins have the same socket file, and each file lies directly in the
directory. What may name a plugin are the texts of lowercase letters, digits and hyphens that are not
empty and have no hyphen at either end. -/
theorem launch_agreed (c : ManagerConfig) (d : PluginDescriptor) (cap : Capability)
    (limit : ∀ n ∈ c.idleSeconds, n < 2 ^ 64) :
    LaunchConfig.ofText (c.launch d cap).text = .ok (c.launch d cap) ∧
    (∀ name, CommandLine.parse (name :: Startup.arguments (c.launch d cap)) =
      .ok { config := some (c.launch d cap).text }) ∧
    (c.launch d cap).socketPath = socketPath c.socketDir (instanceName d.id cap) ∧
    (d.connection = .socket →
      (∀ (h : HandshakeConfig) (fs : Files) (x : Execution) (t : Handshake.Timed Place) (place : Place),
        Startup.readiness d.id (c.launch d cap) h fs x = some t → t.outcome = .ok place →
          place = .socket (c.launch d cap).socketPath ∧
            (x.filesBefore fs t.time).pathExists (c.launch d cap).socketPath = true) ∧
      (∀ (net : Network Site) (ids : Nat → Telemetry.RequestId) (documents : Schema.Documents)
        (site : Site) (started : Started Site),
        (Startup.start net ids documents c d cap site).1.outcome = .ok started →
          started.place = .socket (c.launch d cap).socketPath ∧
            ∃ (site₀ : Site) (x : Execution),
              (site₀.run d.path (Startup.arguments (c.launch d cap))).1 = .ok x) ∧
      ∀ (σ : Type) (e : Endpoints σ) (launch : LaunchConfig) (router : Router σ) (port : Net.Address)
        (fs fs' : Files) (server : Server σ),
        CommandLine.run { config := some (c.launch d cap).text } e = .ok (.serve launch router) →
          (Server.bind e launch port).run fs = (.ok server, fs') →
            server.place = .socket (c.launch d cap).socketPath) ∧
    (∀ (s u dir : String) (p q : PluginId) (cap cap' : Capability), PluginId.parse s = .ok p →
      PluginId.parse u = .ok q →
        (Path.components (socketPath dir (instanceName p cap)) =
            Path.components dir ++ [socketName (instanceName p cap)] ∧
          Path.isAbsolute (socketPath dir (instanceName p cap)) = Path.isAbsolute dir ∧
          Path.parent? (socketPath dir (instanceName p cap)) =
            some (Path.ofComponents (Path.isAbsolute dir) (Path.components dir))) ∧
        (Path.components (socketPath dir (instanceName p cap)) =
          Path.components (socketPath dir (instanceName q cap')) → p = q ∧ cap = cap')) ∧
    ∀ (s : String) (id : PluginId), PluginId.parse s = .ok id ↔
      id.text = s ∧ s ≠ "" ∧
        (∀ ch ∈ s.toList, 'a' ≤ ch ∧ ch ≤ 'z' ∨ '0' ≤ ch ∧ ch ≤ '9' ∨ ch = '-') ∧
        s.toList.head? ≠ some '-' ∧ s.toList.getLast? ≠ some '-' := by
  refine ⟨LaunchConfig.ofText_text limit, fun name => parse_arguments name _, rfl,
    fun on => ⟨?looks, ?starts, ?listens⟩, ?files, fun s id => PluginId.parse_eq_ok_iff⟩
  case looks =>
    intro h fs x t place ready ok
    exact readiness_socket on ready ok
  case starts =>
    intro net ids documents site started starts
    obtain ⟨site₀, site₁, x, t, ran, ready, ok⟩ := start_eq_ok starts
    exact ⟨(readiness_socket on ready ok).1, site₀, x, congrArg Prod.fst ran⟩
  case listens =>
    intro σ e launch router port fs fs' server runs bound
    rw [run_text e limit] at runs
    cases served : Router.ofEndpoints e (c.launch d cap).capability with
    | error fault =>
      rw [served] at runs
      cases runs
    | ok router' =>
      rw [served] at runs
      cases runs
      exact bind_socket on bound
  case files =>
    intro s u dir p q cap cap' validp validq
    exact ⟨socketPath_join validp cap dir, instance_of_components validp validq⟩

/-- A host with a directory whose name has to be escaped, and with a limit of time. -/
def quotedDirectory : ManagerConfig := { socketDir := "/run/\"kit\"/", idleSeconds := some 30 }

/-- A plugin whose identifier ends like the instance of another plugin. -/
def lateLister : PluginDescriptor := { id := ⟨"a-lister"⟩, path := "./a-lister" }

/-- The directory comes back from the text as it was, and the instance has a file of its own beside that
of the plugin that its identifier looks like. -/
theorem lateLister_agreed : (∀ n ∈ quotedDirectory.idleSeconds, n < 2 ^ 64) ∧
    LaunchConfig.ofText (quotedDirectory.launch lateLister .digestProcessor).text =
      .ok (quotedDirectory.launch lateLister .digestProcessor) ∧
    (quotedDirectory.launch lateLister .digestProcessor).socketPath =
      "/run/\"kit\"/a-lister-digest-plugin.socket" ∧
    PluginId.parse "a-lister" = .ok lateLister.id ∧ PluginId.parse "a" = .ok ⟨"a"⟩ ∧
    Path.components (socketPath "/run" (instanceName lateLister.id .digestProcessor)) ≠
      Path.components (socketPath "/run" (instanceName ⟨"a"⟩ .componentLister)) := by
  have limit : ∀ n ∈ quotedDirectory.idleSeconds, n < 2 ^ 64 := by decide
  have late : PluginId.parse "a-lister" = .ok lateLister.id := by rfl
  have early : PluginId.parse "a" = .ok ⟨"a"⟩ := by rfl
  obtain ⟨reads, -, -, -, files, -⟩ := launch_agreed quotedDirectory lateLister .digestProcessor limit
  refine ⟨limit, reads, by decide, late, early, fun same => ?_⟩
  cases ((files _ _ "/run" _ _ _ _ late early).2 same).2

end PluginKit
