import PluginKit.Launch
import PluginKit.Network
import PluginKit.Serve.Router

/-!
# Serving

An instance listens on what its launch configuration says: on a socket file, which it puts in the
place of an older one, or on a port of the machine. It answers requests until it is told to stop or
has had nothing to do for too long, and takes its socket file away.
-/

namespace PluginKit

/-- An instance that listens. -/
structure Server (σ : Type) where
  place : Place
  router : Router σ
  /-- How long it may have nothing to do, in milliseconds. -/
  idleMillis : Option Nat

namespace Server

/-- How long an instance may have nothing to do. Zero seconds stand for no limit. -/
def idleMillis? (l : LaunchConfig) : Option Nat :=
  (l.idleSeconds.filter (0 < ·)).map (1000 * ·)

/-- Takes away what an older instance has left. Nothing has to be there, but it has to be a file. -/
def clear (fs : Files) (path : String) : Except IoError Files :=
  match fs.remove path with
  | .ok fs => .ok fs
  | .error e => if e = .notFound then .ok fs else .error e

/-- Listens on a socket file. The directory is made if there is none. -/
def listenAt (path : String) : Effect Files Unit := .ofFunction fun fs =>
  let (made, fs) := fs.makeDirectories ((Path.parent? path).getD "/")
  match made with
  | .error e => (.error (.io e), fs)
  | .ok () =>
    match clear fs path with
    | .error e => (.error (.io e), fs)
    | .ok fs =>
      match fs.listen path with
      | .error e => (.error (.io e), fs)
      | .ok fs => (.ok (), fs)

/-- Opens the place where an instance listens. The port is one that the machine has chosen. -/
def listenFor (l : LaunchConfig) (port : Net.Address) : Effect Files Place :=
  match l.connection with
  | .socket => do
    listenAt l.socketPath
    return .socket l.socketPath
  | .tcp => return .tcp port

/-- An instance that listens as it was told. -/
def bind {σ : Type} (e : Endpoints σ) (l : LaunchConfig) (port : Net.Address) :
    Effect Files (Server σ) := do
  let router ← Effect.lift (Router.ofEndpoints e l.capability)
  return { place := ← listenFor l port, router, idleMillis := idleMillis? l }

/-- The output of an instance once it listens: its address on a line of its own if it listens on a port.
-/
def announcement : Place → String
  | .socket _ => ""
  | .tcp a => a.text ++ "\n"

/-- Whether a socket file of the instance is there, nothing for an instance on a port. -/
def socketIsThere {σ : Type} (s : Server σ) (fs : Files) : Option Bool :=
  match s.place with
  | .socket path => some (fs.pathExists path)
  | .tcp _ => none

/-- Stops listening. -/
def stop {σ : Type} (s : Server σ) (fs : Files) : Files :=
  match s.place with
  | .socket path => (fs.remove path).toOption.getD fs
  | .tcp _ => fs

/-- The answers of an instance on files, over connections. -/
def answering (s : Server Files) (connect : Files → Place → Except IoError Unit) : Network Files :=
  fun place request => .ofFunction fun fs =>
    match connect fs place with
    | .error e => (.error (place.unreached e), fs)
    | .ok () =>
      let (response, fs) := s.router.respond request fs
      (.ok response, fs)

end Server

end PluginKit
