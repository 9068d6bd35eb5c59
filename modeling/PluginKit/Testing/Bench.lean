import PluginKit.Client
import PluginKit.Serve.Router
import PluginKit.System.Files

/-!
# A bench for clients

A client can be tried without a plugin that runs: against answers that are laid out beforehand, or
against the router of a plugin within the same program. The bench keeps every request that was sent.
-/

namespace PluginKit.Testing

open Http (Request Response)

/-- The reply of a scripted connection to a request. -/
inductive Reply where
  | answer (response : Response)
  | broken (reason : String)

/-- The files that a plugin works on, the replies that are laid out and the requests so far. -/
structure Bench where
  files : Files
  replies : List Reply := []
  seen : List Request := []

/-- The answer when no reply is left. -/
def emptyObject : Response := { status := 200, body := Text.encode (Json.obj []).render }

/-- The place that a scripted connection leads to, as it is shown. -/
def scriptPlace : String := "tcp:127.0.0.1:1"

/-- Replies as they are laid out, and then empty objects. -/
def scripted (r : Request) : Effect Bench Response := .ofFunction fun b =>
  let b := { b with seen := b.seen ++ [r] }
  match b.replies with
  | [] => (.ok emptyObject, b)
  | .answer response :: rest => (.ok response, { b with replies := rest })
  | .broken reason :: rest => (.error (.transport scriptPlace reason), { b with replies := rest })

/-- The answers of a router. -/
def inProcess (router : Router Files) (r : Request) : Effect Bench Response := .ofFunction fun b =>
  let (response, files) := router.respond r b.files
  (.ok response, { b with files, seen := b.seen ++ [r] })

/-- Identifiers of requests that differ in their last digit. -/
def countedIds (n : Nat) : Telemetry.RequestId := ⟨List.replicate 31 0 ++ [n % 16], by simp⟩

end PluginKit.Testing
