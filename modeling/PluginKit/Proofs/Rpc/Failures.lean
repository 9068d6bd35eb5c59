import PluginKit.Proofs.Rpc.Carried

/-!
# Failures over a connection

A handler may fail with any fault, and a refusal chooses its own status, be it one of success. The
host reads the report that the router writes of the fault. With a status of failure it gets the status
and the wording back. With a status of success the report stands in the place of an answer and is
refused, because every answer has a field that a report has not.

## Main statements

- `Operation.AnsweredBy.refusesReports`: no operation takes a report for an answer.
- `failure_stays_failure`: a call whose plugin reports a fault fails, whatever the fault.
-/

namespace PluginKit

open Json (Decoder)

variable {σ α : Type}

/-- How clients read the answers of an operation. -/
inductive Operation.AnsweredBy : Operation → {α : Type} → Decoder α → Prop
  | identity : AnsweredBy .identity Wire.IdentityResponse.decoder
  | download : AnsweredBy .download Wire.LocationResponse.decoder
  | upload : AnsweredBy .upload Wire.uploadResponse
  | digest : AnsweredBy .digest Wire.digestResponse
  | list : AnsweredBy .list Wire.ListResponse.decoder

/-- No operation takes a report for an answer: each has a field that a report has not. -/
theorem Operation.AnsweredBy.refusesReports {op : Operation} {d : Decoder α}
    (answered : op.AnsweredBy d) : RefusesReports d := by
  cases answered with
  | identity => exact refusesReports_identity
  | download => exact refusesReports_location
  | upload => exact refusesReports_resource _
  | digest => exact refusesReports_resource _
  | list => exact refusesReports_list

/-- A failure stays a failure at the host: whatever fault is reported to a call, the call fails, and it
fails with the plugin's status and wording or, where the status says success, because the report is no
answer. -/
theorem failure_stays_failure {op : Operation} {d : Decoder α} (answered : op.AnsweredBy d)
    {credentials : Credentials} {value : Text.Octets}
    (header : Client.credentialHeader credentials = .ok value) (message : Json) {c : Client σ}
    {e : Fault} {l : Link σ} {s : σ}
    (delivered : (c.send (op.request message value (c.ids l.issued))).run l.world =
      (.ok (Router.faultResponse e), s)) :
    ∃ fault, (c.call op.path message credentials d).run l =
        (.error fault, { l with world := s, issued := l.issued + 1 }) ∧
      e.ReportedAs c.plugin op.path fault := by
  have called := run_call_of_sent header delivered d
  obtain ⟨fault, told, reported⟩ :=
    reply_report answered.refusesReports e c.plugin op.path
  rw [told] at called
  exact ⟨fault, called, reported⟩

/-- A client of a plugin that reports one fault to everything. -/
def reportingClient (e : Fault) : Client Unit where
  plugin := ⟨"p"⟩
  send _ := Effect.lift (.ok (Router.faultResponse e))
  ids _ := .zero
  documents := .none

/-- A handler that gives up on a shutdown within a shutdown, and one that refuses with a status of
success: neither is taken for a page of components. -/
theorem faults_are_no_page :
    ((reportingClient (.shutdown [.rejected 204 "a", .shutdown [.config "b"]])).call Wire.listPath .null
      {} Wire.ListResponse.decoder).run { world := () } =
        (.error (.application ⟨"p"⟩ Wire.listPath 500
          "plugin shutdown failed: a; plugin shutdown failed: configuration error: b"),
          { world := (), issued := 1 }) ∧
    ∃ text, ((reportingClient (.rejected 204 "\"list\"")).call Wire.listPath .null {}
      Wire.ListResponse.decoder).run { world := () } =
        (.error (.protocol ⟨"p"⟩ Wire.listPath 204 text), { world := (), issued := 1 }) := by
  constructor
  · obtain ⟨fault, called, reported⟩ := failure_stays_failure .list header_empty .null
      (c := reportingClient (.shutdown [.rejected 204 "a", .shutdown [.config "b"]]))
      (l := { world := () }) rfl
    cases reported.failure (by decide)
    exact called
  · obtain ⟨fault, called, reported⟩ := failure_stays_failure .list header_empty .null
      (c := reportingClient (.rejected 204 "\"list\"")) (l := { world := () }) rfl
    obtain ⟨text, rfl⟩ := reported.success (by decide)
    exact ⟨text, called⟩

end PluginKit
