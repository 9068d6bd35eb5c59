import PluginKit.Http.Uri
import PluginKit.Table

/-!
# Requests and responses

Messages of HTTP as far as plugins use them. Header names are in lower case.

## Main statements

- `isSuccess_iff`: success is told by the status from 200 to 299.
-/

namespace PluginKit.Http

open Text (Octets)

/-- Headers in the order in which they were set. -/
abbrev Headers := List (String × Octets)

/-- The value of a header. -/
def Headers.get? (h : Headers) (name : String) : Option Octets := h.lookup name

/-- Whether a header may have a value: no controls but the tab. -/
def isHeaderValue (b : Octets) : Bool := b.toList.all fun o => (0x20 ≤ o && o != 0x7F) || o == 0x09

/-- A request. -/
structure Request where
  method : String
  uri : Uri
  headers : Headers := []
  body : Octets := .empty

/-- A response. -/
structure Response where
  status : Nat
  headers : Headers := []
  body : Octets := .empty

namespace Response

/-- A response that is nothing but its status. -/
def empty (status : Nat) : Response := { status }

/-- A response with JSON for its body. -/
def json (status : Nat) (body : String) : Response where
  status := status
  headers := [("content-type", Text.encode "application/json")]
  body := Text.encode body

/-- Whether the request succeeded. -/
def isSuccess (r : Response) : Bool := 200 ≤ r.status && r.status ≤ 299

/-- Success is told by the status. -/
theorem isSuccess_iff (r : Response) : r.isSuccess = true ↔ 200 ≤ r.status ∧ r.status ≤ 299 := by
  simp [isSuccess]

end Response

end PluginKit.Http
