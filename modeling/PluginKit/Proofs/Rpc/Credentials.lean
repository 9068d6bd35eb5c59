import PluginKit.Proofs.Rpc.Call
import PluginKit.Proofs.Text

/-!
# Credentials in a header

Credentials travel as JSON in a header, whose octets may be no controls but the tab. Of the characters
of JSON text only the delete character is such an octet: the other controls are escaped inside strings,
and the octets of a character beyond ASCII all lie above the controls.

## Main statements

- `Http.isHeaderValue_encode`: whether a text fits in a header is told by its characters.
- `Json.all_renderString`: a string is written without controls, except for a delete character in it.
- `credentials_over_header`: exactly the credentials with a delete character cannot be sent, and all
  others are read as they were sent.
-/

namespace PluginKit

open Http (Request)
open Json (Decoder)

/-! ## Octets of headers -/

namespace Http

/-- Whether a header may have an octet in its value. -/
def headerOctet (o : UInt8) : Bool := (0x20 ≤ o && o != 0x7F) || o == 0x09

/-- Whether a character is sent as octets that a header may have. -/
def headerChar (c : Char) : Bool := (0x20 ≤ c.toNat && c != '\x7f') || c == '\t'

theorem headerOctet_of_high {n : Nat} (high : 128 ≤ n) (octet : n < 256) :
    headerOctet (UInt8.ofNat n) = true := by
  have value : (UInt8.ofNat n).toNat = n := UInt8.toNat_ofNat_of_lt' octet
  have printable : (0x20 : UInt8) ≤ UInt8.ofNat n := by
    rw [UInt8.le_iff_toNat_le, value]
    exact Nat.le_trans (by decide) high
  have kept : UInt8.ofNat n ≠ 0x7F := by
    intro same
    have : n = 127 := by rw [← value, same]; rfl
    omega
  simp [headerOctet, printable, kept]

theorem headerOctet_of_low {c : Char} (low : c.toNat ≤ 127) :
    headerOctet (UInt8.ofNat c.toNat) = headerChar c := by
  have value : (UInt8.ofNat c.toNat).toNat = c.toNat :=
    UInt8.toNat_ofNat_of_lt' (Nat.lt_of_le_of_lt low (by decide))
  have char (d : Char) : c = d ↔ c.toNat = d.toNat := Char.toNat_inj.symm
  have octet (o : UInt8) : UInt8.ofNat c.toNat = o ↔ c.toNat = o.toNat := by
    rw [← UInt8.toNat_inj, value]
  rw [Bool.eq_iff_iff]
  simp [headerOctet, headerChar, UInt8.le_iff_toNat_le, char, octet, value]

/-- The octets of a character fit in a header if the character does. -/
theorem all_utf8EncodeChar (c : Char) :
    (String.utf8EncodeChar c).all headerOctet = headerChar c := by
  by_cases low : c.val.toNat ≤ 127
  · rw [String.utf8EncodeChar, if_pos low, List.all_cons, List.all_nil, Bool.and_true]
    exact headerOctet_of_low low
  · have kept : headerChar c = true := by
      have printable : 0x20 ≤ c.toNat := Nat.le_trans (by decide) (Nat.le_of_not_le low)
      have other : c ≠ '\x7f' := by
        rintro rfl
        exact low (by decide)
      simp [headerChar, printable, other]
    rw [kept, List.all_eq_true]
    intro o member
    obtain ⟨n, rfl, high, octet⟩ := Text.high_of_mem_utf8EncodeChar low member
    exact headerOctet_of_high high octet

/-- Whether a text fits in a header is told by its characters. -/
theorem isHeaderValue_encode (s : String) :
    isHeaderValue (Text.encode s) = s.toList.all headerChar := by
  have octets : isHeaderValue (Text.encode s) = (Text.encode s).toList.all headerOctet := rfl
  rw [octets, Text.toList_encode, List.all_flatMap]
  simp only [all_utf8EncodeChar]

end Http

/-! ## Characters of JSON text -/

namespace Json

open Http (headerChar)

/-- A character of a string is written without controls, unless it is the delete character. -/
theorem all_escapeChar (c : Char) : (escapeChar c).all headerChar = (c != '\x7f') := by
  by_cases printable : 0x20 ≤ c.toNat
  · by_cases marked : c = '"' ∨ c = '\\'
    · rcases marked with rfl | rfl <;> rfl
    · obtain ⟨quote, slash⟩ := not_or.1 marked
      have tab : c ≠ '\t' := by
        rintro rfl
        exact absurd printable (by decide)
      simp [escapeChar, quote, slash, printable, headerChar, tab]
  · -- a control is escaped, by a letter or by hexadecimal digits
    have escaped : ∀ n < 0x20, (escapeChar (Char.ofNat n)).all headerChar = true := by decide
    have kept : c ≠ '\x7f' := by
      rintro rfl
      exact printable (by decide)
    have control := escaped c.toNat (Nat.lt_of_not_le printable)
    rw [Char.ofNat_toNat] at control
    rw [control, bne_iff_ne.2 kept]

/-- Whether a string has no delete character. -/
def isPlain (s : String) : Bool := s.toList.all (· != '\x7f')

theorem isPlain_iff {s : String} : isPlain s = true ↔ '\x7f' ∉ s.toList := by
  rw [isPlain, List.all_eq_true]
  constructor
  · intro all member
    exact absurd rfl (bne_iff_ne.1 (all _ member))
  · intro absent c member
    refine bne_iff_ne.2 ?_
    rintro rfl
    exact absent member

/-- A string is written without controls, except for a delete character in it. -/
theorem all_renderString (s : String) : (renderString s).all headerChar = isPlain s := by
  have quote : headerChar '"' = true := by decide
  rw [renderString, List.all_append, List.all_cons, List.all_flatMap]
  simp [all_escapeChar, quote, isPlain]

/-- So are members whose values are strings. -/
theorem all_renderMembers (t : Table String String) (rest : List Char) :
    (renderMembers rest (t.mapValues Json.str)).all headerChar =
      ((t.all fun e => isPlain e.1 && isPlain e.2) && rest.all headerChar) := by
  have comma : headerChar ',' = true := by decide
  have colon : headerChar ':' = true := by decide
  induction t with
  | nil => rfl
  | cons e t ih =>
    show (renderMembers rest ((e.1, Json.str e.2) :: Table.mapValues Json.str t)).all _ = _
    rw [renderMembers, renderOnto]
    simp only [List.all_cons, List.all_append, all_renderString, comma, colon, ih]
    simp only [Bool.true_and, Bool.and_assoc]

end Json

/-! ## Credentials as a header -/

/-- Some key or some value has the delete character in it. -/
def Credentials.HasDelete (c : Credentials) : Prop :=
  ∃ e ∈ c.entries, '\x7f' ∈ e.1.toList ∨ '\x7f' ∈ e.2.toList

instance (c : Credentials) : Decidable c.HasDelete :=
  inferInstanceAs (Decidable (∃ e ∈ c.entries, '\x7f' ∈ e.1.toList ∨ '\x7f' ∈ e.2.toList))

theorem Table.all_render (t : Table String String) :
    t.toJson.render.toList.all Http.headerChar =
      t.all fun e => Json.isPlain e.1 && Json.isPlain e.2 := by
  have braces : Http.headerChar '\x7b' = true ∧ Http.headerChar '\x7d' = true := by decide
  have colon : Http.headerChar ':' = true := by decide
  cases t with
  | nil => decide
  | cons e t =>
    have written : (Table.toJson (e :: t)).render.toList =
        '\x7b' :: Json.renderString e.1 ++ ':' :: (Json.renderString e.2 ++
          Json.renderMembers ['\x7d'] (Table.mapValues Json.str t)) := by
      rw [Json.render, String.toList_ofList]
      rfl
    rw [written]
    simp only [List.all_cons, List.all_append, Json.all_renderString, Json.all_renderMembers,
      braces, colon, List.all_nil]
    simp only [Bool.true_and, Bool.and_true, Bool.and_assoc]

/-- Credentials fit in a header unless they have a delete character. -/
theorem isHeaderValue_credentials (c : Credentials) :
    Http.isHeaderValue (Text.encode c.toJson.render) = true ↔ ¬ c.HasDelete := by
  rw [Http.isHeaderValue_encode, Credentials.toJson, Table.all_render, List.all_eq_true]
  simp only [Bool.and_eq_true, Json.isPlain_iff, Credentials.HasDelete]
  constructor
  · rintro all ⟨e, member, key | value⟩
    · exact (all e member).1 key
    · exact (all e member).2 value
  · intro none e member
    exact ⟨fun key => none ⟨e, member, .inl key⟩, fun value => none ⟨e, member, .inr value⟩⟩

namespace Client

/-- The fault of credentials that cannot be sent. -/
def unsendable : Fault :=
  .conversion "credentials cannot be sent as a header: failed to parse header value"

theorem credentialHeader_of_hasDelete {c : Credentials} (delete : c.HasDelete) :
    credentialHeader c = .error unsendable := by
  have refused : ¬ Http.isHeaderValue (Text.encode c.toJson.render) = true :=
    fun fits => (isHeaderValue_credentials c).1 fits delete
  exact if_neg refused

theorem credentialHeader_of_not_hasDelete {c : Credentials} (plain : ¬ c.HasDelete) :
    credentialHeader c = .ok (Text.encode c.toJson.render) :=
  if_pos ((isHeaderValue_credentials c).2 plain)

variable {path : String} {c : Credentials}

/-- Credentials with a delete character are put into no request. -/
theorem callRequest_of_hasDelete (delete : c.HasDelete) (path : String) (message : Json)
    (id : Telemetry.RequestId) : callRequest path message c id = .error unsendable := by
  rw [callRequest, credentialHeader_of_hasDelete delete]
  rfl

/-- Credentials without that character are put in the header of the request, and the same ones are read
from there. -/
theorem callRequest_of_not_hasDelete (plain : ¬ c.HasDelete) (ascending : c.entries.Ascending)
    {uri : Http.Uri} (valid : target path = .ok uri) (message : Json) (id : Telemetry.RequestId) :
    ∃ req, callRequest path message c id = .ok req ∧
      req.headers.get? "authorization" = some (Text.encode c.toJson.render) ∧
      Router.readCredentials req = .ok c := by
  have there : (callHeaders (Text.encode c.toJson.render) id).get? "authorization" =
      some (Text.encode c.toJson.render) := by
    simp [callHeaders, Http.Headers.get?, List.lookup_cons]
  refine ⟨{ method := "POST", uri, headers := callHeaders (Text.encode c.toJson.render) id,
            body := Text.encode message.render }, ?_, there, readCredentials_of_header ascending there⟩
  rw [callRequest, credentialHeader_of_not_hasDelete plain, valid]
  rfl

/-- A call whose request cannot be built is over before anything is sent: the connection is as it was. -/
theorem run_call_of_unbuilt {σ α : Type} {client : Client σ} {message : Json} {l : Link σ}
    {fault : Fault} (unbuilt : callRequest path message c (client.ids l.issued) = .error fault)
    (d : Decoder α) :
    (client.call path message c d).run l = (.error fault, { l with issued := l.issued + 1 }) := by
  rw [run_call_eq, unbuilt]

end Client

/-- Credentials, whose entries ascend as those of every table, survive the header. The request of a call
is not built exactly if some key or value has a delete character; then the call fails before anything is
sent. Otherwise the plugin reads from the request what the host has put into it. No credentials at all
are sent as an empty object. -/
theorem credentials_over_header {path : String} {uri : Http.Uri}
    (valid : Client.target path = .ok uri) {c : Credentials} (ascending : c.entries.Ascending)
    (message : Json) (id : Telemetry.RequestId) :
    ((∃ fault, Client.callRequest path message c id = .error fault) ↔ c.HasDelete) ∧
    (c.HasDelete → Client.callRequest path message c id = .error Client.unsendable ∧
      ∀ {σ α : Type} (client : Client σ) (d : Decoder α) (l : Link σ),
        (client.call path message c d).run l =
          (.error Client.unsendable, { l with issued := l.issued + 1 })) ∧
    (∀ req, Client.callRequest path message c id = .ok req → Router.readCredentials req = .ok c) ∧
    (∃ req, Client.callRequest path message {} id = .ok req ∧
      req.headers.get? "authorization" = some (Text.encode "\x7b\x7d") ∧
      Router.readCredentials req = .ok {}) := by
  have none : ¬ ({} : Credentials).HasDelete := by
    rintro ⟨e, member, -⟩
    cases member
  refine ⟨⟨?_, ?_⟩, ?_, ?_, ?_⟩
  · rintro ⟨fault, failed⟩
    refine Classical.byContradiction fun plain => ?_
    obtain ⟨req, built, -⟩ := Client.callRequest_of_not_hasDelete plain ascending valid message id
    rw [built] at failed
    cases failed
  · intro delete
    exact ⟨_, Client.callRequest_of_hasDelete delete path message id⟩
  · intro delete
    refine ⟨Client.callRequest_of_hasDelete delete path message id, ?_⟩
    intro σ α client d l
    exact Client.run_call_of_unbuilt (Client.callRequest_of_hasDelete delete path message _) d
  · intro req built
    by_cases delete : c.HasDelete
    · rw [Client.callRequest_of_hasDelete delete path message id] at built
      cases built
    · obtain ⟨req', built', -, read⟩ :=
        Client.callRequest_of_not_hasDelete delete ascending valid message id
      rw [built'] at built
      cases built
      exact read
  · exact Client.callRequest_of_not_hasDelete none Table.ascending_nil valid message id

/-- Credentials with a quote, controls and letters beyond ASCII. -/
def quotedCredentials : Credentials := .ofPairs [("clé", "say \"hi\"\n\x00"), ("\ttoken", "\\")]

/-- They are read as they were sent; with a delete character in them they are not sent. -/
theorem quoted_credentials_read :
    (∃ req, Client.callRequest Wire.resourceGetPath .null quotedCredentials default = .ok req ∧
      Router.readCredentials req = .ok quotedCredentials) ∧
    Client.callRequest Wire.resourceGetPath .null (quotedCredentials.insert "pass" "\x7f") default =
      .error Client.unsendable := by
  have ascending : quotedCredentials.entries.Ascending := Table.ascending_ofList _
  have plain : ¬ quotedCredentials.HasDelete := by decide
  have delete : (quotedCredentials.insert "pass" "\x7f").HasDelete := by decide
  have sent := credentials_over_header (target_path .download) ascending .null default
  have refused := credentials_over_header (target_path .download)
    (Table.ascending_insert ascending "pass" "\x7f") .null default
  refine ⟨?_, (refused.2.1 delete).1⟩
  cases built : Client.callRequest Operation.download.path .null quotedCredentials default with
  | error fault => exact absurd (sent.1.1 ⟨fault, built⟩) plain
  | ok req => exact ⟨req, built, sent.2.2.1 req built⟩

end PluginKit
