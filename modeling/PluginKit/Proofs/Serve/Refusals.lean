import PluginKit.Proofs.Serve.Gate

/-!
# What a refusal of credentials tells

A header for credentials that holds an object is refused when a member of it is no string. The answer
names what the first such member is: that it is `null`, an array or an object, or which truth value or
number it is. Nothing else of the header is told. So two requests that differ in their headers are
answered alike exactly if the first members that are no strings are worded alike, and they are not if
these are different numbers.

## Main statements

- `Json.entries_string_error_iff`: members are refused for the first one that is no string.
- `Router.respond_of_misfit`: the answer to a header with such a member.
- `Router.refusal_inj`: different words are different answers.
- `refused_alike_iff`: when two refused headers are answered alike.
-/

namespace PluginKit

open Text (Octets)
open Http (Request Response)

variable {σ β : Type}

namespace Json

/-! ## Members that are no strings -/

/-- The fault of a value that has to be a string and is none. -/
def Node.misfit (node : Node) : Option DecodeFault :=
  match Decoder.string node with
  | .ok _ => none
  | .error fault => some fault

/-- The first fault of members that have to be strings. -/
def firstMisfit (ms : List (String × Node)) : Option DecodeFault := ms.findSome? fun m => m.2.misfit

/-- Two values of the same kind, and the same value if it is a truth value or a number. -/
inductive Node.LooksLike : Node → Node → Prop
  | strings (s t : String) : LooksLike (.str s) (.str t)
  | arrays (xs ys : List Node) (stop stop' : Option Stop) : LooksLike (.arr xs stop) (.arr ys stop')
  | objects (ms ns : List (String × Node)) (stop stop' : Option Stop) :
    LooksLike (.obj ms stop) (.obj ns stop')
  | same (node : Node) : LooksLike node node

/-- Strings, arrays and objects are refused by their kind alone. -/
theorem Node.LooksLike.misfit_eq {a b : Node} (alike : a.LooksLike b) : a.misfit = b.misfit := by
  cases alike <;> rfl

theorem firstMisfit_eq_of_forall₂ {ms ms' : List (String × Node)}
    (alike : List.Forall₂ (fun m m' => m.2.LooksLike m'.2) ms ms') : firstMisfit ms = firstMisfit ms' := by
  induction alike with
  | nil => rfl
  | cons first _ ih =>
    unfold firstMisfit at ih ⊢
    rw [List.findSome?_cons, List.findSome?_cons, first.misfit_eq, ih]

/-- Integers are told apart. -/
theorem integer_message_inj {m n : Int} {expected : String} :
    (DecodeFault.mismatch (.num (.int m)) expected).message =
      (DecodeFault.mismatch (.num (.int n)) expected).message ↔ m = n := by
  -- every integer stands between the same words
  have text (k : Int) : (DecodeFault.mismatch (.num (.int k)) expected).message =
      "invalid type: " ++ ("integer `" ++ (Number.int k).render ++ "`") ++ ", expected " ++ expected :=
    rfl
  rw [text, text, String.append_left_inj expected, String.append_left_inj ", expected ",
    String.append_right_inj "invalid type: ", String.append_left_inj "`",
    String.append_right_inj "integer `", Reader.render_int_inj]

/-- Members are refused for the first one that is no string. -/
theorem entries_string_error_iff {ms : List (String × Node)} {fault : DecodeFault} :
    Decoder.entries .ok Decoder.string ms = .error fault ↔ firstMisfit ms = some fault := by
  induction ms with
  | nil => exact ⟨nofun, nofun⟩
  | cons m ms ih =>
    obtain ⟨key, node⟩ := m
    unfold firstMisfit at ih ⊢
    rw [List.findSome?_cons, Decoder.entries]
    cases read : Decoder.string node with
    | error blame =>
      have misfit : node.misfit = some blame := by rw [Node.misfit, read]
      simp [misfit]
    | ok s =>
      -- a string is passed over, and the fault lies further on
      have fits : node.misfit = none := by rw [Node.misfit, read]
      simp only [fits]
      rw [← ih]
      cases Decoder.entries .ok Decoder.string ms <;> simp

end Json

/-! ## Headers -/

/-- The header for credentials of a request holds an object with some members. -/
def HeaderHolds (req : Request) (ms : List (String × Json.Node)) : Prop :=
  ∃ value, req.headers.get? "authorization" = some value ∧ value.isEmpty = false ∧
    Json.Reading.ofOctets value = ⟨.obj ms none, false⟩

/-- Two requests that are the same but for one header. -/
structure Http.Request.AlikeBut (name : String) (req req' : Request) : Prop where
  method : req.method = req'.method
  uri : req.uri = req'.uri
  body : req.body = req'.body
  others : ∀ other, other ≠ name → req.headers.get? other = req'.headers.get? other

/-- The body of a request is the message of an operation, and its payload is there and has a type that is
served. -/
def Operation.Sound (op : Operation) (types : List TypeId) (req : Request) : Prop :=
  ∃ call : Call, call.operation = op ∧ call.ReadFrom req.body ∧
    ∃ p, call.payload? = some p ∧ p.tag ∈ types

/-- The words in which a header is refused. -/
def misfitText (fault : Json.DecodeFault) : String := "invalid credentials header: " ++ fault.message

theorem misfitText_inj {fault fault' : Json.DecodeFault} :
    misfitText fault = misfitText fault' ↔ fault.message = fault'.message :=
  String.append_right_inj _

namespace Router

variable {r : Router σ} {req : Request} {op : Operation} {ms : List (String × Json.Node)}

theorem readCredentials_of_misfit (holds : HeaderHolds req ms) {fault : Json.DecodeFault}
    (misfit : Json.firstMisfit ms = some fault) : readCredentials req = refuse (misfitText fault) := by
  obtain ⟨value, set, filled, reading⟩ := holds
  have refused : Json.decodeOctets Credentials.decoder value = .error fault := by
    have entries := Json.entries_string_error_iff.2 misfit
    rw [Json.decodeOctets, reading, Json.Reading.decode, Credentials.decoder, Json.Decoder.map,
      Table.decoder, Json.Decoder.dict, Json.Decoder.table]
    simp only [entries]
  simp only [readCredentials, set, filled, refused]
  rfl

/-- An object that is refused has a member that is no string. -/
theorem exists_misfit (holds : HeaderHolds req ms) (refused : ∀ c, ¬ Shows req c) :
    ∃ fault, Json.firstMisfit ms = some fault := by
  cases first : Json.firstMisfit ms with
  | some fault => exact ⟨fault, rfl⟩
  | none =>
    -- nothing but strings would be credentials
    obtain ⟨value, set, filled, reading⟩ := holds
    cases entries : Json.Decoder.entries .ok Json.Decoder.string ms with
    | error fault => cases first.symm.trans (Json.entries_string_error_iff.1 entries)
    | ok pairs =>
      rw [Json.Decoder.entries_string_iff.1 entries] at reading
      exact absurd (.object pairs set filled reading) (refused _)

/-! ## Answers to refused headers -/

theorem judge_of_error {message : Outcome β} {check : β → Outcome Unit}
    {make : β → Credentials → Call} {m : β} (read : message = .ok m) (checked : check m = .ok ())
    {fault : Fault} : judge message check (.error fault) make = .error fault := by
  cases read
  show (check m >>= fun _ => _) = _
  rw [checked]
  rfl

/-- Behind a message that is sound, the gate of an operation refuses what is refused in the header. -/
theorem gate_of_refused (sound : op.Sound r.types req) (secret : op ≠ .identity) {fault : Fault}
    (refused : readCredentials req = .error fault) : r.gate req op = some (.error fault) := by
  obtain ⟨call, rfl, read, served⟩ := sound
  -- the message is judged first and passes, so the header is left to blame
  cases call with
  | identity m => exact absurd rfl secret
  | page m c =>
    obtain ⟨p, ⟨⟩, mem⟩ := served
    rw [Call.operation, gate, refused]
    exact congrArg some (judge_of_error (readBody_eq_ok_iff.2 read) (checkType_iff.2 mem))
  | download m c | upload m c | digest m c =>
    rw [Call.operation, gate, refused]
    exact congrArg some (judge_of_error (readBody_eq_ok_iff.2 read) (checkAccess_iff.2 served))

/-- The answer with a refusal. -/
def refusal (reason : String) : Response := .json 400 (Wire.ErrorResponse.mk reason).toJson.render

/-- A header with a member that is no string is answered with what this member is, and nothing is
done. -/
theorem respond_of_misfit (offered : op ∈ Operation.ofCapability r.capability) (secret : op ≠ .identity)
    (asked : op.AskedBy req) (sound : op.Sound r.types req) (holds : HeaderHolds req ms)
    {fault : Json.DecodeFault} (misfit : Json.firstMisfit ms = some fault) (s : σ) :
    r.respond req s = (refusal (misfitText fault), s) :=
  respond_of_stopped offered asked
    (gate_of_refused sound secret (readCredentials_of_misfit holds misfit)) s

/-- Different words are different answers, since they can be read from them. -/
theorem refusal_inj {reason reason' : String} (same : refusal reason = refusal reason') :
    reason = reason' := by
  have read (reason : String) :
      Json.decodeOctets Wire.ErrorResponse.decoder (refusal reason).body = .ok ⟨reason⟩ := by
    have shallow : (Wire.ErrorResponse.mk reason).toJson.depth ≤ Json.Reader.maxDepth :=
      show 1 ≤ Json.Reader.maxDepth by decide
    rw [refusal, Response.json, Json.decodeOctets_render _ rfl shallow]
    exact Wire.ErrorResponse.reads_toJson _
  have told := (read reason).symm.trans (same ▸ read reason')
  cases told
  rfl

end Router

/-! ## Two requests -/

section Alike

variable {op : Operation} {req req' : Request}

theorem Operation.AskedBy.alike (asked : op.AskedBy req) {name : String}
    (alike : req.AlikeBut name req') : op.AskedBy req' where
  calls := asked.calls
  method := alike.method ▸ asked.method
  path := alike.uri ▸ asked.path
  fits := alike.body ▸ asked.fits

theorem Operation.Sound.alike {types : List TypeId} (sound : op.Sound types req) {name : String}
    (alike : req.AlikeBut name req') : op.Sound types req' := by
  unfold Operation.Sound at sound ⊢
  rwa [← alike.body]

end Alike

/-- Let two requests for an operation that looks at credentials be the same but for the header with them,
let their message be sound, and let both headers hold objects that are refused. Each is answered with the
words for the first of its members that is no string, whatever the keys and the other members are, and
nothing is done. So the answers are the same if and only if these words are. They are if the members look
alike one by one, whatever strings they are and whatever stands in arrays and objects, as long as truth
values and numbers are the same. Of an integer in this place every digit is told. -/
theorem refused_alike_iff {e : Endpoints σ} {cap : Capability} {r : Router σ}
    (routed : Router.ofEndpoints e cap = .ok r) {op : Operation}
    (offered : op ∈ Operation.ofCapability cap) (secret : op ≠ .identity) {req req' : Request}
    (asked : op.AskedBy req) (sound : op.Sound (e.typesFor cap) req)
    (alike : req.AlikeBut "authorization" req') {ms ms' : List (String × Json.Node)}
    (holds : HeaderHolds req ms) (holds' : HeaderHolds req' ms')
    (refused : ∀ c, ¬ Shows req c) (refused' : ∀ c, ¬ Shows req' c) :
    ∃ fault fault', Json.firstMisfit ms = some fault ∧ Json.firstMisfit ms' = some fault' ∧
      (∀ s, r.respond req s = (Router.refusal (misfitText fault), s) ∧
        r.respond req' s = (Router.refusal (misfitText fault'), s)) ∧
      (∀ s, (r.respond req s).1 = (r.respond req' s).1 ↔ fault.message = fault'.message) ∧
      (List.Forall₂ (fun m m' => m.2.LooksLike m'.2) ms ms' →
        ∀ s, (r.respond req s).1 = (r.respond req' s).1) ∧
      ∀ m n : Int, fault = .mismatch (.num (.int m)) "a string" →
        fault' = .mismatch (.num (.int n)) "a string" →
        ∀ s, (r.respond req s).1 = (r.respond req' s).1 ↔ m = n := by
  obtain ⟨k, handles, rfl⟩ := Endpoints.exists_handler_of_router routed
  cases Endpoints.capability_of_handlerFor handles
  obtain ⟨fault, misfit⟩ := Router.exists_misfit holds refused
  obtain ⟨fault', misfit'⟩ := Router.exists_misfit holds' refused'
  have answer (s : σ) : (k.serving (e.typesFor k.capability)).respond req s =
      (Router.refusal (misfitText fault), s) :=
    Router.respond_of_misfit offered secret asked sound holds misfit s
  have answer' (s : σ) : (k.serving (e.typesFor k.capability)).respond req' s =
      (Router.refusal (misfitText fault'), s) :=
    Router.respond_of_misfit offered secret (asked.alike alike) (sound.alike alike) holds' misfit' s
  have same_iff (s : σ) : ((k.serving (e.typesFor k.capability)).respond req s).1 =
      ((k.serving (e.typesFor k.capability)).respond req' s).1 ↔ fault.message = fault'.message := by
    rw [answer, answer', ← misfitText_inj]
    exact ⟨Router.refusal_inj, congrArg Router.refusal⟩
  refine ⟨fault, fault', misfit, misfit', fun s => ⟨answer s, answer' s⟩, same_iff, ?_, ?_⟩
  · intro looks s
    rw [Json.firstMisfit_eq_of_forall₂ looks] at misfit
    cases misfit.symm.trans misfit'
    rw [answer, answer']
  · rintro m n rfl rfl s
    rw [same_iff]
    exact Json.integer_message_inj

/-! ## Two tokens -/

theorem alike_locateWith (v w : Json) :
    (locateWith v).AlikeBut "authorization" (locateWith w) where
  method := rfl
  uri := rfl
  body := rfl
  others other apart := by
    have unset : (other == "authorization") = false := beq_eq_false_iff_ne.2 apart
    simp only [locateWith, Operation.request, Client.callHeaders, Http.Headers.get?, List.lookup_cons,
      unset]

theorem sound_locateWith (v : Json) :
    Operation.download.Sound (namingEndpoints.typesFor .resourceRepository) (locateWith v) :=
  ⟨.download { resource := (labelled 0).toWire } {}, rfl, read_locateWith v {}, _, rfl,
    List.mem_singleton.2 rfl⟩

theorem holds_locateWith {v : Json} {ms : List (String × Json.Node)} (integral : v.isIntegral = true)
    (shallow : v.depth ≤ Json.Reader.maxDepth) (filled : (Text.encode v.render).isEmpty = false)
    (object : Json.Node.ofJson v = .obj ms none) : HeaderHolds (locateWith v) ms := by
  obtain ⟨ranged, same⟩ := Json.reread_of_isIntegral v integral
  refine ⟨Text.encode v.render, header_locateWith v, filled, ?_⟩
  rw [Json.ofOctets_render_reread ranged shallow, Json.Reading.ofJson, same, object]

/-- A header that holds an object with a member that is no string shows no credentials. -/
theorem not_shows_of_misfit {req : Request} {ms : List (String × Json.Node)} (holds : HeaderHolds req ms)
    {fault : Json.DecodeFault} (misfit : Json.firstMisfit ms = some fault) (c : Credentials) :
    ¬ Shows req c := by
  intro shown
  have read := Router.readCredentials_eq_ok_iff.2 shown
  rw [Router.readCredentials_of_misfit holds misfit] at read
  cases read

/-- Two requests with a `null` before the name of the user are refused alike. -/
theorem users_not_told : ∃ r, Router.ofEndpoints namingEndpoints .resourceRepository = .ok r ∧
    (r.respond (locateWith (.obj [("token", .null), ("user", .str "me")])) ()).1 =
      (r.respond (locateWith (.obj [("token", .null), ("user", .str "you")])) ()).1 := by
  have routed : Router.ofEndpoints namingEndpoints .resourceRepository =
      .ok ((Handler.resource namingRepository).serving [.ofName "t"]) := rfl
  have holds (user : String)
      (filled : (Text.encode (Json.obj [("token", .null), ("user", .str user)]).render).isEmpty = false) :
      HeaderHolds (locateWith (.obj [("token", .null), ("user", .str user)]))
        [("token", .null), ("user", .str user)] :=
    holds_locateWith rfl (show 1 ≤ _ by decide) filled rfl
  have me := holds "me" (by decide +kernel)
  have you := holds "you" (by decide +kernel)
  have offered : Operation.download ∈ Operation.ofCapability .resourceRepository := by decide
  obtain ⟨fault, fault', -, -, -, -, alike, -⟩ := refused_alike_iff routed offered nofun
    (asked_locateWith _) (sound_locateWith _) (alike_locateWith _ _) me you
    (not_shows_of_misfit me rfl) (not_shows_of_misfit you rfl)
  exact ⟨_, routed, alike (.cons (.same _) (.cons (.strings _ _) .nil)) ()⟩

/-- A request to locate a resource, with a number for its token. -/
def locateWithToken (n : Nat) : Request := locateWith (.obj [("token", .nat n)])

/-- Tokens that are numbers are told apart: two requests that are the same but for them, with headers that
hold objects with the same key and that are both refused, are answered differently. -/
theorem tokens_told : ∃ r, Router.ofEndpoints namingEndpoints .resourceRepository = .ok r ∧
    (locateWithToken 1).AlikeBut "authorization" (locateWithToken 2) ∧
    HeaderHolds (locateWithToken 1) [("token", .num (.int 1))] ∧
    HeaderHolds (locateWithToken 2) [("token", .num (.int 2))] ∧
    (∀ c, ¬ Shows (locateWithToken 1) c) ∧ (∀ c, ¬ Shows (locateWithToken 2) c) ∧
    r.respond (locateWithToken 1) () = (Router.refusal
      "invalid credentials header: invalid type: integer `1`, expected a string", ()) ∧
    r.respond (locateWithToken 2) () = (Router.refusal
      "invalid credentials header: invalid type: integer `2`, expected a string", ()) ∧
    (r.respond (locateWithToken 1) ()).1 ≠ (r.respond (locateWithToken 2) ()).1 := by
  let r : Router Unit := (Handler.resource namingRepository).serving [.ofName "t"]
  have token (n : Nat) (filled : (Text.encode (Json.obj [("token", .nat n)]).render).isEmpty = false)
      (integral : (Json.obj [("token", .nat n)]).isIntegral = true) :
      HeaderHolds (locateWithToken n) [("token", .num (.int n))] :=
    holds_locateWith integral (show 1 ≤ _ by decide) filled rfl
  have one := token 1 (by decide +kernel) rfl
  have two := token 2 (by decide +kernel) rfl
  have offered : Operation.download ∈ Operation.ofCapability r.capability := by decide
  have told (n : Nat) (holds : HeaderHolds (locateWithToken n) [("token", .num (.int n))]) :
      r.respond (locateWithToken n) () =
        (Router.refusal (misfitText (.mismatch (.num (.int n)) "a string")), ()) :=
    Router.respond_of_misfit offered nofun (asked_locateWith _) (sound_locateWith _) holds rfl ()
  refine ⟨r, rfl, alike_locateWith _ _, one, two, not_shows_of_misfit one rfl,
    not_shows_of_misfit two rfl, told 1 one, told 2 two, ?_⟩
  intro same
  rw [told 1 one, told 2 two] at same
  exact absurd (Router.refusal_inj same) (by decide)

end PluginKit
