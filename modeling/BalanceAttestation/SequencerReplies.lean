import BalanceAttestation.ProofDecoding

/-! What the sequencer client makes of a JSON-RPC reply. An envelope is read first,
with its result kept as a value; a result that is absent is taken for a null one,
and each method has its own way from the value to its answer. -/

namespace BalanceAttestation

open Checks SerdeJson

structure JsonRpcErrorBody where
  code : Int
  message : String

structure JsonRpcEnvelope where
  jsonrpc : String
  id : UInt64
  result : Option Value
  error : Option JsonRpcErrorBody

def JsonRpcErrorBody.deserialize : Json → Option JsonRpcErrorBody
  | .object members => do
    let code ← Json.required Json.i64? (← Json.member members "code")
    let message ← Json.required Json.string? (← Json.member members "message")
    return ⟨code, message⟩
  | .array [code, message] => return ⟨← code.i64?, ← message.string?⟩
  | _ => none

namespace JsonRpcEnvelope

def fields (jsonrpc id result error : Option Json) : Option JsonRpcEnvelope := do
  let jsonrpc ← Json.required Json.string? jsonrpc
  let id ← Json.required Json.u64? id
  let result ← Json.optional (fun j => some j.toValue) result
  let error ← Json.optional JsonRpcErrorBody.deserialize error
  return { jsonrpc, id, result, error }

def deserialize : Json → Option JsonRpcEnvelope
  | .object members => do
    fields (← Json.member members "jsonrpc") (← Json.member members "id")
      (← Json.member members "result") (← Json.member members "error")
  | .array [jsonrpc, id, result, error] => fields (some jsonrpc) (some id) (some result) (some error)
  | _ => none

end JsonRpcEnvelope

/-- A body that is not JSON is `none`. With a status that counts as an error there may
be a body as well, which is not read. -/
inductive Response
  | failed (reason : String)
  | errorStatus (detail : String) (document : Option Json)
  | body (document : Option Json)

namespace Response

def document : Response → Option Json
  | failed _ => none
  | errorStatus _ document => document
  | body document => document

/-- What reqwest says of a body that does not deserialize. -/
def bodyError : String := "error decoding response body"

/-- The text of the transport error when no envelope comes out of the response. -/
def transportError : Response → String
  | failed reason => reason
  | errorStatus detail _ => "HTTP status " ++ detail
  | body _ => bodyError

end Response

inductive AccountSnapshot
  | «public» (nonce : UInt64) (data : List UInt8)
  | raw (v : Value)

namespace AccountSnapshot

def u8Value (v : Value) : Option UInt8 := v.asU64.bind SequencerClient.tryFromU8

def bytesValue (v : Value) : Option (List UInt8) :=
  v.asArray.bind fun elements => elements.mapM u8Value

def publicFromValue : Value → Option AccountSnapshot
  | .object get => do
    let nonce ← Value.defaulted Value.asU64 0 (get "nonce")
    let data ← Value.defaulted bytesValue [] (get "data")
    return .public nonce data
  | _ => none

def fromValue (v : Value) : AccountSnapshot := (publicFromValue v).getD (.raw v)

end AccountSnapshot

namespace SequencerClient

def request (method : String) (params : List Value) : Value := .ofMembers [
  ("jsonrpc", .string "2.0"), ("id", .number (.posInt 1)), ("method", .string method),
  ("params", .array params)]

variable (hex : HexCrate) (server : Value → Response)

def call {α : Type} (fromValue : Value → Except String α) (method : String) (params : List Value) :
    Except ClientError α :=
  let resp := server (request method params)
  match resp with
  | .failed _ | .errorStatus _ _ => .error (.http resp.transportError)
  | .body document => do
    let envelope ← okOr (document.bind JsonRpcEnvelope.deserialize) (.http resp.transportError)
    match envelope.error with
    | some err => .error (.rpc err.code err.message)
    | none =>
      let raw := envelope.result.getD .null
      (fromValue raw).mapError .decode

def optionFromValue : Value → Except String (Option Value)
  | .null => .ok none
  | v => .ok (some v)

def getTransaction (txHash : String) : Except ClientError (Option String) := do
  let v ← call server .ok "getTransaction" [.string txHash]
  return v.asStr

def getAccount (accountId : String) : Except ClientError (Option AccountSnapshot) := do
  match ← call server optionFromValue "getAccount" [.string accountId] with
  | none => return none
  | some v => return some (.fromValue v)

def getProofForCommitment (commitment : Bytes 32) : Except ClientError (Option MembershipProof) := do
  match ← call server optionFromValue "getProofForCommitment" [.ofBytes commitment.toList] with
  | none => return none
  | some v => return some (← decodeProofTuple hex v)

end SequencerClient

/-! The kinds of reply, by the members of the body, and by what the client reads. -/

namespace JsonRpcEnvelope

/-- The values of a member, whether or not the object deserializes. An array counts as
an envelope only if it does. -/
def results (document : Json) : List Json :=
  match document with
  | .object members => Json.named members "result"
  | .array [_, _, result, _] => if (deserialize document).isSome then [result] else []
  | _ => []

def errors (document : Json) : List Json :=
  match document with
  | .object members => Json.named members "error"
  | .array [_, _, _, error] => if (deserialize document).isSome then [error] else []
  | _ => []

end JsonRpcEnvelope

namespace Response

variable (r : Response)

/-- A null error is none. -/
def HasError : Prop :=
  ∃ document, r.document = some document ∧ ∃ error ∈ JsonRpcEnvelope.errors document, error ≠ .null

/-- Neither a result nor an error. -/
def Empty : Prop :=
  (∃ members, r.document = some (.object members) ∧ Json.named members "result" = []) ∧ ¬ r.HasError

/-- A result that is neither null nor of the method's type. -/
def Mistyped (typed : Value → Prop) : Prop :=
  (∃ document, r.document = some document ∧
    ∃ result ∈ JsonRpcEnvelope.results document, result ≠ .null ∧ ¬ typed result.toValue) ∧ ¬ r.HasError

def Carries (document : Json) (envelope : JsonRpcEnvelope) : Prop :=
  r = .body (some document) ∧ JsonRpcEnvelope.deserialize document = some envelope

def Refuses (err : JsonRpcErrorBody) : Prop :=
  ∃ document envelope, r.Carries document envelope ∧ envelope.error = some err

def SaysNull : Prop :=
  ∃ document envelope, r.Carries document envelope ∧ envelope.error = none ∧
    JsonRpcEnvelope.results document = [.null]

def SaysNothing : Prop :=
  ∃ document envelope, r.Carries document envelope ∧ envelope.error = none ∧
    JsonRpcEnvelope.results document = []

def Returns (v : Value) : Prop :=
  ∃ document envelope, r.Carries document envelope ∧ envelope.error = none ∧ envelope.result = some v

def Unreadable : Prop := ∀ document envelope, ¬ r.Carries document envelope

end Response

namespace JsonRpcEnvelope

theorem fields_members {jsonrpc id result error : Option Json} {envelope : JsonRpcEnvelope}
    (h : fields jsonrpc id result error = some envelope) :
    Json.optional (fun j => some j.toValue) result = some envelope.result ∧
      Json.optional JsonRpcErrorBody.deserialize error = some envelope.error := by
  simp only [fields, Option.bind_eq_bind, Option.bind_eq_some_iff] at h
  obtain ⟨_, _, _, _, r, hr, err, herr, h⟩ := h
  rw [hr, herr, ← Option.some.inj h]
  exact ⟨rfl, rfl⟩

/-- A body that deserializes has each of the two members once at most. -/
theorem deserialize_members {document : Json} {envelope : JsonRpcEnvelope}
    (h : deserialize document = some envelope) :
    (∃ result : Option Json, results document = result.toList ∧
      Json.optional (fun j => some j.toValue) result = some envelope.result) ∧
    ∃ error : Option Json, errors document = error.toList ∧
      Json.optional JsonRpcErrorBody.deserialize error = some envelope.error := by
  have hsome : (deserialize document).isSome := by rw [h, Option.isSome_some]
  unfold deserialize at h
  split at h
  · simp only [Option.bind_eq_bind, Option.bind_eq_some_iff] at h
    obtain ⟨_, _, _, _, result, hresult, error, herror, h⟩ := h
    obtain ⟨hr, he⟩ := fields_members h
    exact ⟨⟨result, Json.named_of_member hresult, hr⟩, error, Json.named_of_member herror, he⟩
  · obtain ⟨hr, he⟩ := fields_members h
    refine ⟨⟨_, ?_, hr⟩, _, ?_, he⟩
    · rw [results, if_pos hsome, Option.toList_some]
    · rw [errors, if_pos hsome, Option.toList_some]
  · cases h

theorem error_eq_none_iff {document : Json} {envelope : JsonRpcEnvelope}
    (h : deserialize document = some envelope) :
    envelope.error = none ↔ ∀ error ∈ errors document, error = .null := by
  obtain ⟨-, error, herrors, herror⟩ := deserialize_members h
  rw [herrors]
  cases error with
  | none => simpa [Json.optional, eq_comm] using herror
  | some j =>
    by_cases hj : j = .null
    · subst hj
      simpa [Json.optional, eq_comm] using herror
    · rw [Json.optional_some _ hj, Option.map_eq_some_iff] at herror
      obtain ⟨err, -, herr⟩ := herror
      simp [← herr, hj]

theorem result_cases {document : Json} {envelope : JsonRpcEnvelope}
    (h : deserialize document = some envelope) :
    (results document = [] ∧ envelope.result = none) ∨
    (results document = [.null] ∧ envelope.result = none) ∨
    ∃ j, j ≠ .null ∧ results document = [j] ∧ envelope.result = some j.toValue := by
  obtain ⟨⟨result, hresults, hresult⟩, -⟩ := deserialize_members h
  rw [hresults]
  cases result with
  | none => exact .inl ⟨rfl, (Option.some.inj hresult).symm⟩
  | some j =>
    by_cases hj : j = .null
    · subst hj
      exact .inr (.inl ⟨rfl, (Option.some.inj hresult).symm⟩)
    · rw [Json.optional_some _ hj] at hresult
      exact .inr (.inr ⟨j, hj, rfl, (Option.some.inj hresult).symm⟩)

end JsonRpcEnvelope

namespace Response

open JsonRpcEnvelope

variable {r : Response} {document : Json} {envelope : JsonRpcEnvelope}

theorem Carries.document_eq (h : r.Carries document envelope) : r.document = some document := by
  rw [h.1, Response.document]

theorem Carries.noError_iff (h : r.Carries document envelope) :
    ¬ r.HasError ↔ envelope.error = none := by
  rw [error_eq_none_iff h.2]
  simp [HasError, h.document_eq]

theorem exists_carries (h : ¬ r.Unreadable) : ∃ document envelope, r.Carries document envelope := by
  simpa only [Unreadable, not_forall, not_not] using h

/-- Every reply is of one kind. -/
theorem kinds (r : Response) : r.Unreadable ∨ (∃ err, r.Refuses err) ∨ r.SaysNull ∨ r.SaysNothing ∨
    ∃ v, v ≠ .null ∧ r.Returns v := by
  by_cases hread : r.Unreadable
  · exact .inl hread
  simp only [Unreadable, not_forall, not_not] at hread
  obtain ⟨document, envelope, hcarries⟩ := hread
  cases herror : envelope.error with
  | some err => exact .inr (.inl ⟨err, document, envelope, hcarries, herror⟩)
  | none =>
    refine .inr (.inr ?_)
    rcases result_cases hcarries.2 with ⟨hresults, -⟩ | ⟨hresults, -⟩ | ⟨j, hj, -, hresult⟩
    · exact .inr (.inl ⟨document, envelope, hcarries, herror, hresults⟩)
    · exact .inl ⟨document, envelope, hcarries, herror, hresults⟩
    · exact .inr (.inr ⟨_, mt Json.toValue_eq_null.mp hj, document, envelope, hcarries, herror, hresult⟩)

theorem result_of_null (h : r.SaysNull ∨ r.SaysNothing) :
    ∃ document envelope, r.Carries document envelope ∧ envelope.error = none ∧ envelope.result = none := by
  obtain ⟨document, envelope, hcarries, herror, hmember⟩ : ∃ document envelope,
      r.Carries document envelope ∧ envelope.error = none ∧
        (results document = [.null] ∨ results document = []) := by
    rcases h with h | h
    · obtain ⟨document, envelope, hcarries, herror, hmember⟩ := h
      exact ⟨document, envelope, hcarries, herror, .inl hmember⟩
    · obtain ⟨document, envelope, hcarries, herror, hmember⟩ := h
      exact ⟨document, envelope, hcarries, herror, .inr hmember⟩
  refine ⟨document, envelope, hcarries, herror, ?_⟩
  rcases result_cases hcarries.2 with ⟨-, hresult⟩ | ⟨-, hresult⟩ | ⟨j, hj, hresults, -⟩
  · exact hresult
  · exact hresult
  · rw [hresults] at hmember
    simp [hj] at hmember

/-- What is empty and can be read is an envelope with neither member. -/
theorem saysNothing_iff : r.SaysNothing ↔ r.Empty ∧ ¬ r.Unreadable := by
  constructor
  · rintro ⟨document, envelope, hcarries, herror, hresults⟩
    refine ⟨⟨?_, hcarries.noError_iff.mpr herror⟩, fun h => h _ _ hcarries⟩
    have hread := hcarries.2
    have hsome : (deserialize document).isSome := by rw [hread, Option.isSome_some]
    unfold deserialize at hread
    split at hread
    · exact ⟨_, hcarries.document_eq, hresults⟩
    · rw [results, if_pos hsome] at hresults
      cases hresults
    · cases hread
  · rintro ⟨⟨⟨members, hdocument, hresults⟩, hnone⟩, hread⟩
    obtain ⟨document, envelope, hcarries⟩ := exists_carries hread
    obtain rfl := Option.some.inj (hcarries.document_eq.symm.trans hdocument)
    exact ⟨_, envelope, hcarries, hcarries.noError_iff.mp hnone, hresults⟩

theorem HasError.refuses (h : r.HasError) (hread : ¬ r.Unreadable) : ∃ err, r.Refuses err := by
  obtain ⟨document, envelope, hcarries⟩ := exists_carries hread
  cases herror : envelope.error with
  | none => exact absurd h (hcarries.noError_iff.mpr herror)
  | some err => exact ⟨err, document, envelope, hcarries, herror⟩

theorem Mistyped.returns {typed : Value → Prop} (h : r.Mistyped typed) (hread : ¬ r.Unreadable) :
    ∃ v, v ≠ .null ∧ r.Returns v ∧ ¬ typed v := by
  obtain ⟨⟨document, hdocument, result, hresult, hne, htyped⟩, hnone⟩ := h
  obtain ⟨document', envelope, hcarries⟩ := exists_carries hread
  obtain rfl := Option.some.inj (hcarries.document_eq.symm.trans hdocument)
  have herror := hcarries.noError_iff.mp hnone
  rcases result_cases hcarries.2 with ⟨hresults, -⟩ | ⟨hresults, -⟩ | ⟨j, hj, hresults, hvalue⟩
  · simp [hresults] at hresult
  · exact absurd (by simpa [hresults] using hresult) hne
  · obtain rfl : result = j := by simpa [hresults] using hresult
    exact ⟨_, mt Json.toValue_eq_null.mp hj, ⟨_, envelope, hcarries, herror, hvalue⟩, htyped⟩

theorem Returns.ne_null {v : Value} (h : r.Returns v) : v ≠ .null := by
  obtain ⟨document, envelope, hcarries, -, hresult⟩ := h
  rintro rfl
  rcases result_cases hcarries.2 with ⟨-, hnil⟩ | ⟨-, hnil⟩ | ⟨j, hj, -, hvalue⟩
  · cases hnil.symm.trans hresult
  · cases hnil.symm.trans hresult
  · exact hj (Json.toValue_eq_null.mp (Option.some.inj (hvalue.symm.trans hresult)))

theorem Returns.mistyped {typed : Value → Prop} {v : Value} (h : r.Returns v) (hv : ¬ typed v) :
    r.Mistyped typed := by
  obtain ⟨document, envelope, hcarries, herror, hresult⟩ := h
  have hnone := hcarries.noError_iff.mpr herror
  rcases result_cases hcarries.2 with ⟨-, hnil⟩ | ⟨-, hnil⟩ | ⟨j, hj, hresults, hvalue⟩
  · rw [hnil] at hresult
    cases hresult
  · rw [hnil] at hresult
    cases hresult
  · obtain rfl := Option.some.inj (hvalue.symm.trans hresult)
    exact ⟨⟨document, hcarries.document_eq, j, by simp [hresults], hj, hv⟩, hnone⟩

end Response

namespace SequencerClient

section Call

variable {α : Type} {server : Value → Response} {fromValue : Value → Except String α} {method : String}
  {params : List Value}

theorem call_unreadable (h : (server (request method params)).Unreadable) :
    call server fromValue method params =
      .error (.http (server (request method params)).transportError) := by
  unfold call
  dsimp only
  split
  · rfl
  · rfl
  · next document hbody =>
    have hnone : document.bind JsonRpcEnvelope.deserialize = none := by
      refine Option.bind_eq_none_iff.mpr fun j hj => ?_
      refine Option.eq_none_iff_forall_ne_some.mpr fun envelope he => ?_
      exact h j envelope ⟨by rw [hbody, hj], he⟩
    rw [hnone]
    rfl

theorem call_carries {document : Json} {envelope : JsonRpcEnvelope}
    (h : (server (request method params)).Carries document envelope) :
    call server fromValue method params = match envelope.error with
      | some err => .error (.rpc err.code err.message)
      | none => (fromValue (envelope.result.getD .null)).mapError .decode := by
  rw [call, h.1]
  dsimp only
  rw [Option.bind_some, h.2]
  rfl

theorem call_refuses {err : JsonRpcErrorBody} (h : (server (request method params)).Refuses err) :
    call server fromValue method params = .error (.rpc err.code err.message) := by
  obtain ⟨document, envelope, hcarries, herror⟩ := h
  rw [call_carries hcarries, herror]

theorem call_null
    (h : (server (request method params)).SaysNull ∨ (server (request method params)).SaysNothing) :
    call server fromValue method params = (fromValue .null).mapError .decode := by
  obtain ⟨document, envelope, hcarries, herror, hresult⟩ := Response.result_of_null h
  rw [call_carries hcarries, herror, hresult]
  rfl

theorem call_returns {v : Value} (h : (server (request method params)).Returns v) :
    call server fromValue method params = (fromValue v).mapError .decode := by
  obtain ⟨document, envelope, hcarries, herror, hresult⟩ := h
  rw [call_carries hcarries, herror, hresult]
  rfl

end Call

end SequencerClient

/-- The errors that say that something could not be decoded: serde's own, the client's
code for a proof it cannot decode, and reqwest's for a body. -/
def ClientError.IsDecode : ClientError → Prop
  | .decode _ => True
  | .rpc code _ => code = -1
  | .http reason => reason = Response.bodyError
  | .emptyResponse => False

/-- What is asked of a method: it reports absence only for an explicit null, and an
error for each reply that has no proper result. -/
structure ReportsAbsence (typed : Value → Prop) (r : Response) (absent : Prop)
    (fails : ClientError → Prop) : Prop where
  null_only : absent → r.SaysNull
  empty : r.Empty → fails .emptyResponse
  error : r.HasError → ∃ code message, fails (.rpc code message)
  refused : ∀ err, r.Refuses err → fails (.rpc err.code err.message)
  mistyped : r.Mistyped typed → ∃ e, fails e ∧ e.IsDecode

/-- Not an object without a result and an error; an error is in an envelope that the
client can read, and a mistyped result is not under a status that counts as an error. -/
structure Response.Orderly (typed : Value → Prop) (r : Response) : Prop where
  nonempty : ¬ r.Empty
  error : r.HasError → ¬ r.Unreadable
  mistyped : r.Mistyped typed → ∃ document, r = .body document

/-- What the methods do have in common. -/
structure Answers {α : Type} (typed : Value → Prop) (r : Response)
    (answer : Except ClientError (Option α)) : Prop where
  unreadable : r.Unreadable → answer = .error (.http r.transportError)
  refused : ∀ err, r.Refuses err → answer = .error (.rpc err.code err.message)
  null : r.SaysNull ∨ r.SaysNothing → answer = .ok none
  returns : ∀ v, v ≠ .null → r.Returns v → typed v → ∃ a, answer = .ok (some a)

theorem Response.not_isDecode_errorStatus (detail : String) (document : Option Json) :
    ¬ (ClientError.http (errorStatus detail document).transportError).IsDecode := by
  intro h
  have hhead := congrArg (fun s : String => s.toList.head?) h
  rw [transportError, String.toList_append] at hhead
  simp [bodyError] at hhead

namespace Answers

variable {α : Type} {typed : Value → Prop} {r : Response} {answer : Except ClientError (Option α)}

theorem orderly (h : Answers typed r answer)
    (hreports : ReportsAbsence typed r (answer = .ok none) (answer = .error ·)) : r.Orderly typed where
  nonempty hempty := by
    have hfails := hreports.empty hempty
    by_cases hread : r.Unreadable
    · cases hfails.symm.trans (h.unreadable hread)
    · cases hfails.symm.trans (h.null (.inr (Response.saysNothing_iff.mpr ⟨hempty, hread⟩)))
  error herror hread := by
    obtain ⟨code, message, hfails⟩ := hreports.error herror
    cases hfails.symm.trans (h.unreadable hread)
  mistyped hmistyped := by
    obtain ⟨e, hfails, hdecode⟩ := hreports.mistyped hmistyped
    obtain ⟨⟨document, hdocument, -⟩, -⟩ := hmistyped
    cases r with
    | failed reason => cases hdocument
    | errorStatus detail d =>
      have hread : (Response.errorStatus detail d).Unreadable := fun _ _ hcarries => nomatch hcarries.1
      obtain rfl := Except.error.inj (hfails.symm.trans (h.unreadable hread))
      exact absurd hdecode (Response.not_isDecode_errorStatus detail d)
    | body d => exact ⟨d, rfl⟩

theorem reportsAbsence_iff (h : Answers typed r answer) :
    ReportsAbsence typed r (answer = .ok none) (answer = .error ·) ↔
      r.Orderly typed ∧ ∀ v, r.Returns v → ¬ typed v → ∃ e, answer = .error e ∧ e.IsDecode := by
  constructor
  · intro hreports
    exact ⟨h.orderly hreports, fun v hv htyped => hreports.mistyped (hv.mistyped htyped)⟩
  rintro ⟨horderly, hmistyped⟩
  refine ⟨fun hnone => ?_, fun hempty => absurd hempty horderly.nonempty, fun herror => ?_, h.refused,
    fun hm => ?_⟩
  · rcases r.kinds with hr | ⟨err, hr⟩ | hr | hr | ⟨v, hv, hr⟩
    · cases hnone.symm.trans (h.unreadable hr)
    · cases hnone.symm.trans (h.refused err hr)
    · exact hr
    · exact absurd (Response.saysNothing_iff.mp hr).1 horderly.nonempty
    · by_cases htyped : typed v
      · obtain ⟨a, ha⟩ := h.returns v hv hr htyped
        cases hnone.symm.trans ha
      · obtain ⟨e, he, -⟩ := hmistyped v hr htyped
        cases hnone.symm.trans he
  · obtain ⟨err, hr⟩ := herror.refuses (horderly.error herror)
    exact ⟨_, _, h.refused err hr⟩
  · by_cases hread : r.Unreadable
    · obtain ⟨document, rfl⟩ := horderly.mistyped hm
      exact ⟨_, h.unreadable hread, rfl⟩
    · obtain ⟨v, -, hr, htyped⟩ := hm.returns hread
      exact hmistyped v hr htyped

theorem map {β : Type} (h : Answers typed r answer) (f : α → β) :
    Answers typed r (answer.map (Option.map f)) where
  unreadable hr := by
    rw [h.unreadable hr]
    rfl
  refused err hr := by
    rw [h.refused err hr]
    rfl
  null hr := by
    rw [h.null hr]
    rfl
  returns v hv hr ht := by
    obtain ⟨a, ha⟩ := h.returns v hv hr ht
    exact ⟨f a, by rw [ha]; rfl⟩

end Answers

namespace SequencerClient

variable {hex : HexCrate} {sha256 : HashFn} {server : Value → Response}

/-- The methods that send one request and read its value. -/
theorem answers_of_call {α β : Type} {typed : Value → Prop} {method : String} {params : List Value}
    {fromValue : Value → Except String α} {f : α → Except ClientError (Option β)}
    (hnull : ((fromValue .null).mapError .decode >>= f) = .ok none)
    (htyped : ∀ v, v ≠ .null → typed v → ∃ b, ((fromValue v).mapError .decode >>= f) = .ok (some b)) :
    Answers typed (server (request method params)) (call server fromValue method params >>= f) where
  unreadable h := by
    rw [call_unreadable h]
    rfl
  refused err h := by
    rw [call_refuses h]
    rfl
  null h := by rw [call_null h, hnull]
  returns v hv h ht := by
    rw [call_returns h]
    exact htyped v hv ht

def transactionRequest (txHash : String) : Value := request "getTransaction" [.string txHash]

def accountRequest (accountId : String) : Value := request "getAccount" [.string accountId]

def proofRequest (commitment : Bytes 32) : Value :=
  request "getProofForCommitment" [.ofBytes commitment.toList]

theorem getTransaction_returns {txHash : String} {v : Value}
    (h : (server (transactionRequest txHash)).Returns v) :
    getTransaction server txHash = .ok v.asStr := by
  rw [getTransaction, call_returns h]
  rfl

theorem getTransaction_answers (txHash : String) : Answers (fun v => ∃ s, v = .string s)
    (server (transactionRequest txHash)) (getTransaction server txHash) := by
  refine answers_of_call rfl ?_
  rintro v - ⟨s, rfl⟩
  exact ⟨s, rfl⟩

theorem optionFromValue_of_ne {v : Value} (hv : v ≠ .null) : optionFromValue v = .ok (some v) := by
  cases v with
  | null => exact absurd rfl hv
  | bool _ | number _ | string _ | array _ | object _ => rfl

theorem call_option {method : String} {params : List Value} {v : Value} (hv : v ≠ .null)
    (h : (server (request method params)).Returns v) :
    call server optionFromValue method params = .ok (some v) := by
  rw [call_returns h, optionFromValue_of_ne hv]
  rfl

theorem getAccount_returns {accountId : String} {v : Value} (hv : v ≠ .null)
    (h : (server (accountRequest accountId)).Returns v) :
    getAccount server accountId = .ok (some (.fromValue v)) := by
  rw [getAccount, call_option hv h]
  rfl

theorem getAccount_answers (accountId : String) : Answers (fun _ => True)
    (server (accountRequest accountId)) (getAccount server accountId) := by
  refine answers_of_call rfl ?_
  rintro v hv -
  rw [optionFromValue_of_ne hv]
  exact ⟨_, rfl⟩

theorem getProofForCommitment_returns {commitment : Bytes 32} {v : Value}
    (h : (server (proofRequest commitment)).Returns v) :
    getProofForCommitment hex server commitment = (decodeProofTuple hex v).map some := by
  rw [getProofForCommitment, call_option h.ne_null h, map_eq_bind]
  rfl

theorem getProofForCommitment_answers (hhex : hex.DecodesDigits) (commitment : Bytes 32) :
    Answers (fun v => ∃ p, ProofForm v p) (server (proofRequest commitment))
      (getProofForCommitment hex server commitment) := by
  refine answers_of_call rfl ?_
  rintro v hv ⟨p, hp⟩
  refine ⟨p, ?_⟩
  rw [optionFromValue_of_ne hv]
  change (do return some (← decodeProofTuple hex v)) = _
  rw [(decodeProofTuple_ok hhex).mpr hp]
  rfl

theorem getProofForCommitment_mistyped (hhex : hex.DecodesDigits) {commitment : Bytes 32} {v : Value}
    (h : (server (proofRequest commitment)).Returns v) (hp : ¬ ∃ p, ProofForm v p) :
    ∃ e, getProofForCommitment hex server commitment = .error e ∧ e.IsDecode := by
  rw [getProofForCommitment_returns h]
  cases hdecode : decodeProofTuple hex v with
  | error e =>
    obtain ⟨message, rfl⟩ := decodeProofTuple_error v e hdecode
    exact ⟨_, rfl, rfl⟩
  | ok p => exact absurd ⟨p, (decodeProofTuple_ok hhex).mp hdecode⟩ hp

theorem commitmentSetRoot_eq (getProof : Bytes 32 → Except ClientError (Option MembershipProof))
    (known : Bytes 32) : commitmentSetRoot sha256 getProof known =
      (getProof known).map (Option.map (foldMembershipProof sha256 known)) := by
  rw [commitmentSetRoot, map_eq_bind]
  congr 1
  funext p
  cases p <;> rfl

section IsRootCurrent

variable {getProof : Bytes 32 → Except ClientError (Option MembershipProof)} {known : Bytes 32}

theorem isRootCurrent_false_iff :
    (∀ root, isRootCurrent sha256 getProof root known = .ok false) ↔ getProof known = .ok none := by
  constructor
  · intro h
    obtain ⟨p, hp, -⟩ := isRootCurrent_eq_ok.mp (h known)
    cases p with
    | none => exact hp
    | some proof =>
      obtain ⟨q, hq, hne⟩ := isRootCurrent_eq_ok.mp (h (foldMembershipProof sha256 known proof))
      obtain rfl := Except.ok.inj (hp.symm.trans hq)
      simp at hne
  · intro h root
    exact isRootCurrent_eq_ok.mpr ⟨none, h, by simp⟩

theorem isRootCurrent_error_iff {e : ClientError} :
    (∀ root, isRootCurrent sha256 getProof root known = .error e) ↔ getProof known = .error e := by
  have hroot (root : Bytes 32) : isRootCurrent sha256 getProof root known = .error e ↔
      getProof known = .error e := by
    rw [isRootCurrent, commitmentSetRoot_eq, bind_error]
    cases getProof known <;> simp [Except.map, pure, Except.pure]
  simp only [hroot, forall_const]

end IsRootCurrent

theorem getTransaction_reports_iff (txHash : String) :
    ReportsAbsence (fun v => ∃ s, v = .string s) (server (transactionRequest txHash))
        (getTransaction server txHash = .ok none) (getTransaction server txHash = .error ·) ↔
      (server (transactionRequest txHash)).Orderly (fun v => ∃ s, v = .string s) ∧
        ∀ v, (server (transactionRequest txHash)).Returns v → ∃ s, v = .string s := by
  rw [(getTransaction_answers txHash).reportsAbsence_iff]
  refine and_congr_right fun _ => forall_congr' fun v => forall_congr' fun h => ?_
  rw [getTransaction_returns h]
  constructor
  · intro hmistyped
    by_contra hstring
    obtain ⟨e, he, -⟩ := hmistyped hstring
    cases he
  · exact fun hstring hne => absurd hstring hne

theorem getAccount_reports_iff (accountId : String) :
    ReportsAbsence (fun _ => True) (server (accountRequest accountId))
        (getAccount server accountId = .ok none) (getAccount server accountId = .error ·) ↔
      (server (accountRequest accountId)).Orderly fun _ => True := by
  rw [(getAccount_answers accountId).reportsAbsence_iff]
  exact and_iff_left fun _ _ hne => absurd trivial hne

theorem getProofForCommitment_reports_iff (hhex : hex.DecodesDigits) (commitment : Bytes 32) :
    ReportsAbsence (fun v => ∃ p, ProofForm v p) (server (proofRequest commitment))
        (getProofForCommitment hex server commitment = .ok none)
        (getProofForCommitment hex server commitment = .error ·) ↔
      (server (proofRequest commitment)).Orderly fun v => ∃ p, ProofForm v p := by
  rw [(getProofForCommitment_answers hhex commitment).reportsAbsence_iff]
  exact and_iff_left fun v h hp => getProofForCommitment_mistyped hhex h hp

theorem commitmentSetRoot_reports_iff (hhex : hex.DecodesDigits) (commitment : Bytes 32) :
    ReportsAbsence (fun v => ∃ p, ProofForm v p) (server (proofRequest commitment))
        (commitmentSetRoot sha256 (getProofForCommitment hex server) commitment = .ok none)
        (commitmentSetRoot sha256 (getProofForCommitment hex server) commitment = .error ·) ↔
      (server (proofRequest commitment)).Orderly fun v => ∃ p, ProofForm v p := by
  rw [commitmentSetRoot_eq, ((getProofForCommitment_answers hhex commitment).map _).reportsAbsence_iff]
  refine and_iff_left fun v h hp => ?_
  obtain ⟨e, he, hdecode⟩ := getProofForCommitment_mistyped hhex h hp
  exact ⟨e, by rw [he]; rfl, hdecode⟩

theorem isRootCurrent_reports_iff (hhex : hex.DecodesDigits) (commitment : Bytes 32) :
    ReportsAbsence (fun v => ∃ p, ProofForm v p) (server (proofRequest commitment))
        (∀ root, isRootCurrent sha256 (getProofForCommitment hex server) root commitment = .ok false)
        (fun e => ∀ root,
          isRootCurrent sha256 (getProofForCommitment hex server) root commitment = .error e) ↔
      (server (proofRequest commitment)).Orderly fun v => ∃ p, ProofForm v p := by
  simp only [isRootCurrent_false_iff, isRootCurrent_error_iff]
  exact getProofForCommitment_reports_iff hhex commitment

end SequencerClient

open SequencerClient in
/-- A body without a result is taken for a null one, `getTransaction` takes any result
but a text for one, and an error that does not come in a readable envelope is a
transport error; on every other response each method reports what the sequencer said. -/
theorem absence_reported_iff {hex : HexCrate} (hhex : hex.DecodesDigits) (sha256 : HashFn)
    (server : Value → Response) :
    (∀ txHash, let typed := fun v => ∃ s, v = Value.string s
      let r := server (transactionRequest txHash)
      let answer := getTransaction server txHash
      ReportsAbsence typed r (answer = .ok none) (answer = .error ·) ↔
        r.Orderly typed ∧ ∀ v, r.Returns v → typed v) ∧
    (∀ accountId, let typed := fun _ : Value => True
      let r := server (accountRequest accountId)
      let answer := getAccount server accountId
      ReportsAbsence typed r (answer = .ok none) (answer = .error ·) ↔ r.Orderly typed) ∧
    ∀ commitment, let typed := fun v => ∃ p, ProofForm v p
      let r := server (proofRequest commitment)
      let getProof := getProofForCommitment hex server
      let root := commitmentSetRoot sha256 getProof commitment
      let isCurrent := fun root => isRootCurrent sha256 getProof root commitment
      (ReportsAbsence typed r (getProof commitment = .ok none) (getProof commitment = .error ·) ↔
        r.Orderly typed) ∧
      (ReportsAbsence typed r (root = .ok none) (root = .error ·) ↔ r.Orderly typed) ∧
      (ReportsAbsence typed r (∀ root, isCurrent root = .ok false)
        (fun e => ∀ root, isCurrent root = .error e) ↔ r.Orderly typed) := by
  refine ⟨getTransaction_reports_iff, getAccount_reports_iff, fun commitment => ⟨?_, ?_, ?_⟩⟩
  · exact getProofForCommitment_reports_iff hhex commitment
  · exact commitmentSetRoot_reports_iff hhex commitment
  · exact isRootCurrent_reports_iff hhex commitment

namespace Scenario

/-- A sequencer that answers every request with the same further members. -/
def replying (members : List (String × Json)) (_ : Value) : Response :=
  .body (some (.object (("jsonrpc", .string "2.0") :: ("id", .number (.posInt 1)) :: members)))

theorem replying_null_orderly (v : Value) (typed : Value → Prop) :
    (replying [("result", .null)] v).Orderly typed := by
  have hcarries : (replying [("result", .null)] v).Carries _ ⟨"2.0", 1, none, none⟩ := ⟨rfl, rfl⟩
  refine ⟨fun h => ?_, fun _ h => h _ _ hcarries, fun _ => ⟨_, rfl⟩⟩
  obtain ⟨⟨members, hdocument, hresults⟩, -⟩ := h
  obtain rfl := Json.object.inj (Option.some.inj hdocument)
  cases hresults

/-- A reply to a request whose id could not be told, with an error. -/
def unidentified (_ : Value) : Response :=
  .body (some (.object [("jsonrpc", .string "2.0"), ("id", .null), ("error", .object
    [("code", .number (.negInt (-32700))), ("message", .string "Parse error")])]))

end Scenario

open SequencerClient Scenario in
theorem absence_reported_iff_null :
    let server := replying [("result", .null)]
    ∀ txHash accountId commitment, let getProof := getProofForCommitment digitsCrate server
      let isCurrent := fun root => isRootCurrent Sha256.digest getProof root commitment
      ReportsAbsence (fun v => ∃ s, v = .string s) (server (transactionRequest txHash))
        (getTransaction server txHash = .ok none) (getTransaction server txHash = .error ·) ∧
      ReportsAbsence (fun _ => True) (server (accountRequest accountId))
        (getAccount server accountId = .ok none) (getAccount server accountId = .error ·) ∧
      ReportsAbsence (fun v => ∃ p, ProofForm v p) (server (proofRequest commitment))
        (∀ root, isCurrent root = .ok false) (fun e => ∀ root, isCurrent root = .error e) := by
  intro server txHash accountId commitment getProof isCurrent
  have hhex : digitsCrate.DecodesDigits := fun _ _ => okOr_ok
  obtain ⟨htransaction, haccount, hproof⟩ := absence_reported_iff hhex Sha256.digest server
  have hnull (v : Value) : ¬ (server (transactionRequest txHash)).Returns v := by
    rintro ⟨document, envelope, hcarries, -, hresult⟩
    obtain rfl := Option.some.inj (Response.body.inj hcarries.1)
    obtain rfl := Option.some.inj hcarries.2
    cases hresult
  exact ⟨(htransaction txHash).mpr ⟨replying_null_orderly _ _, fun v h => absurd h (hnull v)⟩,
    (haccount accountId).mpr (replying_null_orderly _ _),
    (hproof commitment).2.2.mpr (replying_null_orderly _ _)⟩

open SequencerClient Scenario in
/-- An envelope with no result member, one whose result is a number, and an error whose
envelope has no id. -/
theorem absence_reported_wrongly :
    let silent := replying []
    let number := replying [("result", .number (.posInt 5))]
    let known : Bytes 32 := .replicate 32 0
    (∀ request, (silent request).Empty) ∧
    getTransaction silent "abc" = .ok none ∧ getAccount silent "abc" = .ok none ∧
    getProofForCommitment digitsCrate silent known = .ok none ∧
    (∀ root, isRootCurrent Sha256.digest (getProofForCommitment digitsCrate silent) root known =
      .ok false) ∧
    (∀ request, (number request).Mistyped fun v => ∃ s, v = .string s) ∧
    getTransaction number "abc" = .ok none ∧
    (∀ request, (unidentified request).HasError) ∧
    getTransaction unidentified "abc" = .error (.http Response.bodyError) ∧
    ∀ server ∈ [silent, number, unidentified],
      ¬ ReportsAbsence (fun v => ∃ s, v = .string s) (server (transactionRequest "abc"))
        (getTransaction server "abc" = .ok none) (getTransaction server "abc" = .error ·) := by
  intro silent number known
  have hnone (members : List (String × Json)) (request : Value) (h : Json.named members "error" = []) :
      ¬ (replying members request).HasError := by
    rintro ⟨document, hdocument, error, herror, -⟩
    obtain rfl := Option.some.inj hdocument
    rw [JsonRpcEnvelope.errors, Json.named] at herror
    simp only [List.filter_cons] at herror
    rw [Json.named] at h
    simp [h] at herror
  have hempty (request : Value) : (silent request).Empty := ⟨⟨_, rfl, rfl⟩, hnone [] request rfl⟩
  have hmistyped (request : Value) : (number request).Mistyped fun v => ∃ s, v = .string s := by
    refine ⟨⟨_, rfl, .number (.posInt 5), List.mem_cons_self, by simp, ?_⟩, hnone _ request rfl⟩
    rintro ⟨s, hs⟩
    cases hs
  have herror (request : Value) : (unidentified request).HasError :=
    ⟨_, rfl, _, List.mem_cons_self, by simp⟩
  have hsilent : getTransaction silent "abc" = .ok none := rfl
  have hnumber : getTransaction number "abc" = .ok none := rfl
  have hunidentified : getTransaction unidentified "abc" = .error (.http Response.bodyError) := rfl
  refine ⟨hempty, hsilent, rfl, rfl, fun _ => rfl, hmistyped, hnumber, herror, hunidentified, ?_⟩
  intro server hserver hreports
  simp only [List.mem_cons, List.not_mem_nil, or_false] at hserver
  rcases hserver with rfl | rfl | rfl
  · cases hsilent.symm.trans (hreports.empty (hempty _))
  · obtain ⟨e, he, -⟩ := hreports.mistyped (hmistyped _)
    cases hnumber.symm.trans he
  · obtain ⟨code, message, he⟩ := hreports.error (herror _)
    cases hunidentified.symm.trans he

end BalanceAttestation
