import ScanProvisioning.Proofs.Azure.LongOperation
import ScanProvisioning.Proofs.Json.Record
import ScanProvisioning.Proofs.Pass.Reporting

namespace ScanProvisioning.Azure

open Program
open Json (Document)
open Json.Document (values)
open Json.Decoder (field optionalField required withDefault string)

section

variable {operation body code message : String} {status : UInt16} {members detail : List (Document × Document)}

/-- The code in the body of a refusal: the text under the code of the error, if the body is an object that
has one. -/
def codeNamed? (body : String) : Option String :=
  let (d, more) := Document.ofText body
  if more = false ∧ d.passed.isOk = true then
    ((d.last? "error").bind (Document.last? "code")).bind Document.text?
  else none

/-- It is the code that the value of the body has. -/
theorem codeNamed?_eq {v : Json} (read : Json.ofText body = .ok v) :
    codeNamed? body = v.stringAt? ["error", "code"] := by
  unfold Json.ofText at read
  unfold codeNamed?
  generalize Document.ofText body = whole at read
  obtain ⟨d, more⟩ := whole
  obtain ⟨w, value, read⟩ := Json.bind_eq_ok_iff.mp read
  cases more with
  | true => cases read
  | false =>
    cases read
    have sound : d.passed.isOk = true := by
      rw [Document.passed_of_toJson value]
      rfl
    have reads : Json.Reads d v := ⟨_, value⟩
    simp only [sound, and_self, if_true, Json.stringAt?, Json.at?]
    have under : Option.Rel Json.Reads (d.last? "error") (v.get? "error") := reads.get?
    generalize d.last? "error" = found, v.get? "error" = found' at under
    cases under with
    | none => rfl
    | @some e f reads =>
      have under : Option.Rel Json.Reads (e.last? "code") (f.get? "code") := reads.get?
      simp only [Option.bind_some]
      generalize e.last? "code" = found, f.get? "code" = found' at under
      cases under with
      | none => rfl
      | some reads => exact reads.text?

/-- What a refusal says of its error: one code and no more than one message, both of them texts. -/
structure Detail (detail : List (Document × Document)) (code message : String) : Prop where
  named : ∀ m ∈ detail, ∃ n, m.1 = .str n
  code : values "code" detail = [.str code]
  message : values "message" detail = [] ∧ message = "" ∨ values "message" detail = [.str message]

/-- A body that says plainly why a request was refused. -/
def Plain (body : String) : Prop :=
  ∃ members detail code message, Document.ofText body = (.obj members none, false) ∧
    (∀ m ∈ members, ∃ n, m.1 = .str n) ∧ values "error" members = [.obj detail none] ∧
      Detail detail code message

private theorem named_of_fits {fields : List Json.Decoder.Field}
    (fits : ∀ m ∈ members, Json.Decoder.Fits fields m) :
    ∀ m ∈ members, ∃ n, m.1 = .str n := by
  intro m mem
  obtain ⟨n, same, -⟩ := fits m mem
  exact ⟨n, same⟩

theorem refusalDetailDecoder_eq_ok_iff (sound : ∀ m ∈ detail, m.2.passed = .ok ()) :
    refusalDetailDecoder (.obj detail none) = .ok (code, message) ↔ Detail detail code message := by
  let ofCode := field "code" string
  let ofMessage := optionalField "message" string
  have first : ofCode ∈ [ofCode, ofMessage] := .head _
  have second : ofMessage ∈ [ofCode, ofMessage] := .tail _ (.head _)
  constructor
  · intro read
    obtain ⟨found, record, read⟩ := Json.bind_eq_ok_iff.mp read
    obtain ⟨code', codeRead, read⟩ := Json.bind_eq_ok_iff.mp read
    obtain ⟨message', messageRead, read⟩ := Json.bind_eq_ok_iff.mp read
    cases read
    obtain ⟨-, fits, -⟩ := Json.Decoder.record_obj_iff.mp ⟨found, record⟩
    obtain ⟨v, single, text⟩ := (Json.Decoder.required_eq_ok_iff record first).mp codeRead
    refine ⟨named_of_fits fits, ?_, ?_⟩
    · rw [← Json.Decoder.string_eq_ok_iff.mp text]
      exact single
    · obtain ⟨none, rfl⟩ | ⟨w, single, text⟩ :=
        (Json.Decoder.withDefault_eq_ok_iff record second).mp messageRead
      · exact .inl ⟨none, rfl⟩
      · rw [← Json.Decoder.string_eq_ok_iff.mp text]
        exact .inr single
  · rintro ⟨named, single, last⟩
    obtain ⟨found, record⟩ : ∃ found, Json.Decoder.record "ArmErrorDetail" [ofCode, ofMessage]
        (.obj detail none) = .ok found := by
      refine Json.Decoder.exists_record sound named ?_
      refine List.forall_mem_cons.mpr ⟨.inr ⟨_, single, rfl⟩, List.forall_mem_singleton.mpr ?_⟩
      exact last.imp And.left fun single => ⟨_, single, rfl⟩
    refine Json.bind_eq_ok_iff.mpr ⟨found, record, Json.bind_eq_ok_iff.mpr ⟨code, ?_, ?_⟩⟩
    · exact (Json.Decoder.required_eq_ok_iff record first).mpr ⟨_, single, rfl⟩
    · refine Json.bind_eq_ok_iff.mpr ⟨message, (Json.Decoder.withDefault_eq_ok_iff record second).mpr ?_, rfl⟩
      exact last.imp_right fun single => ⟨_, single, rfl⟩

theorem refusalDecoder_eq_ok_iff (sound : ∀ m ∈ members, m.2.passed = .ok ()) :
    refusalDecoder (.obj members none) = .ok (code, message) ↔
      (∀ m ∈ members, ∃ n, m.1 = .str n) ∧
        ∃ v, values "error" members = [v] ∧ refusalDetailDecoder v = .ok (code, message) := by
  let error := field "error" refusalDetailDecoder
  have own : error ∈ [error] := .head _
  constructor
  · intro read
    obtain ⟨found, record, read⟩ := Json.bind_eq_ok_iff.mp read
    obtain ⟨-, fits, -⟩ := Json.Decoder.record_obj_iff.mp ⟨found, record⟩
    exact ⟨named_of_fits fits, (Json.Decoder.required_eq_ok_iff record own).mp read⟩
  · rintro ⟨named, v, single, read⟩
    obtain ⟨found, record⟩ : ∃ found, Json.Decoder.record "ArmErrorResponse" [error] (.obj members none) =
        .ok found := by
      refine Json.Decoder.exists_record sound named (List.forall_mem_singleton.mpr ?_)
      exact .inr ⟨v, single, Json.Decoder.check_field_iff.mpr ⟨_, read⟩⟩
    exact Json.bind_eq_ok_iff.mpr
      ⟨found, record, (Json.Decoder.required_eq_ok_iff record own).mpr ⟨v, single, read⟩⟩

/-- A body that names a code is an object without fault. -/
theorem object_of_named (named : codeNamed? body = some code) : ∃ members,
    Document.ofText body = (.obj members none, false) ∧ (∀ m ∈ members, m.2.passed = .ok ()) ∧
    ∃ e, (values "error" members).getLast? = some e ∧ e.last? "code" = some (.str code) := by
  unfold codeNamed? at named
  generalize Document.ofText body = whole at named
  obtain ⟨d, more⟩ := whole
  dsimp only at named
  split at named
  case isFalse => cases named
  case isTrue sound =>
    obtain ⟨rfl, passed⟩ := sound
    obtain ⟨⟨⟩, passed⟩ := exists_ok_of_isOk passed
    obtain ⟨c, found, text⟩ := Option.bind_eq_some_iff.mp named
    obtain ⟨e, there, under⟩ := Option.bind_eq_some_iff.mp found
    rw [Document.text?_eq_some_iff.mp text] at under
    cases d with
    | obj members ending =>
      obtain ⟨rfl, sound⟩ := Document.passed_obj_iff.mp passed
      exact ⟨members, rfl, fun m mem => (sound m mem).2, e, there, under⟩
    | _ => cases there

private theorem detail_of_last {e : Document} (sound : e.passed = .ok ())
    (under : e.last? "code" = some (.str code)) :
    ∃ detail, e = .obj detail none ∧ (∀ m ∈ detail, m.2.passed = .ok ()) ∧
      (values "code" detail).getLast? = some (.str code) := by
  cases e with
  | obj detail ending =>
    obtain ⟨rfl, each⟩ := Document.passed_obj_iff.mp sound
    exact ⟨detail, rfl, fun m mem => (each m mem).2, under⟩
  | _ => cases under

/-- The code in a body is passed on if the body is plain, and otherwise lost. -/
theorem managementRefusal_of_named (named : codeNamed? body = some code) (operation : String)
    (status : UInt16) :
    (Plain body ∧ ∃ message,
      managementRefusal operation status body = .refusal operation status (some code) message) ∨
    ¬ Plain body ∧ managementRefusal operation status body = .refusal operation status none body := by
  obtain ⟨members, whole, sound, e, there, under⟩ := object_of_named named
  have passed : e.passed = .ok () := sound _ (Document.mem_values_iff.mp (List.mem_of_getLast? there))
  obtain ⟨detail, rfl, detailSound, last⟩ := detail_of_last passed under
  have read : refusalDecoder.ofText body = refusalDecoder (.obj members none) := Json.Decoder.ofText_whole whole
  rw [managementRefusal, read]
  cases decoded : refusalDecoder (.obj members none) with
  | ok result =>
    obtain ⟨code', message⟩ := result
    obtain ⟨names, v, single, inner⟩ := (refusalDecoder_eq_ok_iff sound).mp decoded
    rw [single] at there
    cases there
    have told := (refusalDetailDecoder_eq_ok_iff detailSound).mp inner
    rw [told.code] at last
    cases last
    exact .inl ⟨⟨members, detail, code, message, whole, names, single, told⟩, message, rfl⟩
  | error r =>
    refine .inr ⟨?_, rfl⟩
    rintro ⟨members', detail', code', message, whole', names, single, told⟩
    rw [whole] at whole'
    cases whole'
    rw [single] at there
    cases there
    have inner := (refusalDetailDecoder_eq_ok_iff detailSound).mpr told
    have fine := (refusalDecoder_eq_ok_iff sound).mpr ⟨names, _, single, inner⟩
    rw [decoded] at fine
    cases fine

end

section

variable {α β : Type} {c : Credential} {scope : Scope} {operation : String}

/-- A request of its own that is refused is the last that an action asks, and what it ends in. -/
def PassesOn (c : Credential) (scope : Scope) (x : Action α) : Prop :=
  ∀ es result, Trace x.run es (some result) → ∀ request r, (⟨.exchange request, .ok r⟩ : Event host) ∈ es →
    ¬ AsksForToken c request → r.isSuccess = false → ∃ operation, result = .error (refusalOf operation scope r)

theorem passesOn_done (result : Except Failure α) :
    PassesOn c scope (ExceptT.mk (.done result) : Action α) := by
  intro es result run request r mem
  cases run
  cases mem

theorem PassesOn.bind {x : Action α} {f : α → Action β} (first : PassesOn c scope x)
    (rest : ∀ a, PassesOn c scope (f a)) : PassesOn c scope (x >>= f) := by
  intro es result run request r mem own refused
  obtain ⟨⟨⟩, -⟩ | ⟨failure, same, early⟩ | ⟨a, before, after, rfl, early, late⟩ := trace_bindExcept_iff.mp run
  · cases same
    obtain ⟨operation, ended⟩ := first _ _ early request r mem own refused
    cases ended
    exact ⟨operation, rfl⟩
  · rcases List.mem_append.mp mem with mem | mem
    · obtain ⟨operation, ⟨⟩⟩ := first _ _ early request r mem own refused
    · exact rest a _ _ late request r mem own refused

theorem PassesOn.map {x : Action α} {f : α → β} (passes : PassesOn c scope x) : PassesOn c scope (f <$> x) :=
  passes.bind fun _ => passesOn_done _

private theorem passesOn_ask {call : Call} {f : call.Reply → Action α}
    (silent : ∀ request, call ≠ .exchange request)
    (rest : ∀ reply, PassesOn c scope (f reply)) : PassesOn c scope (Action.ask call >>= f) := by
  intro es result run request r mem own refused
  cases run with
  | ask reply run =>
    rcases List.mem_cons.mp mem with same | mem
    · exact absurd (congrArg Event.call same).symm (silent request)
    · exact rest reply _ _ run request r mem own refused

theorem passesOn_send {d : Http.Draft} : PassesOn c scope (c.send operation scope d) := by
  intro es result run request r mem own refused
  obtain ⟨quiet, -⟩ | ⟨early, request', reply, rfl, quiet, -, ended⟩ := trace_send run
  · exact absurd (quiet _ mem request rfl) own
  · rcases List.mem_append.mp mem with mem | mem
    · exact absurd (quiet _ mem request rfl) own
    · cases List.mem_singleton.mp mem
      rw [answered, refused] at ended
      exact ⟨operation, ended⟩

end

namespace Management

variable {c : Credential} {operation path version action name : String} {body : Json}

theorem json_passesOn {r : Http.Response} : PassesOn c .management (Action.json operation r) := by
  rw [json_eq_settle]
  exact passesOn_done _

theorem getJson_passesOn {query : List (String × String)} :
    PassesOn c .management (getJson c operation path version query) :=
  passesOn_send.bind fun _ => json_passesOn

theorem listFrom_passesOn {pages : Nat} {address : String} :
    PassesOn c .management (listFrom c operation pages address) := by
  induction pages generalizing address with
  | zero => exact passesOn_ask (by simp) fun impossible => impossible.elim
  | succ pages ih =>
    refine passesOn_send.bind fun r => json_passesOn.bind fun page => ?_
    cases page.string? "nextLink" with
    | none => exact passesOn_done _
    | some next => exact ih.bind fun _ => passesOn_done _

theorem watch_passesOn {w : Watch} {left : Nat} {delay : Duration} :
    PassesOn c .management (watch c operation w left delay) := by
  induction left generalizing delay with
  | zero => exact passesOn_done _
  | succ left ih =>
    refine passesOn_ask (by simp) fun _ => passesOn_send.bind fun r => ?_
    rw [progress_eq_settle]
    refine PassesOn.bind (passesOn_done _) fun progress => ?_
    cases progress with
    | running => exact ih
    | succeeded output => exact passesOn_done _

theorem post_passesOn : PassesOn c .management (post c operation path action version body) := by
  refine passesOn_send.bind fun r => ?_
  rw [awaitOperation]
  split
  · split
    · exact passesOn_done _
    · exact watch_passesOn
  · rw [optionalJson_eq_settle]
    exact passesOn_done _

end Management

/-- The service that a client call is answered by. -/
def serviceOf : ClientCall → Scope
  | .copyStatus _ => .storage
  | .startCopy .. => .storage
  | .deleteCopy _ => .storage
  | _ => .management

section

variable {a : Account} {call : ClientCall} {reply : call.Reply} {es : List (Event host)}
  {request : Http.Request}
  {r : Http.Response}

/-- What a request of its own comes to that is refused is what a client call fails with. -/
theorem answer_passesOn (run : Trace (a.answer call) es (some reply))
    (mem : (⟨.exchange request, .ok r⟩ : Event host) ∈ es) (own : ¬ AsksForToken a.credential request)
    (refused : r.isSuccess = false) :
    ∃ operation, (⟨call, reply⟩ : Event clients).failure? = some (refusalOf operation (serviceOf call) r) := by
  have passed {α : Type} {x : Action α} {scope : Scope} {answer : Except Failure α}
      (passes : PassesOn a.credential scope x) (run : Trace x.run es (some answer)) :
      ∃ operation, Event.failure?.refusal answer = some (refusalOf operation scope r) := by
    obtain ⟨operation, rfl⟩ := passes _ _ run request r mem own refused
    exact ⟨operation, rfl⟩
  cases call with
  | observe kind name =>
    refine passed ?_ run
    cases kind with
    | stagedCopy => exact passesOn_done _
    | snapshot | volume | networkInterface | scanner =>
      exact Management.getJson_passesOn.bind fun _ => passesOn_done _
  | create name spec =>
    refine passed ?_ run
    cases spec with
    | snapshot | volume | networkInterface => exact passesOn_send.map
    | scanner spec => exact PassesOn.bind (passesOn_done _) fun _ => passesOn_send.map
  | delete kind name =>
    refine passed ?_ run
    cases kind with
    | stagedCopy => exact passesOn_done _
    | snapshot | volume | networkInterface | scanner => exact passesOn_send.map
  | grantAccess snapshot ttl =>
    refine passed (Management.post_passesOn.bind fun output => ?_) run
    cases output.bind grantedAddress? <;> exact passesOn_done _
  | revokeAccess snapshot => exact passed Management.post_passesOn.map run
  | copyStatus name => exact passed (passesOn_send.bind fun _ => passesOn_done _) run
  | startCopy name source => exact passed passesOn_send.map run
  | deleteCopy name => exact passed passesOn_send.map run
  | listAssets => exact passed (Management.listFrom_passesOn.bind fun _ => passesOn_done _) run

end

end ScanProvisioning.Azure
