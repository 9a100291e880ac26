import Mathlib.Data.Finset.Card
import Mathlib.Logic.Relation
import ScanProvisioning.Proofs.Azure.Authority
import ScanProvisioning.Proofs.Azure.Listing
import ScanProvisioning.Proofs.Http

namespace ScanProvisioning.Azure.Management

open Program Relation

/-- What a server answers to lookups, by their full addresses. -/
abbrev Pages := Http.Url → Except Http.Failure Http.Response

/-- A host whose lookups are answered from some pages. All else may be answered in any way. -/
def Serves (pages : Pages) (_ : Unit) (c : Call) (r : c.Reply) (_ : Unit) : Prop :=
  match c, r with
  | .exchange request, reply => request.method = .get → reply = pages request.url
  | _, _ => True

/-- The page that a listing reads at an address, if there is one to read. -/
def pageAt (pages : Pages) (address : String) : Option Json :=
  match draft .get address with
  | .error _ => none
  | .ok request => (pageOf "" (pages request.url)).toOption

/-- Where the page at an address says that the listing goes on. -/
def leadsTo (pages : Pages) (address : String) : Option String :=
  (pageAt pages address).bind (Json.string? "nextLink" ·)

/-- Not the question that stands for going on forever. -/
def Halting (_ : Unit) (c : Call) : Prop := c ≠ .unending

/-- A listing that starts at an address has come to an end after at most so many pages, whatever tokens
and ids the host gives out. -/
def EndsWithin (pages : Pages) (c : Credential) (operation : String) (limit : Nat) (start : String) : Prop :=
  Guarded (Serves pages) Halting (fun _ _ => True) (listFrom c operation limit start).run ()

section

variable {pages : Pages} {c : Credential} {operation address next : String} {scope : Scope} {limit : Nat}

theorem settled_halting (reply : Except Http.Failure Http.Response) :
    Guarded (Serves pages) Halting (fun _ _ => True) (Identity.settled scope reply) () := by
  rw [Identity.settled]
  cases Identity.issuedBy scope reply with
  | error f => trivial
  | ok issued =>
    dsimp only
    refine guarded_question (by simp [Halting]) fun now _ _ => ?_
    cases Instant.after? now (.ofSeconds (Identity.lifetime issued)) with
    | none => exact guarded_question (by simp [Halting]) fun impossible => impossible.elim
    | some expiresAt => trivial

theorem fetch_halting (asks : c.tenant? ≠ none) :
    Guarded (Serves pages) Halting (fun _ _ => True) (c.identity.fetch scope).run () := by
  have shown : Guarded (Serves pages) Halting (fun _ _ => True)
      (Identity.application (Identity.operation scope) scope c.identity.credential).run () := by
    cases c with
    | issued token => exact absurd rfl asks
    | secret tenant client secret => trivial
    | federated tenant client file =>
      refine guarded_question (by simp [Halting]) ?_
      rintro (reason | assertion) _ - <;> trivial
  rw [Identity.fetch_run]
  refine guarded_bind (guarded_mono ?_ shown)
  rintro _ (f | ⟨tenant, form⟩) -
  · trivial
  · dsimp only
    cases c.identity.draft tenant form with
    | error f => trivial
    | ok request => exact guarded_question (by simp [Halting]) fun reply _ _ => settled_halting reply

theorem renew_halting (asks : c.tenant? ≠ none) :
    Guarded (Serves pages) Halting (fun _ _ => True) (c.identity.renew scope).run () := by
  rw [Identity.renew]
  refine guarded_bindExcept (guarded_mono ?_ (fetch_halting asks))
  rintro _ (f | fetched) -
  · trivial
  · exact guarded_question (by simp [Halting]) fun _ _ _ => trivial

theorem token_halting : Guarded (Serves pages) Halting (fun _ _ => True) (c.identity.token scope).run () := by
  by_cases asks : c.tenant? = none
  · cases c with
    | issued token => trivial
    | secret tenant client secret | federated tenant client file => cases asks
  · rw [Identity.token_run asks]
    refine guarded_question (by simp [Halting]) ?_
    rintro (_ | cached) _ -
    · exact renew_halting asks
    · dsimp only
      refine guarded_question (by simp [Halting]) fun now _ _ => ?_
      cases cached.isFresh now with
      | true => trivial
      | false => exact renew_halting asks

private theorem header_eq_ok {d : Http.Draft} {name value : String} {request : Http.Request}
    (built : d.header name value = .ok request) :
    ∃ r, d = .ok r ∧ request.method = r.method ∧ request.url = r.url := by
  cases d with
  | error f => cases built
  | ok r =>
    refine ⟨r, rfl, ?_⟩
    cases valid : Http.isHeaderValue value with
    | false => simp [Http.Draft.header, valid, Bind.bind, Except.bind] at built
    | true =>
      simp [Http.Draft.header, valid, Bind.bind, Except.bind] at built
      cases built
      exact ⟨rfl, rfl⟩

theorem pageOf_eq_ok_iff {reply : Except Http.Failure Http.Response} {page : Json} :
    pageOf operation reply = .ok page ↔
      ∃ response, reply = .ok response ∧ response.isSuccess = true ∧ response.json = .ok page := by
  obtain f | response := reply
  · simp [pageOf, answered, Bind.bind, Except.bind]
  · cases success : response.isSuccess with
    | false => simp [pageOf, answered, success, Bind.bind, Except.bind]
    | true =>
      simp only [pageOf, answered, success, if_true, Bind.bind, Except.bind, readJson]
      cases read : response.json <;> simp [success, read]

/-- What is sent for a page gets the answer of the server at the address of the page. -/
theorem send_halting :
    Guarded (Serves pages) Halting (fun _ result => ∀ response, result = .ok response →
        ∃ request, draft .get address = .ok request ∧ pages request.url = .ok response ∧
          response.isSuccess = true)
      (c.send operation .management (draft .get address)).run () := by
  rw [Credential.send]
  refine guarded_bindExcept (guarded_mono ?_ token_halting)
  rintro _ (f | token) -
  · simp
  · refine guarded_question (by simp [Halting]) fun id _ _ => ?_
    have sends (d : Http.Draft)
        (own : ∀ request, d = .ok request → ∃ r, draft .get address = .ok r ∧ request.method = .get ∧
          request.url = r.url) :
        Guarded (Serves pages) Halting (fun _ result => ∀ response, result = .ok response →
            ∃ request, draft .get address = .ok request ∧ pages request.url = .ok response ∧
              response.isSuccess = true)
          (Action.exchange operation d >>= fun response =>
            if response.isSuccess then pure response
            else throw (refusalOf operation .management response)).run () := by
      cases built : d with
      | error f => rintro _ ⟨⟩
      | ok request =>
        obtain ⟨r, drafted, get, url⟩ := own request built
        rw [Identity.exchange_run rfl]
        refine guarded_question (by simp [Halting]) ?_
        rintro (f | response) _ answer
        · rintro _ ⟨⟩
        · have served : pages r.url = .ok response := (url ▸ answer get).symm
          dsimp only
          cases success : response.isSuccess with
          | false => rintro _ ⟨⟩
          | true =>
            rintro _ ⟨⟩
            exact ⟨r, drafted, served, success⟩
    refine sends _ fun request built => ?_
    obtain ⟨r, first, method, url⟩ := header_eq_ok built
    obtain ⟨r', drafted, method', url'⟩ := header_eq_ok first
    exact ⟨r', drafted, (method.trans method').trans (Http.draft_method drafted), url.trans url'⟩

/-- What is read as a page is the page at its address. -/
theorem readPage_halting :
    Guarded (Serves pages) Halting
      (fun _ result => ∀ page, result = .ok page → pageAt pages address = some page)
      (readPage c operation address).run () := by
  simp only [readPage, json_eq_settle]
  refine guarded_bindExcept (guarded_mono ?_ send_halting)
  rintro _ (f | response) sent
  · rintro _ ⟨⟩
  · obtain ⟨request, drafted, served, success⟩ := sent response rfl
    intro page read
    have json : response.json = .ok page := by
      simp only [readJson] at read
      cases found : response.json with
      | error f => simp [found] at read
      | ok v =>
        rw [found] at read
        cases read
        rfl
    rw [pageAt, drafted]
    simp only [served, pageOf_eq_ok_iff.mpr ⟨response, rfl, success, json⟩, Except.toOption]

/-- A listing goes on where its page leads. -/
theorem endsWithin_succ (goesOn : ∀ next, leadsTo pages address = some next →
    EndsWithin pages c operation limit next) : EndsWithin pages c operation (limit + 1) address := by
  rw [EndsWithin, listFrom_succ]
  refine guarded_bindExcept (guarded_mono ?_ readPage_halting)
  rintro _ (f | page) read
  · trivial
  · have here := read page rfl
    dsimp only
    rw [listAfter]
    cases link : page.string? "nextLink" with
    | none => trivial
    | some next =>
      refine guarded_bindExcept (guarded_mono ?_ (goesOn next (by rw [leadsTo, here]; exact link)))
      rintro _ (f | items) - <;> trivial

/-- A token that was issued beforehand can be sent; tokens that are fetched are not known in advance. -/
def Sendable (c : Credential) : Prop :=
  ∀ token, c = .issued token → Http.isHeaderValue ("Bearer " ++ token) = true

theorem token_leads (sendable : Sendable c) :
    ∃ token, Http.isHeaderValue ("Bearer " ++ token) = true ∧
      Leads (Serves pages) (c.identity.token scope).run () (.ok token) () := by
  by_cases asks : c.tenant? = none
  · cases c with
    | issued token => exact ⟨token, sendable token rfl, leads_done _ _⟩
    | secret tenant client secret | federated tenant client file => cases asks
  · refine ⟨"token", by decide, ?_⟩
    rw [Identity.token_run asks]
    let cached : CachedToken := { token := "token", expiresAt := 3600000000000 }
    refine leads_ask (I := host) (c := .tokenFor scope) (r := some cached) (t := ()) trivial ?_
    refine leads_ask (I := host) (c := .clock) (r := (0 : Nat)) (t := ()) trivial ?_
    have fresh : cached.isFresh 0 = true := by decide
    simp only [fresh, if_true]
    exact leads_done _ _

private theorem header_ok {d : Http.Draft} {value : String} {request : Http.Request} (name : String)
    (drafted : d = .ok request) (valid : Http.isHeaderValue value = true) :
    ∃ r, d.header name value = .ok r ∧ r.method = request.method ∧ r.url = request.url := by
  subst drafted
  refine ⟨{ request with headers := request.headers ++ [(name, value)] }, ?_, rfl, rfl⟩
  simp [Http.Draft.header, valid, Bind.bind, Except.bind, Pure.pure, Except.pure]

theorem readPage_leads (sendable : Sendable c) {page : Json} (there : pageAt pages address = some page) :
    Leads (Serves pages) (readPage c operation address).run () (.ok page) () := by
  obtain ⟨request, drafted, read⟩ : ∃ request, draft .get address = .ok request ∧
      pageOf "" (pages request.url) = .ok page := by
    rw [pageAt] at there
    cases drafted : draft .get address with
    | error f => simp [drafted] at there
    | ok request =>
      rw [drafted] at there
      cases read : pageOf "" (pages request.url) with
      | error f => simp [read, Except.toOption] at there
      | ok found =>
        simp only [read, Except.toOption, Option.some.injEq] at there
        exact ⟨request, rfl, there ▸ read⟩
  obtain ⟨response, served, success, json⟩ := pageOf_eq_ok_iff.mp read
  obtain ⟨token, valid, tokens⟩ : ∃ token, Http.isHeaderValue ("Bearer " ++ token) = true ∧
      Leads (Serves pages) (c.identity.token .management).run () (.ok token) () := token_leads sendable
  obtain ⟨first, authorized, method, url⟩ := header_ok "authorization" drafted valid
  obtain ⟨sent, identified, method', url'⟩ :=
    header_ok "x-ms-client-request-id" authorized (by decide : Http.isHeaderValue "id" = true)
  have exchanged : Leads (Serves pages) (Action.exchange operation (.ok sent) >>= fun response =>
      if response.isSuccess then pure response else throw (refusalOf operation .management response)).run ()
        (.ok response) () := by
    rw [Identity.exchange_run rfl]
    have answer : Serves pages () (.exchange sent) (.ok response) () :=
      fun _ => by rw [url', url, served]
    refine leads_ask (I := host) answer ?_
    simp only [success, if_true]
    exact leads_done _ _
  rw [← identified] at exchanged
  have sends : Leads (Serves pages) (c.send operation .management (draft .get address)).run ()
      (.ok response) () :=
    leads_bindExcept tokens (leads_ask (I := host) (c := .requestId) (r := "id") (t := ()) trivial exchanged)
  refine leads_bindExcept sends ?_
  rw [json_eq_settle, readJson, json]
  exact leads_done _ _

/-- And with a token that can be sent, nothing but its pages ends it. -/
theorem EndsWithin.goes_on (sendable : Sendable c) (leads : leadsTo pages address = some next)
    (ends : EndsWithin pages c operation (limit + 1) address) : EndsWithin pages c operation limit next := by
  obtain ⟨page, there, link⟩ := Option.bind_eq_some_iff.mp leads
  obtain ⟨es, run, replies⟩ : Leads (Serves pages) (readPage c operation address).run () (.ok page) () :=
    readPage_leads sendable there
  rw [EndsWithin, listFrom_succ] at ends
  have rest : Guarded (Serves pages) Halting (fun _ _ => True) (listAfter c operation limit page).run () :=
    guarded_rest (f := ExceptT.bindCont (listAfter c operation limit)) ends run replies
  rw [listAfter, link] at rest
  exact guarded_first rest

/-- One page leads to another. -/
def Linked (pages : Pages) (address next : String) : Prop := leadsTo pages address = some next

/-- Nowhere on its way does a listing come to a page that leads back to itself. -/
def Straight (pages : Pages) (start : String) : Prop :=
  ∀ address, ReflTransGen (Linked pages) start address → ¬ TransGen (Linked pages) address address

theorem Straight.onward (straight : Straight pages address) (leads : Linked pages address next) :
    Straight pages next :=
  fun a onward => straight a (.head leads onward)

theorem EndsWithin.straight (sendable : Sendable c) (ends : EndsWithin pages c operation limit address) :
    Straight pages address := by
  induction limit generalizing address with
  | zero => exact absurd rfl ends.1
  | succ limit ih =>
    intro back onward loop
    obtain ⟨next, leads, rest⟩ : ∃ next, Linked pages address next ∧ ReflTransGen (Linked pages) next back := by
      rcases ReflTransGen.cases_head onward with rfl | later
      · exact TransGen.head'_iff.mp loop
      · exact later
    exact ih (ends.goes_on sendable leads) back rest loop

/-- A page that is left behind is not met again, so the pages that are left get fewer. -/
theorem endsWithin_of_straight {within : Finset String} (straight : Straight pages address)
    (reach : ∀ a, ReflTransGen (Linked pages) address a → a ∈ within) (enough : within.card ≤ limit) :
    EndsWithin pages c operation limit address := by
  have here : address ∈ within := reach address .refl
  induction limit generalizing address within with
  | zero =>
    have none : within = ∅ := Finset.card_eq_zero.mp (Nat.le_zero.mp enough)
    simp [none] at here
  | succ limit ih =>
    refine endsWithin_succ fun next leads => ?_
    have onward (a : String) (later : ReflTransGen (Linked pages) next a) : a ∈ within.erase address := by
      refine Finset.mem_erase.mpr ⟨?_, reach a (.head leads later)⟩
      rintro rfl
      exact straight _ .refl (.head' leads later)
    refine ih (straight.onward leads) onward ?_ (onward next .refl)
    rw [Finset.card_erase_of_mem here]
    omega

private theorem endsWithin_iff_straight {within : Finset String} (sendable : Sendable c) {start : String}
    (here : start ∈ within) (closed : ∀ a ∈ within, ∀ b, Linked pages a b → b ∈ within)
    (enough : within.card ≤ limit) :
    EndsWithin pages c operation limit start ↔ Straight pages start := by
  have reach (a : String) (onward : ReflTransGen (Linked pages) start a) : a ∈ within := by
    induction onward with
    | refl => exact here
    | tail _ leads ih => exact closed _ ih _ leads
  exact ⟨fun ends => ends.straight sendable, fun straight => endsWithin_of_straight straight reach enough⟩

/-- A listing of finitely many pages ends exactly if no page that it comes to leads back to itself. Then
it ends within as many pages as there are, so it reads each of them once at most; otherwise no number of
pages is enough. -/
theorem listing_ends_iff {within : Finset String} {path version : String} (sendable : Sendable c)
    (here : Management.address path version ∈ within)
    (closed : ∀ a ∈ within, ∀ b, Linked pages a b → b ∈ within) :
    (within.card ≤ pageLimit →
      (Guarded (Serves pages) Halting (fun _ _ => True) (list c operation path version).run () ↔
        Straight pages (Management.address path version))) ∧
    (Straight pages (Management.address path version) →
      EndsWithin pages c operation within.card (Management.address path version)) ∧
    (¬ Straight pages (Management.address path version) →
      ∀ limit, ¬ EndsWithin pages c operation limit (Management.address path version)) :=
  ⟨fun few => endsWithin_iff_straight sendable here closed few,
    (endsWithin_iff_straight sendable here closed le_rfl).mpr,
    fun back _ ends => back (ends.straight sendable)⟩

end

section

/-- A page without machines that names the page at an address as the next one. -/
def linking (address : String) : Except Http.Failure Http.Response :=
  .ok { status := 200, headers := [], body := .ok ("\x7b\"value\":[],\"nextLink\":\"" ++ address ++ "\"\x7d") }

def listed : String := Management.address "/machines" "1"

def listedNext : String := listed ++ "&page=2"

/-- A page that leads back to itself is read again and again. -/
theorem listing_never_ends :
    ∃ (pages : Pages) (within : Finset String) (start : String), start ∈ within ∧
      (∀ a ∈ within, ∀ b, Linked pages a b → b ∈ within) ∧
      ∀ limit, ¬ EndsWithin pages (.issued "token") "listing" limit start := by
  have back : Linked (fun _ => linking listed) listed listed := by
    rw [Linked]
    decide +kernel
  refine ⟨fun _ => linking listed, {listed}, listed, by simp, ?_, ?_⟩
  · simp only [Finset.mem_singleton]
    rintro a rfl b leads
    rw [Linked] at back leads
    rw [back] at leads
    exact (Option.some.inj leads).symm
  · intro limit ends
    have sendable : Sendable (.issued "token") := by
      rintro _ ⟨⟩
      decide
    exact ends.straight sendable listed .refl (.single back)

/-- Two pages, the first of which names the second. -/
def turning : Pages := fun url =>
  if url.query = some "api-version=1" then linking listedNext
  else .ok { status := 200, headers := [], body := .ok "\x7b\x7d" }

theorem listing_ends_iff_turning :
    Straight turning listed ∧ Guarded (Serves turning) Halting (fun _ _ => True)
      (list (.issued "token") "listing" "/machines" "1").run () := by
  have sendable : Sendable (.issued "token") := by
    rintro _ ⟨⟩
    decide
  have first : leadsTo turning listed = some listedNext := by decide +kernel
  have last : leadsTo turning listedNext = none := by decide +kernel
  have ended (a : String) : ¬ Linked turning listedNext a := by
    rw [Linked, last]
    rintro ⟨⟩
  have only (a : String) (leads : Linked turning listed a) : a = listedNext := by
    rw [Linked, first] at leads
    exact (Option.some.inj leads).symm
  have forward (a : String) (onward : ReflTransGen (Linked turning) listedNext a) :
      a = listedNext := by
    rcases ReflTransGen.cases_head onward with rfl | ⟨b, leads, -⟩
    · rfl
    · exact absurd leads (ended b)
  have straight : Straight turning listed := by
    intro a onward loop
    obtain ⟨b, leads, back⟩ := TransGen.head'_iff.mp loop
    rcases ReflTransGen.cases_head onward with rfl | ⟨c, leads', later⟩
    · obtain rfl := only b leads
      exact absurd (forward _ back) (by decide)
    · obtain rfl := only c leads'
      obtain rfl := forward a later
      exact ended b leads
  have closed : ∀ a ∈ ({listed, listedNext} : Finset String), ∀ b, Linked turning a b →
      b ∈ ({listed, listedNext} : Finset String) := by
    simp only [Finset.mem_insert, Finset.mem_singleton]
    rintro a (rfl | rfl) b leads
    · exact .inr (only b leads)
    · exact absurd leads (ended b)
  have few : ({listed, listedNext} : Finset String).card ≤ pageLimit := Finset.card_le_two.trans (by decide)
  exact ⟨straight, ((listing_ends_iff sendable (Finset.mem_insert_self _ _) closed).1 few).mpr straight⟩

end

end ScanProvisioning.Azure.Management
