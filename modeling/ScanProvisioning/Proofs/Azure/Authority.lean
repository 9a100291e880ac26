import Mathlib.Logic.Function.Basic
import ScanProvisioning.Proofs.Azure.Missing
import ScanProvisioning.Proofs.Http.Url

namespace ScanProvisioning.Azure.Identity

open Program

variable {i : Identity} {scope : Scope}

/-- What a request for a token is about. -/
def operation (scope : Scope) : String := "acquiring " ++ scope.name ++ " token"

/-- The request for a token. -/
def draft (i : Identity) (tenant : String) (form : List (String × String)) : Http.Draft :=
  Http.Draft.form form (Http.Request.draft .post
    ("https://login.microsoftonline.com/" ++ tenant ++ "/oauth2/v2.0/token") i.timeout)

/-- Whatever the tenant and the form are, the request can be built, and goes to the authority. -/
theorem draft_ok (i : Identity) (tenant : String) (form : List (String × String)) :
    ∃ request, i.draft tenant form = .ok request ∧ request.method = .post ∧
      request.url.host = "login.microsoftonline.com" := by
  have bare : Http.Url.Bare "login.microsoftonline.com".toList := .of_all (by decide) (by decide)
  have named : Http.Host.parse? "login.microsoftonline.com".toList = some "login.microsoftonline.com" := by
    decide +kernel
  obtain ⟨url, parsed, -, host⟩ := Http.Url.parse_https bare named (tenant ++ "/oauth2/v2.0/token")
  have written : "https://" ++ "login.microsoftonline.com" ++ "/" ++ (tenant ++ "/oauth2/v2.0/token") =
      "https://login.microsoftonline.com/" ++ tenant ++ "/oauth2/v2.0/token" := by
    rw [← String.append_assoc]
    rfl
  rw [written] at parsed
  refine ⟨{
    method := .post
    url := (Http.Request.splitLogin url).1
    headers := (Http.Request.splitLogin url).2 ++ [("content-type", "application/x-www-form-urlencoded")]
    body := some (Text.formLine form)
    timeout := i.timeout }, ?_, rfl, ?_⟩
  · rw [draft, Http.Request.draft, parsed]
    rfl
  · rw [← host]
    simp only [Http.Request.splitLogin]
    split
    · split <;> rfl
    · rfl

/-- What an answer of the authority comes to. -/
def issuedBy (scope : Scope) : Except Http.Failure Http.Response → Except Failure IssuedToken
  | .error f => .error (.unreachable (operation scope) f.message f.timedOut)
  | .ok response =>
    match response.text with
    | .error f => .error (.unreachable (operation scope) f.message f.timedOut)
    | .ok body =>
      if response.isSuccess then
        match Json.Decoder.ofText IssuedToken.decoder body with
        | .error r => .error (.unreadable (operation scope) r.message)
        | .ok issued => .ok issued
      else .error (tokenRefusal (operation scope) response.status body)

def lifetime (issued : IssuedToken) : UInt64 := issued.lifetime.getD defaultLifetime

/-- What is remembered of an issued token. -/
def kept (now : Instant) (issued : IssuedToken) : CachedToken where
  token := issued.token
  expiresAt := now + (Duration.ofSeconds (lifetime issued)).nanos

/-- The token expires while the clock still has instants. -/
def Fits (now : Instant) (issued : IssuedToken) : Prop :=
  Instant.after? now (.ofSeconds (lifetime issued)) = some (kept now issued).expiresAt

/-- A token lasts as long as it was said to, less the margin. -/
theorem isFresh_kept (now : Instant) (issued : IssuedToken) :
    (kept now issued).isFresh now = true ↔ 300 < lifetime issued := by
  have margin : renewalMargin.nanos = 300000000000 := rfl
  have lasts : (kept now issued).expiresAt = now + (lifetime issued).toNat * 1000000000 := rfl
  have limit : (300 : UInt64).toNat = 300 := rfl
  rw [CachedToken.isFresh, decide_eq_true_eq, margin, lasts, UInt64.lt_iff_toNat_lt, limit]
  exact Nat.add_lt_add_iff_left.trans (by omega)

/-- What is remembered of a token that was issued. -/
theorem fetched {now : Instant} {issued : IssuedToken} {expiresAt : Instant}
    (fits : Instant.after? now (.ofSeconds (lifetime issued)) = some expiresAt) :
    (⟨issued.token, expiresAt⟩ : CachedToken) = kept now issued := by
  unfold Instant.after? at fits
  split at fits
  · cases fits
    rfl
  · cases fits

/-- What becomes of the answer of the authority. -/
def settled (scope : Scope) (reply : Except Http.Failure Http.Response) :
    Program host (Except Failure CachedToken) :=
  match issuedBy scope reply with
  | .error f => .done (.error f)
  | .ok issued =>
    .ask .clock fun now =>
      match Instant.after? now (.ofSeconds (lifetime issued)) with
      | none => .ask .overflow fun impossible => impossible.elim
      | some expiresAt => .done (.ok { token := issued.token, expiresAt })

theorem ask_run {β : Type} (c : Call) (f : c.Reply → Action β) :
    (Action.ask c >>= f).run = Program.ask (I := host) c fun r => (f r).run := rfl

theorem exchange_run {β : Type} {operation : String} {d : Http.Draft} {request : Http.Request}
    (built : d = .ok request) (f : Http.Response → Action β) :
    (Action.exchange operation d >>= f).run = Program.ask (I := host) (.exchange request) fun reply =>
      match reply with
      | .error e => .done (.error (.unreachable operation e.message e.timedOut))
      | .ok response => (f response).run := by
  subst built
  refine congrArg (Program.ask (I := host) (.exchange request)) (funext fun reply => ?_)
  cases reply <;> rfl

/-- Once the credential is shown, the authority is asked, and its answer settles the rest. -/
theorem fetch_run (scope : Scope) :
    (i.fetch scope).run = (application (operation scope) scope i.credential).run >>= fun shown =>
      match shown with
      | .error f => .done (.error f)
      | .ok (tenant, form) =>
        match i.draft tenant form with
        | .error f => .done (.error (.unreachable (operation scope) f.message f.timedOut))
        | .ok request => .ask (.exchange request) (settled scope) := by
  have unfolded {α β : Type} (x : Action α) (f : α → Action β) :
      (x >>= f).run = x.run >>= ExceptT.bindCont f := rfl
  rw [fetch, unfolded]
  congr 1
  funext shown
  obtain f | ⟨tenant, form⟩ := shown
  · rfl
  · obtain ⟨request, built, -⟩ := i.draft_ok tenant form
    simp only [ExceptT.bindCont, built]
    refine (exchange_run built _).trans ?_
    congr 1
    funext reply
    obtain f | response := reply
    · rfl
    · simp only [settled, issuedBy]
      cases response.text with
      | error f => rfl
      | ok body =>
        cases response.isSuccess with
        | false => rfl
        | true =>
          simp only [Bool.not_true, Bool.false_eq_true, if_false, if_true]
          cases Json.Decoder.ofText IssuedToken.decoder body with
          | error r => rfl
          | ok issued =>
            dsimp only
            rw [ask_run]
            refine congrArg (Program.ask (I := host) .clock) (funext fun now => ?_)
            rw [lifetime]
            cases Instant.after? now (.ofSeconds (issued.lifetime.getD defaultLifetime)) with
            | none =>
              dsimp only
              rw [ask_run]
              exact congrArg (Program.ask (I := host) .overflow) (funext fun impossible => impossible.elim)
            | some expiresAt => rfl

/-- What is remembered at some time. -/
abbrev Memory := Scope → Option CachedToken

/-- A host that remembers tokens and whose clock stands still. Files and servers may answer anything. -/
def Remembers (now : Instant) (m : Memory) : (c : Call) → c.Reply → Memory → Prop
  | .clock, r, m' => r = now ∧ m' = m
  | .tokenFor scope, r, m' => r = m scope ∧ m' = m
  | .keepToken scope t, _, m' => m' = Function.update m scope (some t)
  | _, _, m' => m' = m

/-- What was exchanged with servers. -/
def exchanges (es : List (Event host)) : List (Http.Request × Except Http.Failure Http.Response) :=
  es.filterMap fun
    | ⟨.exchange request, reply⟩ => some (request, reply)
    | _ => none

/-- A file could not be read. -/
def Unreadable (es : List (Event host)) : Prop :=
  ∃ file reason, (⟨.readFile file, .error reason⟩ : Event host) ∈ es

/-- The authority was asked for a token of a scope, once, and gave an answer. -/
def Asks (i : Identity) (scope : Scope) (es : List (Event host))
    (reply : Except Http.Failure Http.Response) : Prop :=
  ∃ tenant form request, i.credential.tenant? = some tenant ∧ ("scope", scope.address) ∈ form ∧
    i.draft tenant form = .ok request ∧ exchanges es = [(request, reply)]

section

variable {now : Instant} {m m' : Memory} {es : List (Event host)}

/-- The failure of a request whose credential is in a file that cannot be read. -/
def fileFailure (scope : Scope) (file reason : String) : Failure :=
  .unreadable (operation scope) ("failed to read federated token " ++ file ++ ": " ++ reason)

/-- A credential can be shown unless that takes a file that cannot be read. -/
theorem application_completes (asks : i.credential.tenant? ≠ none)
    {shown : Except Failure (String × List (String × String))}
    (run : Completes (Remembers now) (application (operation scope) scope i.credential).run m es shown m') :
    m' = m ∧ exchanges es = [] ∧
      ((∃ file reason, (⟨.readFile file, .error reason⟩ : Event host) ∈ es ∧
          shown = .error (fileFailure scope file reason)) ∨
        ∃ tenant form, shown = .ok (tenant, form) ∧ i.credential.tenant? = some tenant ∧
          ("scope", scope.address) ∈ form ∧ ¬ Unreadable es) := by
  cases own : i.credential with
  | issued token =>
    rw [own] at asks
    exact absurd rfl asks
  | secret tenant client secret =>
    rw [own] at run
    obtain ⟨rfl, rfl, rfl⟩ := completes_done_iff.mp run
    exact ⟨rfl, rfl, .inr ⟨tenant, _, rfl, rfl, by simp, by simp [Unreadable]⟩⟩
  | federated tenant client file =>
    rw [own] at run
    obtain ⟨reading, u, rest, rfl, rfl, shows⟩ := completes_ask_iff.mp run
    cases reading with
    | error reason =>
      obtain ⟨rfl, rfl, rfl⟩ := completes_done_iff.mp shows
      exact ⟨rfl, rfl, .inl ⟨file, reason, .head _, rfl⟩⟩
    | ok assertion =>
      obtain ⟨rfl, rfl, rfl⟩ := completes_done_iff.mp shows
      exact ⟨rfl, rfl, .inr ⟨tenant, _, rfl, rfl, by simp, by simp [Unreadable]⟩⟩

@[simp] theorem exchanges_append (es more : List (Event host)) :
    exchanges (es ++ more) = exchanges es ++ exchanges more :=
  List.filterMap_append ..

theorem unreadable_append {es more : List (Event host)} :
    Unreadable (es ++ more) ↔ Unreadable es ∨ Unreadable more := by
  simp only [Unreadable, List.mem_append, exists_or]

theorem unreadable_cons {ev : Event host} (other : ∀ file reason, ev ≠ ⟨.readFile file, .error reason⟩) :
    Unreadable (ev :: es) ↔ Unreadable es := by
  simp only [Unreadable, List.mem_cons, fun file reason => (other file reason).symm, false_or]

/-- What becomes of an attempt to fetch a token. -/
inductive Attempt (i : Identity) (now : Instant) (scope : Scope) (es : List (Event host)) :
    Except Failure CachedToken → Prop
  | unshown {file reason : String} (quiet : exchanges es = [])
      (unreadable : (⟨.readFile file, .error reason⟩ : Event host) ∈ es) :
      Attempt i now scope es (.error (fileFailure scope file reason))
  | refused {f : Failure} {reply : Except Http.Failure Http.Response} (readable : ¬ Unreadable es)
      (asked : Asks i scope es reply) (answer : issuedBy scope reply = .error f) :
      Attempt i now scope es (.error f)
  | issued {issued : IssuedToken} {reply : Except Http.Failure Http.Response} (readable : ¬ Unreadable es)
      (asked : Asks i scope es reply) (answer : issuedBy scope reply = .ok issued) :
      Attempt i now scope es (.ok (kept now issued))

theorem fetch_completes (asks : i.credential.tenant? ≠ none) {result : Except Failure CachedToken}
    (run : Completes (Remembers now) (i.fetch scope).run m es result m') :
    m' = m ∧ Attempt i now scope es result := by
  rw [fetch_run] at run
  obtain ⟨shown, u, before, after, rfl, shows, run⟩ := completes_bind_iff.mp run
  obtain ⟨rfl, quiet, ⟨file, reason, unreadable, rfl⟩ | ⟨tenant, form, rfl, named, addressed, readable⟩⟩ :=
    application_completes asks shows
  · obtain ⟨rfl, rfl, rfl⟩ := completes_done_iff.mp run
    rw [List.append_nil]
    exact ⟨rfl, .unshown quiet unreadable⟩
  · obtain ⟨request, built, -⟩ := i.draft_ok tenant form
    simp only [built] at run
    obtain ⟨reply, u, rest, rfl, rfl, settles⟩ := completes_ask_iff.mp run
    have once (rest : List (Event host)) (quiet' : exchanges rest = []) (fine : ¬ Unreadable rest) :
        Asks i scope (before ++ ⟨.exchange request, reply⟩ :: rest) reply ∧
          ¬ Unreadable (before ++ ⟨.exchange request, reply⟩ :: rest) := by
      refine ⟨⟨tenant, form, request, named, addressed, built, ?_⟩, ?_⟩
      · rw [exchanges_append, quiet, List.nil_append]
        exact congrArg _ quiet'
      · rw [unreadable_append, unreadable_cons (by simp)]
        exact not_or.mpr ⟨readable, fine⟩
    rw [settled] at settles
    cases answer : issuedBy scope reply with
    | error f =>
      rw [answer] at settles
      obtain ⟨rfl, rfl, rfl⟩ := completes_done_iff.mp settles
      obtain ⟨asked, fine⟩ := once [] rfl (by simp [Unreadable])
      exact ⟨rfl, .refused fine asked answer⟩
    | ok issued =>
      rw [answer] at settles
      obtain ⟨present, u, rest, rfl, ⟨rfl, rfl⟩, ends⟩ := completes_ask_iff.mp settles
      cases expiry : Instant.after? present (.ofSeconds (lifetime issued)) with
      | none =>
        simp only [expiry] at ends
        obtain ⟨impossible, -⟩ := completes_ask_iff.mp ends
        exact impossible.elim
      | some expiresAt =>
        simp only [expiry] at ends
        obtain ⟨rfl, rfl, rfl⟩ := completes_done_iff.mp ends
        obtain ⟨asked, fine⟩ := once [⟨.clock, present⟩] rfl (by simp [Unreadable])
        rw [fetched expiry]
        exact ⟨rfl, .issued fine asked answer⟩

/-- Only exchanges and readings count. -/
theorem Attempt.among {more : List (Event host)} {result : Except Failure CachedToken}
    (attempt : Attempt i now scope es result) (exchanged : exchanges more = exchanges es)
    (read : ∀ file reason, (⟨.readFile file, .error reason⟩ : Event host) ∈ more ↔
      ⟨.readFile file, .error reason⟩ ∈ es) : Attempt i now scope more result := by
  have same : Unreadable more ↔ Unreadable es := by simp only [Unreadable, read]
  cases attempt with
  | unshown quiet unreadable => exact .unshown (exchanged.trans quiet) ((read _ _).mpr unreadable)
  | refused readable asked answer =>
    rw [Asks, ← exchanged] at asked
    exact .refused (mt same.mp readable) asked answer
  | issued readable asked answer =>
    rw [Asks, ← exchanged] at asked
    exact .issued (mt same.mp readable) asked answer

/-- What is remembered after an attempt to fetch a token. -/
def keep (scope : Scope) (m : Memory) : Except Failure CachedToken → Memory
  | .ok t => Function.update m scope (some t)
  | .error _ => m

theorem renew_completes (asks : i.credential.tenant? ≠ none) {result : Except Failure String}
    (run : Completes (Remembers now) (i.renew scope).run m es result m') :
    ∃ fetched, result = fetched.map CachedToken.token ∧ m' = keep scope m fetched ∧
      Attempt i now scope es fetched := by
  obtain ⟨fetched, u, before, after, rfl, fetches, ends⟩ := completes_bind_iff.mp run
  obtain ⟨rfl, attempt⟩ := fetch_completes asks fetches
  cases fetched with
  | error f =>
    obtain ⟨rfl, rfl, rfl⟩ := completes_done_iff.mp ends
    rw [List.append_nil]
    exact ⟨_, rfl, rfl, attempt⟩
  | ok t =>
    obtain ⟨_, v, rest, rfl, rfl, ends⟩ := completes_ask_iff.mp ends
    obtain ⟨rfl, rfl, rfl⟩ := completes_done_iff.mp ends
    refine ⟨_, rfl, rfl, attempt.among ?_ (by simp)⟩
    rw [exchanges_append]
    exact List.append_nil _

/-- How a request for a token ends, and what is remembered then. -/
inductive Outcome (i : Identity) (now : Instant) (scope : Scope) (m : Memory) (es : List (Event host)) :
    Except Failure String → Memory → Prop
  | reused {t : CachedToken} (remembered : m scope = some t) (fresh : t.isFresh now = true)
      (quiet : exchanges es = []) (readable : ¬ Unreadable es) : Outcome i now scope m es (.ok t.token) m
  | renewed {fetched : Except Failure CachedToken} (due : ∀ t, m scope = some t → t.isFresh now = false)
      (attempt : Attempt i now scope es fetched) :
      Outcome i now scope m es (fetched.map CachedToken.token) (keep scope m fetched)

theorem token_run (asks : i.credential.tenant? ≠ none) :
    (i.token scope).run = Program.ask (I := host) (.tokenFor scope) fun found =>
      Option.elim found (i.renew scope).run fun cached => Program.ask (I := host) .clock fun now =>
        if cached.isFresh now then .done (.ok cached.token) else (i.renew scope).run := by
  have looks : i.token scope = Action.ask (.tokenFor scope) >>= fun found =>
      Option.elim found (i.renew scope) fun cached => Action.ask .clock >>= fun now =>
        if cached.isFresh now then pure cached.token else i.renew scope := by
    rw [token]
    cases own : i.credential with
    | issued token =>
      rw [own] at asks
      exact absurd rfl asks
    | secret tenant client secret | federated tenant client file =>
      refine congrArg (Action.ask (.tokenFor scope) >>= ·) (funext fun found => ?_)
      cases found <;> rfl
  rw [looks, ask_run]
  refine congrArg (Program.ask (I := host) (.tokenFor scope)) (funext fun found => ?_)
  cases found with
  | none => simp only [Option.elim_none]
  | some cached =>
    simp only [Option.elim_some]
    rw [ask_run]
    refine congrArg (Program.ask (I := host) .clock) (funext fun now => ?_)
    cases cached.isFresh now <;> rfl

theorem token_completes (asks : i.credential.tenant? ≠ none) {result : Except Failure String}
    (run : Completes (Remembers now) (i.token scope).run m es result m') :
    Outcome i now scope m es result m' := by
  rw [token_run asks] at run
  obtain ⟨found, u, rest, rfl, ⟨told, rfl⟩, looked⟩ := completes_ask_iff.mp run
  cases found with
  | none =>
    obtain ⟨fetched, rfl, rfl, attempt⟩ := renew_completes asks looked
    exact .renewed (by simp [← told]) (attempt.among rfl (by simp))
  | some cached =>
    obtain ⟨present, v, rest, rfl, ⟨rfl, rfl⟩, timed⟩ := completes_ask_iff.mp looked
    cases fresh : cached.isFresh present with
    | true =>
      simp only [fresh, if_true] at timed
      obtain ⟨rfl, rfl, rfl⟩ := completes_done_iff.mp timed
      exact .reused told.symm fresh rfl (by simp [Unreadable])
    | false =>
      simp only [fresh, Bool.false_eq_true, if_false] at timed
      obtain ⟨fetched, rfl, rfl, attempt⟩ := renew_completes asks timed
      exact .renewed (by simp [← told, fresh]) (attempt.among rfl (by simp))

/-- Such a host whose files all read the same, and whose servers all give the same answer. -/
def Gives (now : Instant) (assertion : Except String String) (reply : Except Http.Failure Http.Response)
    (m : Memory) (c : Call) (r : c.Reply) (m' : Memory) : Prop :=
  Remembers now m c r m' ∧
    match c, r with
    | .readFile _, r => r = assertion
    | .exchange _, r => r = reply
    | _, _ => True

section

variable {assertion : Except String String} {reply : Except Http.Failure Http.Response}

theorem settled_leads (fits : ∀ issued, issuedBy scope reply = .ok issued → Fits now issued) :
    ∃ result, Leads (Gives now assertion reply) (settled scope reply) m result m := by
  rw [settled]
  cases answer : issuedBy scope reply with
  | error f => exact ⟨_, leads_done _ m⟩
  | ok issued =>
    have expiry := fits issued answer
    rw [Fits] at expiry
    refine ⟨.ok (kept now issued), ?_⟩
    refine leads_ask (I := host) (c := .clock) (r := now) ⟨⟨rfl, rfl⟩, trivial⟩ ?_
    simp only [expiry]
    exact leads_done _ m

theorem fetch_leads (asks : i.credential.tenant? ≠ none)
    (fits : ∀ issued, issuedBy scope reply = .ok issued → Fits now issued) :
    ∃ result, Leads (Gives now assertion reply) (i.fetch scope).run m result m := by
  have exchanged (tenant : String) (form : List (String × String)) :
      ∃ result : Except Failure CachedToken, Leads (Gives now assertion reply)
        (match i.draft tenant form with
        | .error f => Program.done (.error (.unreachable (operation scope) f.message f.timedOut))
        | .ok request => Program.ask (I := host) (.exchange request) (settled scope)) m result m := by
    obtain ⟨request, built, -⟩ := i.draft_ok tenant form
    obtain ⟨result, leads⟩ : ∃ result, Leads (Gives now assertion reply) (settled scope reply) m result m :=
      settled_leads fits
    rw [built]
    exact ⟨result, leads_ask (I := host) (c := .exchange request) (r := reply) ⟨rfl, rfl⟩ leads⟩
  rw [fetch_run]
  cases own : i.credential with
  | issued token =>
    rw [own] at asks
    exact absurd rfl asks
  | secret tenant client secret =>
    obtain ⟨result, leads⟩ := exchanged tenant _
    exact ⟨result, leads_bind (leads_done _ m) leads⟩
  | federated tenant client file =>
    cases assertion with
    | error reason =>
      have fails : Leads (Gives now (.error reason) reply)
          (application (operation scope) scope (.federated tenant client file)).run m _ m :=
        leads_ask (I := host) (c := .readFile file) (r := .error reason) ⟨rfl, rfl⟩ (leads_done _ m)
      exact ⟨_, leads_bind fails (leads_done _ m)⟩
    | ok text =>
      have shows : Leads (Gives now (.ok text) reply)
          (application (operation scope) scope (.federated tenant client file)).run m _ m :=
        leads_ask (I := host) (c := .readFile file) (r := .ok text) ⟨rfl, rfl⟩ (leads_done _ m)
      obtain ⟨result, leads⟩ := exchanged tenant _
      exact ⟨result, leads_bind shows leads⟩

/-- A request for a token ends, whatever the file and the authority say, as long as the token expires
while the clock has instants. -/
theorem token_leads (asks : i.credential.tenant? ≠ none)
    (fits : ∀ issued, issuedBy scope reply = .ok issued → Fits now issued) (m : Memory) :
    ∃ result m', Leads (Gives now assertion reply) (i.token scope).run m result m' := by
  have renews : ∃ result m', Leads (Gives now assertion reply) (i.renew scope).run m result m' := by
    obtain ⟨fetched, leads⟩ : ∃ fetched, Leads (Gives now assertion reply) (i.fetch scope).run m fetched m :=
      fetch_leads asks fits
    cases fetched with
    | error f => exact ⟨_, m, leads_bindExcept_error leads⟩
    | ok t =>
      have remembers : Leads (Gives now assertion reply)
          (Action.ask (.keepToken scope t) >>= fun _ => pure t.token : Action String).run m _ _ :=
        leads_ask (I := host) (c := .keepToken scope t) (r := ()) ⟨rfl, trivial⟩ (leads_done _ _)
      exact ⟨_, _, leads_bindExcept leads remembers⟩
  obtain ⟨result, m', leads⟩ := renews
  rw [token_run asks]
  cases found : m scope with
  | none =>
    have looks : Gives now assertion reply m (.tokenFor scope) none m := ⟨⟨found.symm, rfl⟩, trivial⟩
    exact ⟨result, m', leads_ask (I := host) looks leads⟩
  | some cached =>
    have looks : Gives now assertion reply m (.tokenFor scope) (some cached) m := ⟨⟨found.symm, rfl⟩, trivial⟩
    have timed : Gives now assertion reply m .clock now m := ⟨⟨rfl, rfl⟩, trivial⟩
    cases fresh : cached.isFresh now with
    | true =>
      refine ⟨.ok cached.token, m, leads_ask (I := host) looks (leads_ask (I := host) timed ?_)⟩
      simp only [fresh, if_true]
      exact leads_done _ m
    | false =>
      refine ⟨result, m', leads_ask (I := host) looks (leads_ask (I := host) timed ?_)⟩
      simp only [fresh, Bool.false_eq_true, if_false]
      exact leads

end

/-- All that such a host answers. -/
theorem answers_given {assertion : Except String String} {reply : Except Http.Failure Http.Response}
    (replies : Exchanged (Gives now assertion reply) m es m') :
    (∀ file r, (⟨.readFile file, r⟩ : Event host) ∈ es → r = assertion) ∧ ∀ x ∈ exchanges es, x.2 = reply := by
  induction replies with
  | nil => simp [exchanges]
  | @cons m u m' c r es answer others ih =>
    have given := answer.2
    refine ⟨?_, ?_⟩
    · rintro file r' (_ | ⟨_, later⟩)
      · exact given
      · exact ih.1 file r' later
    · cases c with
      | exchange request =>
        rintro x (_ | ⟨_, later⟩)
        · exact given
        · exact ih.2 x later
      | _ => exact ih.2

end

end ScanProvisioning.Azure.Identity
