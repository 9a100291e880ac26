import ScanProvisioning.Proofs.Azure.Authority

namespace ScanProvisioning.Azure

open Program Identity

/-- A request for a token: its scope, all that was asked for its sake, and how it ended. -/
structure Turn where
  scope : Scope
  events : List (Event host)
  result : Except Failure String

namespace Turn

/-- The request is made while `m` is remembered, and leaves `m'`. -/
def Took (i : Identity) (now : Instant) (m : Memory) (t : Turn) (m' : Memory) : Prop :=
  Completes (Remembers now) (i.token t.scope).run m t.events t.result m'

/-- The authority was contacted. -/
def Contacts (t : Turn) : Prop := exchanges t.events ≠ []

/-- The token that the authority issued in the course of a request. -/
def issued? (t : Turn) : Option IssuedToken :=
  (exchanges t.events).findSome? fun x => (issuedBy t.scope x.2).toOption

end Turn

/-- Requests one after the other, from the time at which nothing is remembered. -/
inductive Session (i : Identity) (now : Instant) : List Turn → Memory → Prop
  | start : Session i now [] fun _ => none
  | next {turns : List Turn} {m : Memory} {t : Turn} {m' : Memory} (earlier : Session i now turns m)
      (took : t.Took i now m m') : Session i now (turns ++ [t]) m'

/-- The last token that the authority issued for a scope. -/
def latest? (turns : List Turn) (scope : Scope) : Option IssuedToken :=
  turns.foldl (fun found t => if t.scope = scope then t.issued?.or found else found) none

/-- No token, or one that does not last longer than the margin. -/
def Due (found : Option IssuedToken) : Prop := ∀ issued, found = some issued → lifetime issued ≤ 300

/-- How a request goes whose scope was last issued a token as given. -/
structure Turn.Regular (i : Identity) (now : Instant) (last : Option IssuedToken) (m : Memory) (t : Turn)
    (m' : Memory) : Prop where
  /-- The authority is contacted exactly if a token is due, unless the credential cannot be read. -/
  contacts : t.Contacts ↔ Due last ∧ ¬ Unreadable t.events
  /-- Without contact, the last token is the answer, or what is wrong with the file; nothing changes. -/
  quiet : ¬ t.Contacts → m' = m ∧
    ((∃ issued, last = some issued ∧ 300 < lifetime issued ∧ t.result = .ok issued.token) ∨
      Due last ∧ ∃ file reason, (⟨.readFile file, .error reason⟩ : Event host) ∈ t.events ∧
        t.result = .error (fileFailure t.scope file reason))
  /-- With contact, it is asked once and for the scope. The answer decides, and only a token changes what is
  remembered, for the scope alone. -/
  asked : t.Contacts → ∃ reply, Asks i t.scope t.events reply ∧
    t.result = (issuedBy t.scope reply).map IssuedToken.token ∧
    (∀ f, issuedBy t.scope reply = .error f → m' = m) ∧
    ∀ issued, issuedBy t.scope reply = .ok issued → m' = Function.update m t.scope (some (kept now issued))

section

variable {i : Identity} {now : Instant} {m m' : Memory} {t : Turn} {earlier : List Turn}

private theorem issued?_of_asks {reply : Except Http.Failure Http.Response}
    (asked : Asks i t.scope t.events reply) :
    t.issued? = (issuedBy t.scope reply).toOption := by
  obtain ⟨tenant, form, request, -, -, -, once⟩ := asked
  simp [Turn.issued?, once]

private theorem issued?_of_quiet (quiet : exchanges t.events = []) : t.issued? = none := by
  rw [Turn.issued?, quiet]
  rfl

/-- A request changes what is remembered exactly by the token that the authority issued in its course. -/
theorem memory_after {result : Except Failure String} (outcome : Outcome i now t.scope m t.events result m')
    (scope : Scope) :
    m' scope = if t.scope = scope then (t.issued?.map (kept now)).or (m scope) else m scope := by
  have unchanged (none : t.issued? = none) :
      m scope = if t.scope = scope then (t.issued?.map (kept now)).or (m scope) else m scope := by
    simp [none]
  cases outcome with
  | reused remembered fresh quiet readable => exact unchanged (issued?_of_quiet quiet)
  | renewed due attempt =>
    cases attempt with
    | unshown quiet unreadable => exact unchanged (issued?_of_quiet quiet)
    | refused readable asked answer =>
      exact unchanged (by rw [issued?_of_asks asked, answer]; rfl)
    | issued readable asked answer =>
      rw [issued?_of_asks asked, answer, keep, Function.update_apply]
      by_cases own : t.scope = scope
      · subst own
        simp [Except.toOption]
      · simp [own, Ne.symm own]

theorem latest?_append (scope : Scope) :
    latest? (earlier ++ [t]) scope =
      if t.scope = scope then t.issued?.or (latest? earlier scope) else latest? earlier scope := by
  simp only [latest?, List.foldl_append, List.foldl_cons, List.foldl_nil]

/-- What is remembered for a scope is the last token that was issued for it. -/
theorem Session.remembers (asks : i.credential.tenant? ≠ none) (session : Session i now earlier m)
    (scope : Scope) : m scope = (latest? earlier scope).map (kept now) := by
  induction session with
  | start => rfl
  | @next turns m t m' earlier took ih =>
    rw [memory_after (token_completes asks took) scope, latest?_append, ih]
    split
    · cases t.issued? <;> rfl
    · rfl

theorem Session.due_iff (asks : i.credential.tenant? ≠ none) (session : Session i now earlier m)
    (scope : Scope) :
    Due (latest? earlier scope) ↔ ∀ t, m scope = some t → t.isFresh now = false := by
  rw [session.remembers asks scope]
  cases latest? earlier scope with
  | none => simp [Due]
  | some issued =>
    have fresh := isFresh_kept now issued
    simp only [Due, Option.map_some, Option.some.injEq, forall_eq', ← Bool.not_eq_true, fresh, UInt64.not_lt]

private theorem contacts_of_asks {reply : Except Http.Failure Http.Response}
    (asked : Asks i t.scope t.events reply) :
    t.Contacts := by
  obtain ⟨tenant, form, request, -, -, -, once⟩ := asked
  simp [Turn.Contacts, once]

/-- For every sequence of requests for tokens while the clock stands still: the authority is contacted, once
and for the scope, exactly if the last token it issued for that scope is missing or does not last longer
than 300 seconds, unless the credential is in a file that cannot be read. A request that is answered
without contact gets the last token of its own scope, and no request that fails changes what is remembered
for either scope. Whatever the file and the authority say, a request ends, as long as the token expires while
the clock has instants. -/
theorem authority_contacted_iff_due (asks : i.credential.tenant? ≠ none) (session : Session i now earlier m) :
    (∀ (t : Turn) (m' : Memory), t.Took i now m m' → t.Regular i now (latest? earlier t.scope) m m') ∧
    ∀ (scope : Scope) (assertion : Except String String) (reply : Except Http.Failure Http.Response),
      (∀ issued, issuedBy scope reply = .ok issued → Fits now issued) →
      ∃ (t : Turn) (m' : Memory), t.scope = scope ∧ t.Took i now m m' ∧
        (∀ file r, (⟨.readFile file, r⟩ : Event host) ∈ t.events → r = assertion) ∧
        ∀ x ∈ exchanges t.events, x.2 = reply := by
  refine ⟨?_, ?_⟩
  · rintro t m' took
    have outcome : Outcome i now t.scope m t.events t.result m' := token_completes asks took
    have due := session.due_iff asks t.scope
    generalize ended : t.result = result at outcome
    cases outcome with
    | @reused cached remembered fresh quiet readable =>
      have none : ¬ t.Contacts := not_not.mpr quiet
      have held := session.remembers asks t.scope
      rw [remembered] at held
      obtain ⟨issued, last, rfl⟩ := Option.map_eq_some_iff.mp held.symm
      have lasting := (isFresh_kept now issued).mp fresh
      have notDue : ¬ Due (latest? earlier t.scope) := fun due => UInt64.not_lt.mpr (due issued last) lasting
      exact ⟨iff_of_false none fun h => notDue h.1, fun _ => ⟨rfl, .inl ⟨issued, last, lasting, ended⟩⟩,
        fun contacts => absurd contacts none⟩
    | renewed stale attempt =>
      have due := due.mpr stale
      cases attempt with
      | @unshown file reason quiet unreadable =>
        have none : ¬ t.Contacts := not_not.mpr quiet
        exact ⟨iff_of_false none fun h => h.2 ⟨file, reason, unreadable⟩,
          fun _ => ⟨rfl, .inr ⟨due, file, reason, unreadable, ended⟩⟩, fun contacts => absurd contacts none⟩
      | @refused f reply readable asked answer =>
        have contacts := contacts_of_asks asked
        refine ⟨iff_of_true contacts ⟨due, readable⟩, fun none => absurd contacts none, fun _ => ?_⟩
        refine ⟨reply, asked, ?_, fun _ _ => rfl, ?_⟩
        · rw [ended, answer]
          rfl
        · rw [answer]
          rintro issued ⟨⟩
      | @issued issued reply readable asked answer =>
        have contacts := contacts_of_asks asked
        refine ⟨iff_of_true contacts ⟨due, readable⟩, fun none => absurd contacts none, fun _ => ?_⟩
        refine ⟨reply, asked, ?_, ?_, ?_⟩
        · rw [ended, answer]
          rfl
        · rw [answer]
          rintro f ⟨⟩
        · rw [answer]
          rintro _ ⟨⟩
          rfl
  · intro scope assertion reply fits
    obtain ⟨result, m', events, run, replies⟩ : ∃ result m',
        Leads (Identity.Gives now assertion reply) (i.token scope).run m result m' := token_leads asks fits m
    obtain ⟨read, exchanged⟩ := answers_given replies
    exact ⟨⟨scope, events, result⟩, m', rfl, ⟨run, replies.mono fun _ _ _ _ answer => answer.1⟩, read,
      exchanged⟩

end

section

/-- A workload whose token is in a file. -/
def workload : Identity := { credential := .federated "tenant" "client" "token-file", timeout := none }

/-- Where the file cannot be read, the authority is not contacted although no token was ever issued. -/
theorem authority_not_contacted :
    ∃ (t : Turn) (m' : Memory), t.Took workload 0 (fun _ => none) m' ∧
      Due (latest? [] t.scope) ∧ ¬ t.Contacts := by
  let looked : List (Event host) := [⟨.tokenFor .management, none⟩,
    ⟨.readFile "token-file", .error "No such file or directory"⟩]
  let failure := fileFailure .management "token-file" "No such file or directory"
  refine ⟨⟨.management, looked, .error failure⟩, fun _ => none, ?_, by simp [Due, latest?], not_not.mpr rfl⟩
  have reads : Completes (Remembers 0) (application (operation .management) .management workload.credential).run
      (fun _ => none) (looked.drop 1) (.error failure) fun _ => none :=
    completes_ask_iff.mpr ⟨.error _, _, [], rfl, rfl, completes_done_iff.mpr ⟨rfl, rfl, rfl⟩⟩
  have fetches : Completes (Remembers 0) (workload.fetch .management).run (fun _ => none) (looked.drop 1)
      (.error failure) fun _ => none := by
    rw [fetch_run]
    exact completes_bind_iff.mpr ⟨_, _, _, [], rfl, reads, completes_done_iff.mpr ⟨rfl, rfl, rfl⟩⟩
  have renews : Completes (Remembers 0) (workload.renew .management).run (fun _ => none) (looked.drop 1)
      (.error failure) fun _ => none :=
    completes_bind_iff.mpr ⟨_, _, _, [], rfl, fetches, completes_done_iff.mpr ⟨rfl, rfl, rfl⟩⟩
  rw [Turn.Took, token_run (by simp [workload, Credential.tenant?])]
  exact completes_ask_iff.mpr ⟨none, _, _, rfl, ⟨rfl, rfl⟩, renews⟩

/-- An application with a secret. -/
def registered : Identity := { credential := .secret "tenant" "client" "secret", timeout := none }

/-- An answer of the authority that does not say how long the token lasts. -/
def issuing : Except Http.Failure Http.Response :=
  .ok { status := 200, headers := [], body := .ok "\x7b\"access_token\":\"tok\"\x7d" }

private theorem issuedBy_issuing : issuedBy .management issuing = .ok ⟨"tok", none⟩ := by
  have answered : (issuedBy .management issuing).toOption.map (fun issued => (issued.token, issued.lifetime)) =
      some ("tok", none) := by decide +kernel
  cases said : issuedBy .management issuing with
  | error f => simp [said, Except.toOption] at answered
  | ok issued =>
    obtain ⟨token, lifetime⟩ := issued
    simp only [said, Except.toOption, Option.map_some, Option.some.injEq, Prod.mk.injEq] at answered
    obtain ⟨rfl, rfl⟩ := answered
    rfl

/-- Of two requests one after the other, the second one is answered with the token of the first. -/
theorem authority_contacted_once :
    ∃ (first second : Turn) (m m' : Memory), first.scope = .management ∧ second.scope = .management ∧
      first.Took registered 0 (fun _ => none) m ∧ second.Took registered 0 m m' ∧
      first.Contacts ∧ ¬ second.Contacts ∧ second.result = .ok "tok" := by
  have asks : registered.credential.tenant? ≠ none := by simp [registered, Credential.tenant?]
  have fits : ∀ issued, issuedBy .management issuing = .ok issued → Fits 0 issued := by
    rw [issuedBy_issuing]
    rintro _ ⟨⟩
    exact (by decide +kernel : Instant.after? 0 (.ofSeconds 3600) = some 3600000000000)
  obtain ⟨regular, possible⟩ := authority_contacted_iff_due asks (.start : Session registered 0 [] _)
  obtain ⟨first, m, managing, took, read, exchanged⟩ := possible .management (.ok "") issuing fits
  have contacts : first.Contacts := by
    refine (regular first m took).contacts.mpr ⟨by simp [Due, latest?], ?_⟩
    rintro ⟨file, reason, mem⟩
    cases read file _ mem
  obtain ⟨reply, asked, -, -, -⟩ := (regular first m took).asked contacts
  have session : Session registered 0 [first] m := .next .start took
  have last : latest? [first] .management = some ⟨"tok", none⟩ := by
    obtain ⟨tenant, form, request, -, -, -, once⟩ := asked
    have same : reply = issuing := exchanged (request, reply) (by simp [once])
    subst same
    simp only [latest?, List.foldl_cons, List.foldl_nil, managing, if_true, Turn.issued?, once]
    simp [issuedBy_issuing, Except.toOption]
  obtain ⟨regular', possible'⟩ := authority_contacted_iff_due asks session
  obtain ⟨second, m', managing', took', -⟩ := possible' .management (.ok "") issuing fits
  have again := regular' second m' took'
  rw [managing', last] at again
  have quiet : ¬ second.Contacts := by
    intro contacts
    exact absurd ((again.contacts.mp contacts).1 _ rfl) (by decide)
  obtain ⟨-, ⟨issued, same, -, ended⟩ | ⟨due, -⟩⟩ := again.quiet quiet
  · cases same
    exact ⟨first, second, m, m', managing, managing', took, took', contacts, quiet, ended⟩
  · exact absurd (due _ rfl) (by decide)

end

end ScanProvisioning.Azure
