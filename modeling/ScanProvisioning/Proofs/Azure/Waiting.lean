import ScanProvisioning.Proofs.Azure.LongOperation

namespace ScanProvisioning.Azure

open Program

/-- How long a question takes because it asks to wait. -/
def Call.pause : Call → Nat
  | .wait delay => delay.nanos
  | _ => 0

/-- All the delays of a run, added up, in nanoseconds. -/
def waited : List (Event host) → Nat
  | [] => 0
  | ev :: es => ev.call.pause + waited es

section

variable {α β : Type} {c : Credential} {scope : Scope} {operation : String} {before : List (Event host)}

@[simp] theorem waited_nil : waited [] = 0 := rfl

@[simp] theorem waited_cons (ev : Event host) (es : List (Event host)) :
    waited (ev :: es) = ev.call.pause + waited es := rfl

@[simp] theorem waited_append (es more : List (Event host)) :
    waited (es ++ more) = waited es + waited more := by
  induction es with
  | nil => rw [List.nil_append, waited_nil, Nat.zero_add]
  | cons ev es ih => rw [List.cons_append, waited_cons, waited_cons, ih, Nat.add_assoc]

theorem waited_eq_zero {es : List (Event host)} (prompt : ∀ ev ∈ es, ev.call.pause = 0) : waited es = 0 := by
  induction es with
  | nil => rfl
  | cons ev es ih =>
    obtain ⟨first, rest⟩ := List.forall_mem_cons.mp prompt
    rw [waited_cons, first, ih rest]

private theorem waited_replicate (n : Nat) (es : List (Event host)) :
    waited (List.replicate n es).flatten = n * waited es := by
  induction n with
  | zero => rw [Nat.zero_mul, List.replicate_zero, List.flatten_nil, waited_nil]
  | succ n ih => rw [List.replicate_succ, List.flatten_cons, waited_append, ih, Nat.succ_mul, Nat.add_comm]

/-- The program goes on without delay, whatever it is answered. -/
def Prompt (x : Action α) (before : List (Event host)) : Prop :=
  Guarded recording (fun _ (call : Call) => call.pause = 0) (fun _ _ => True) x.run before

theorem prompt_bind {x : Action α} {f : α → Action β} (first : Prompt x before)
    (rest : ∀ a after, Prompt (f a) after) : Prompt (x >>= f) before := by
  refine guarded_bindExcept (guarded_mono ?_ first)
  rintro after (failure | a) -
  · trivial
  · exact rest a after

theorem prompt_ask {call : Call} {f : call.Reply → Action α} (prompt : call.pause = 0)
    (rest : ∀ r after, Prompt (f r) after) : Prompt (Action.ask call >>= f) before :=
  ⟨prompt, fun r after _ => rest r after⟩

private theorem prompt_exchange {d : Http.Draft} {f : Http.Response → Action α}
    (rest : ∀ response after, Prompt (f response) after) :
    Prompt (Action.exchange operation d >>= f) before := by
  cases d with
  | error f => trivial
  | ok request =>
    refine ⟨rfl, ?_⟩
    rintro (f | response) after -
    · trivial
    · exact rest response after

theorem application_prompt : Prompt (Identity.application operation scope c) before := by
  cases c with
  | issued token | secret tenant client secret => trivial
  | federated tenant client file =>
    refine prompt_ask rfl ?_
    rintro (reason | assertion) after <;> trivial

theorem fetch_prompt : Prompt (c.identity.fetch scope) before := by
  rw [Identity.fetch]
  refine prompt_bind application_prompt ?_
  rintro ⟨tenant, form⟩ earlier
  refine prompt_exchange fun response after => ?_
  cases response.text with
  | error f => trivial
  | ok body =>
    cases response.isSuccess with
    | false => trivial
    | true =>
      simp only [Bool.not_true, Bool.false_eq_true, if_false]
      cases Json.Decoder.ofText IssuedToken.decoder body with
      | error f => trivial
      | ok issued =>
        refine prompt_ask rfl fun now later => ?_
        cases Instant.after? now (.ofSeconds (issued.lifetime.getD Identity.defaultLifetime)) with
        | none => exact prompt_ask rfl fun impossible => impossible.elim
        | some expiresAt => trivial

theorem renew_prompt : Prompt (c.identity.renew scope) before :=
  prompt_bind fetch_prompt fun _ _ => prompt_ask rfl fun _ _ => trivial

theorem token_prompt : Prompt (c.identity.token scope) before := by
  rw [Identity.token]
  cases c with
  | issued token => trivial
  | secret tenant client other | federated tenant client other =>
    dsimp only [Credential.identity]
    refine prompt_ask rfl fun remembered after => ?_
    cases remembered with
    | none => exact renew_prompt
    | some cached =>
      refine prompt_ask rfl fun now later => ?_
      cases cached.isFresh now with
      | true => trivial
      | false => exact renew_prompt

theorem send_prompt {d : Http.Draft} : Prompt (c.send operation scope d) before := by
  rw [Credential.send]
  refine prompt_bind token_prompt fun token after => prompt_ask rfl fun id later => ?_
  refine prompt_exchange fun response last => ?_
  cases response.isSuccess <;> trivial

theorem Prompt.waited {x : Action α} {es : List (Event host)} {e : Option (Except Failure α)}
    (prompt : Prompt x []) (run : Trace x.run es e) : waited es = 0 := by
  refine waited_eq_zero fun ev mem => ?_
  obtain ⟨early, late, rfl⟩ := List.append_of_mem mem
  exact (run.lawful prompt).1 early ev late rfl

end

namespace Management

variable {c : Credential} {operation : String} {w : Watch} {left bound : Nat} {delay : Duration}
  {r : Http.Response} {es : List (Event host)} {e : Option (Except Failure (Option Json))}

/-- The longest delay for which an answer can ask. -/
def longestAsked : Duration := .ofSeconds 18446744073709551615

private theorem nextDelay_le (r : Http.Response) : nextDelay r ≤ longestAsked := by
  obtain ⟨n, -, heeded⟩ | ⟨-, heeded⟩ := heeded_nextDelay r <;> rw [heeded]
  · exact Nat.mul_le_mul_right _ (Nat.le_of_lt_succ n.toNat_lt)
  · decide

/-- Every answer of a run calls for a delay within the bound. -/
def Within (bound : Nat) (es : List (Event host)) : Prop :=
  ∀ request answer, (⟨.exchange request, .ok answer⟩ : Event host) ∈ es → (nextDelay answer).nanos ≤ bound

/-- What follows a look that was answered goes on watching, or asks nothing. -/
theorem trace_watchAfter (run : Trace (watchAfter c operation w left r).run es e) :
    es = [] ∨ Trace (watch c operation w left (nextDelay r)).run es e := by
  obtain ⟨told, -⟩ | ⟨output, told, -⟩ | ⟨f, told, -⟩ := told_cases operation r w
  · rw [watchAfter_running told] at run
    exact .inr run
  · rw [watchAfter_succeeded told] at run
    exact .inl (trace_done_iff.mp run).1
  · rw [watchAfter_failed told] at run
    exact .inl (trace_done_iff.mp run).1

theorem watch_waited (run : Trace (watch c operation w left delay).run es e) (short : delay.nanos ≤ bound)
    (within : Within bound es) : waited es ≤ left * bound := by
  induction left generalizing delay es with
  | zero =>
    obtain ⟨rfl, -⟩ := trace_throw_iff.mp run
    exact Nat.zero_le _
  | succ left ih =>
    rw [watch_succ] at run
    cases run with
    | cut => exact Nat.zero_le _
    | @ask _ _ _ rest _ run =>
      -- The looks that are left, and the delay before the one that is taken now.
      have enough {later : Nat} (le : later ≤ left * bound) : delay.nanos + later ≤ (left + 1) * bound := by
        rw [Nat.succ_mul, Nat.add_comm]
        exact Nat.add_le_add le short
      rw [waited_cons]
      refine enough ?_
      obtain ⟨-, looked⟩ | ⟨f, -, looked⟩ | ⟨answer, asked, others, rfl, looked, run⟩ :=
        trace_bindExcept_iff.mp run
      · rw [send_prompt.waited looked]
        exact Nat.zero_le _
      · rw [send_prompt.waited looked]
        exact Nat.zero_le _
      · rw [waited_append, send_prompt.waited looked, Nat.zero_add]
        rcases trace_watchAfter run with rfl | run
        · exact Nat.zero_le _
        · obtain ⟨request, -, known, -⟩ := trace_send_ok looked
          refine ih run (within request answer (.tail _ (List.mem_append_left _ known))) ?_
          intro request' answer' mem
          exact within request' answer' (.tail _ (List.mem_append_right _ mem))

theorem optionalJson_prompt : Prompt (optionalJson operation r) [] := by
  rw [optionalJson_eq_settle]
  cases readOptionalJson operation r <;> trivial

theorem awaitOperation_waited (run : Trace (awaitOperation c operation r).run es e)
    (short : (nextDelay r).nanos ≤ bound) (within : Within bound es) : waited es ≤ 30 * bound := by
  rw [awaitOperation] at run
  split at run
  · split at run
    · obtain ⟨rfl, -⟩ := trace_done_iff.mp run
      exact Nat.zero_le _
    · exact watch_waited run short within
  · rw [optionalJson_prompt.waited run]
    exact Nat.zero_le _

/-- An operation that is never over is waited for thirty times as long as its answers ask. -/
theorem exists_delayed (r : Http.Response) : ∃ answer : Http.Response, answer.retryAfter = r.retryAfter ∧
    ∃ es, Trace (awaitOperation (.issued "token") "revoking" answer).run es
        (some (.error (stillRunning "revoking"))) ∧
      (∀ request other, (⟨.exchange request, .ok other⟩ : Event host) ∈ es → other = answer) ∧
      waited es = 30 * (nextDelay r).nanos := by
  let hint := r.headers.lookup "retry-after"
  have same : (underWay hint).retryAfter = r.retryAfter := by
    have kept : (underWay hint).headers.lookup "retry-after" = hint := by cases hint <;> rfl
    rw [Http.Response.retryAfter, Http.Response.header?, kept]
    rfl
  obtain ⟨ordered, looked, -, run⟩ := exists_endless hint
  rw [← awaitOperation_eq rfl (names_underWay hint)] at run
  refine ⟨underWay hint, same, _, run, ?_, ?_⟩
  · intro request other mem
    obtain ⟨part, known, mem⟩ := List.mem_flatten.mp mem
    rw [List.eq_of_mem_replicate known] at mem
    simp only [List.mem_cons, List.not_mem_nil, or_false] at mem
    rcases mem with ⟨⟨⟩⟩ | ⟨⟨⟩⟩ | same
    cases same
    rfl
  · rw [waited_replicate, nextDelay, nextDelay, same]
    rfl

/-- The delays of one wait add up to no more than thirty times the longest number of seconds that an answer can
ask for, whatever the answers are. A hint is not shortened: where the service gives no other hints than some, a
bound holds exactly if it has room for thirty delays after each of them. -/
theorem awaitOperation_bounded :
    (∀ (c : Credential) (operation : String) (r : Http.Response) (es : List (Event host))
      (e : Option (Except Failure (Option Json))), Trace (awaitOperation c operation r).run es e →
      waited es ≤ 30 * longestAsked.nanos) ∧
    ∀ (hints : Option Duration → Prop) (bound : Nat),
      (∀ (c : Credential) (operation : String) (r : Http.Response) (es : List (Event host))
        (e : Option (Except Failure (Option Json))), Trace (awaitOperation c operation r).run es e →
        hints r.retryAfter →
        (∀ request answer, (⟨.exchange request, .ok answer⟩ : Event host) ∈ es → hints answer.retryAfter) →
        waited es ≤ bound) ↔
      ∀ r : Http.Response, hints r.retryAfter → 30 * (nextDelay r).nanos ≤ bound := by
  refine ⟨?_, ?_⟩
  · intro c operation r es e run
    exact awaitOperation_waited run (nextDelay_le r) fun _ answer _ => nextDelay_le answer
  · intro hints bound
    constructor
    · intro bounded r hinted
      obtain ⟨answer, same, es, run, only, total⟩ := exists_delayed r
      rw [← total]
      rw [← same] at hinted
      refine bounded _ _ _ es _ run hinted ?_
      intro request other mem
      rw [only request other mem]
      exact hinted
    · intro room c operation r es e run hinted answers
      have each {r : Http.Response} (hinted : hints r.retryAfter) : (nextDelay r).nanos ≤ bound / 30 :=
        (Nat.le_div_iff_mul_le (by decide)).mpr (Nat.mul_comm _ _ ▸ room r hinted)
      have total : waited es ≤ 30 * (bound / 30) :=
        awaitOperation_waited run (each hinted) fun request answer mem => each (answers request answer mem)
      exact total.trans (Nat.mul_div_le bound 30)

end Management

end ScanProvisioning.Azure
