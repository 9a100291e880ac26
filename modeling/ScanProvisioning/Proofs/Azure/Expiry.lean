import ScanProvisioning.Proofs.Azure.Tokens

namespace ScanProvisioning.Azure.Identity

open Program

section

variable {i : Identity} {scope : Scope} {now : Instant} {m m' : Memory} {issued : IssuedToken}
  {assertion : String} {reply : Except Http.Failure Http.Response}

/-- The instants of a clock end before 2^63 seconds. -/
theorem fits_iff :
    Fits now issued ↔ now / 1000000000 + (lifetime issued).toNat < 9223372036854775808 := by
  have seconds : (now + (Duration.ofSeconds (lifetime issued)).nanos) / 1000000000 =
      now / 1000000000 + (lifetime issued).toNat :=
    Nat.add_mul_div_right now (lifetime issued).toNat (by decide)
  rw [Fits, Instant.after?, seconds, Option.ite_none_right_eq_some]
  exact and_iff_left rfl

/-- What follows an answer that issues a token: its expiry is reckoned, or there is no way on. -/
theorem settled_leads_iff (issues : issuedBy scope reply = .ok issued) {result : Except Failure CachedToken} :
    Leads (Gives now (.ok assertion) reply) (settled scope reply) m result m' ↔
      Fits now issued ∧ result = .ok (kept now issued) ∧ m' = m := by
  rw [settled, issues, leads_ask_iff]
  constructor
  · rintro ⟨present, u, ⟨⟨rfl, rfl⟩, -⟩, ends⟩
    cases expiry : Instant.after? present (.ofSeconds (lifetime issued)) with
    | none =>
      simp only [expiry] at ends
      obtain ⟨impossible, -⟩ := leads_ask_iff.mp ends
      exact impossible.elim
    | some expiresAt =>
      simp only [expiry] at ends
      obtain ⟨rfl, rfl⟩ := leads_done_iff.mp ends
      have kept := fetched expiry
      refine ⟨?_, by rw [kept], rfl⟩
      rw [Fits, expiry, ← kept]
  · rintro ⟨fits, rfl, rfl⟩
    rw [Fits] at fits
    refine ⟨now, _, ⟨⟨rfl, rfl⟩, trivial⟩, ?_⟩
    simp only [fits]
    exact leads_done _ _

/-- A credential whose file can be read is shown. -/
theorem application_leads (asks : i.credential.tenant? ≠ none) :
    ∃ tenant form,
      Leads (Gives now (.ok assertion) reply) (application (operation scope) scope i.credential).run m
        (.ok (tenant, form)) m ∧
      ∀ shown m', Leads (Gives now (.ok assertion) reply)
        (application (operation scope) scope i.credential).run m shown m' → shown = .ok (tenant, form) ∧
          m' = m := by
  cases own : i.credential with
  | issued token =>
    rw [own] at asks
    exact absurd rfl asks
  | secret tenant client secret => exact ⟨tenant, _, leads_done _ m, fun shown m' => leads_done_iff.mp⟩
  | federated tenant client file =>
    have reads : Gives now (.ok assertion) reply m (.readFile file) (.ok assertion) m := ⟨rfl, rfl⟩
    refine ⟨tenant, _, leads_ask (I := host) reads (leads_done _ m), ?_⟩
    intro shown m' run
    obtain ⟨reading, u, ⟨rfl, rfl⟩, shows⟩ := leads_ask_iff.mp run
    exact leads_done_iff.mp shows

theorem fetch_leads_iff (asks : i.credential.tenant? ≠ none) (issues : issuedBy scope reply = .ok issued)
    {result : Except Failure CachedToken} :
    Leads (Gives now (.ok assertion) reply) (i.fetch scope).run m result m' ↔
      Fits now issued ∧ result = .ok (kept now issued) ∧ m' = m := by
  obtain ⟨tenant, form, shown, only⟩ := application_leads asks
  obtain ⟨request, built, -⟩ := i.draft_ok tenant form
  rw [fetch_run, leads_bind_iff]
  constructor
  · rintro ⟨_, u, first, rest⟩
    obtain ⟨rfl, rfl⟩ := only _ u first
    simp only [built] at rest
    obtain ⟨r, v, ⟨rfl, rfl⟩, ends⟩ := leads_ask_iff.mp rest
    exact (settled_leads_iff issues).mp ends
  · intro ends
    refine ⟨_, m, shown, ?_⟩
    simp only [built]
    exact leads_ask (I := host) (c := .exchange request) (r := reply) ⟨rfl, rfl⟩
      ((settled_leads_iff issues).mpr ends)

theorem renew_leads_iff (asks : i.credential.tenant? ≠ none) (issues : issuedBy scope reply = .ok issued)
    {result : Except Failure String} :
    Leads (Gives now (.ok assertion) reply) (i.renew scope).run m result m' ↔
      Fits now issued ∧ result = .ok issued.token ∧
        m' = Function.update m scope (some (kept now issued)) := by
  have unfolded : (i.renew scope).run = (i.fetch scope).run >>= ExceptT.bindCont fun fetched =>
      Action.ask (.keepToken scope fetched) >>= fun _ => pure fetched.token := rfl
  rw [unfolded, leads_bind_iff]
  constructor
  · rintro ⟨fetched, u, first, rest⟩
    obtain ⟨fits, rfl, rfl⟩ := (fetch_leads_iff asks issues).mp first
    obtain ⟨_, v, ⟨remembers, -⟩, ends⟩ := leads_ask_iff.mp rest
    obtain ⟨rfl, rfl⟩ := leads_done_iff.mp ends
    exact ⟨fits, rfl, remembers⟩
  · rintro ⟨fits, rfl, rfl⟩
    refine ⟨_, m, (fetch_leads_iff asks issues).mpr ⟨fits, rfl, rfl⟩, ?_⟩
    exact leads_ask (I := host) (c := .keepToken scope (kept now issued)) (r := ()) ⟨rfl, trivial⟩
      (leads_done _ _)

/-- Where no remembered token is fresh, a request for one is a request for a new one. -/
theorem token_leads_iff_renew (asks : i.credential.tenant? ≠ none)
    (due : ∀ t, m scope = some t → t.isFresh now = false) {result : Except Failure String} :
    Leads (Gives now (.ok assertion) reply) (i.token scope).run m result m' ↔
      Leads (Gives now (.ok assertion) reply) (i.renew scope).run m result m' := by
  rw [token_run asks, leads_ask_iff]
  constructor
  · rintro ⟨_, u, ⟨⟨rfl, rfl⟩, -⟩, looked⟩
    cases found : u scope with
    | none =>
      rw [found] at looked
      exact looked
    | some cached =>
      rw [found] at looked
      obtain ⟨_, v, ⟨⟨rfl, rfl⟩, -⟩, timed⟩ := leads_ask_iff.mp looked
      simpa only [due cached found, Bool.false_eq_true, if_false] using timed
  · intro renews
    refine ⟨m scope, m, ⟨⟨rfl, rfl⟩, trivial⟩, ?_⟩
    cases found : m scope with
    | none => exact renews
    | some cached =>
      refine leads_ask_iff.mpr ⟨now, m, ⟨⟨rfl, rfl⟩, trivial⟩, ?_⟩
      simpa only [due cached found, Bool.false_eq_true, if_false] using renews

private theorem issuedBy_of_decoded {response : Http.Response} {body : String}
    (success : response.isSuccess = true)
    (arrived : response.text = .ok body)
    (decoded : Json.Decoder.ofText IssuedToken.decoder body = .ok issued) :
    issuedBy scope (.ok response) = .ok issued := by
  simp only [issuedBy, arrived, success, if_true, decoded]

/-- For every successful answer of the authority that reads as a token, whatever its lifetime is: fetching it
returns the token exactly if the whole seconds on the clock and those of the lifetime stay below 2^63, and
returns nothing else, neither a failure nor another token. A request for a token of that scope, where none that
is remembered is fresh, returns it exactly then too, and only then remembers it. -/
theorem token_obtained_iff {response : Http.Response} {body : String} (asks : i.credential.tenant? ≠ none)
    (success : response.isSuccess = true) (arrived : response.text = .ok body)
    (decoded : Json.Decoder.ofText IssuedToken.decoder body = .ok issued) (scope : Scope) (now : Instant)
    (assertion : String) (m : Memory) :
    (∀ result m', Leads (Gives now (.ok assertion) (.ok response)) (i.fetch scope).run m result m' ↔
      now / 1000000000 + (lifetime issued).toNat < 9223372036854775808 ∧
        result = .ok (kept now issued) ∧ m' = m) ∧
    ((∀ t, m scope = some t → t.isFresh now = false) →
      ∀ result m', Leads (Gives now (.ok assertion) (.ok response)) (i.token scope).run m result m' ↔
        now / 1000000000 + (lifetime issued).toNat < 9223372036854775808 ∧
          result = .ok issued.token ∧ m' = Function.update m scope (some (kept now issued))) := by
  have issues : issuedBy scope (.ok response) = .ok issued := issuedBy_of_decoded success arrived decoded
  rw [← fits_iff]
  refine ⟨fun result m' => fetch_leads_iff asks issues, ?_⟩
  intro due result m'
  rw [token_leads_iff_renew asks due, renew_leads_iff asks issues]

end

section

/-- What the authority says of a token that lasts so many seconds. -/
def lastingBody (seconds : String) : String :=
  "\x7b\"access_token\":\"tok\",\"expires_in\":" ++ seconds ++ "\x7d"

def lasting (seconds : String) : Http.Response where
  status := 200
  headers := []
  body := .ok (lastingBody seconds)

private theorem decoded_lasting (seconds : String) (n : UInt64)
    (read : (Json.Decoder.ofText IssuedToken.decoder (lastingBody seconds)).toOption.map
      (fun issued => (issued.token, issued.lifetime)) = some ("tok", some n)) :
    Json.Decoder.ofText IssuedToken.decoder (lastingBody seconds) = .ok ⟨"tok", some n⟩ := by
  cases said : Json.Decoder.ofText IssuedToken.decoder (lastingBody seconds) with
  | error f => simp [said, Except.toOption] at read
  | ok issued =>
    obtain ⟨token, lifetime⟩ := issued
    simp only [said, Except.toOption, Option.map_some, Option.some.injEq, Prod.mk.injEq] at read
    obtain ⟨rfl, rfl⟩ := read
    rfl

private theorem asks_registered : registered.credential.tenant? ≠ none := by
  simp [registered, Credential.tenant?]

/-- The longest lifetime of all fits while the clock shows its first second, and no longer. -/
theorem token_obtained_iff_first_second :
    (lasting "9223372036854775807").isSuccess = true ∧
    (∃ m', Leads (Gives 999999999 (.ok "") (.ok (lasting "9223372036854775807")))
      (registered.token .management).run (fun _ => none) (.ok "tok") m') ∧
    ∀ result m', ¬ Leads (Gives 1000000000 (.ok "") (.ok (lasting "9223372036854775807")))
      (registered.token .management).run (fun _ => none) result m' := by
  have decoded := decoded_lasting "9223372036854775807" 9223372036854775807 (by decide +kernel)
  have arrived : (lasting "9223372036854775807").text = .ok (lastingBody "9223372036854775807") := rfl
  have nothing (now : Instant) (t : CachedToken) (found : none = some t) : t.isFresh now = false :=
    nomatch found
  have obtained := token_obtained_iff asks_registered rfl arrived decoded .management
  have first := (obtained 999999999 "" fun _ => none).2 (nothing _)
  have second := (obtained 1000000000 "" fun _ => none).2 (nothing _)
  refine ⟨rfl, ⟨_, (first _ _).mpr ⟨by decide, rfl, rfl⟩⟩, ?_⟩
  intro result m' leads
  exact absurd ((second result m').mp leads).1 (by decide)

/-- A token that is said to last 2^64 - 1 seconds is never obtained, whatever the clock shows. -/
theorem longest_not_obtained :
    ∃ (response : Http.Response) (body : String) (issued : IssuedToken),
      response.isSuccess = true ∧ response.text = .ok body ∧
      Json.Decoder.ofText IssuedToken.decoder body = .ok issued ∧
      ∀ (now : Instant) (assertion : String) (m : Memory) (result : Except Failure CachedToken) (m' : Memory),
        ¬ Leads (Gives now (.ok assertion) (.ok response)) (registered.fetch .management).run m result m' := by
  have decoded := decoded_lasting "18446744073709551615" 18446744073709551615 (by decide +kernel)
  have arrived : (lasting "18446744073709551615").text = .ok (lastingBody "18446744073709551615") := rfl
  refine ⟨lasting "18446744073709551615", _, _, rfl, arrived, decoded, ?_⟩
  intro now assertion m result m' leads
  obtain ⟨fits, -⟩ := (fetch_leads_iff asks_registered (issuedBy_of_decoded rfl arrived decoded)).mp leads
  have before : now / 1000000000 + 18446744073709551615 < 9223372036854775808 := fits_iff.mp fits
  exact absurd (Nat.lt_of_le_of_lt (Nat.le_add_left _ _) before) (by decide)

end

end ScanProvisioning.Azure.Identity
