import ScanProvisioning.Proofs.Azure.Requests
import ScanProvisioning.Proofs.Text.Decimal

namespace ScanProvisioning.Azure.Management

open Program

variable {c : Credential} {operation path action version : String} {body : Json} {w : Watch} {left : Nat}
  {delay : Duration} {r : Http.Response} {es later sent : List (Event host)}
  {result : Except Failure (Option Json)}

/-- An answer asks to wait for that many seconds. -/
def Asks (r : Http.Response) (seconds : Nat) : Prop :=
  ∃ text, r.header? "retry-after" = some text ∧ Text.Spells text seconds

/-- How long is waited after an answer: as long as it asks for, where that is a number of 64 bits, and two
seconds otherwise. -/
def Heeded (r : Http.Response) (delay : Duration) : Prop :=
  (∃ n : UInt64, Asks r n.toNat ∧ delay = .ofSeconds n) ∨
    (¬ ∃ n : UInt64, Asks r n.toNat) ∧ delay = .ofSeconds 2

theorem heeded_nextDelay (r : Http.Response) : Heeded r (nextDelay r) := by
  have asked (n : UInt64) :
      (r.header? "retry-after").bind (fun v => Text.uint64? (Text.trim v)) = some n ↔ Asks r n.toNat := by
    simp only [Option.bind_eq_some_iff, Text.uint64?_trim_iff, Asks]
  rw [nextDelay, Http.Response.retryAfter]
  cases hint : (r.header? "retry-after").bind fun v => Text.uint64? (Text.trim v) with
  | some n => exact .inl ⟨n, (asked n).mp hint, rfl⟩
  | none =>
    refine .inr ⟨?_, rfl⟩
    rintro ⟨n, asks⟩
    rw [(asked n).mpr asks] at hint
    cases hint

/-- The output of an operation that reports success. -/
def outputOf (report : Json) : Option Json :=
  (report.at? ["properties", "output"]).or (report.get? "properties")

/-- The failure of an operation that reports that it failed or was canceled. -/
def failureOf (operation status : String) (report : Json) : Failure :=
  .refusal operation 500 (report.stringAt? ["error", "code"])
    ((report.stringAt? ["error", "message"]).getD status)

/-- The failure of a wait that no look has ended. -/
def stillRunning (operation : String) : Failure :=
  .unreachable operation ("operation still running after " ++ toString (30 : Nat) ++ " status polls") true

/-- What an answer to a look decides. -/
inductive Decides (operation : String) :
    Watch → Except Failure Http.Response → Except Failure (Option Json) → Prop
  /-- There is no answer, or one with an error status. -/
  | failed (w : Watch) (f : Failure) : Decides operation w (.error f) (.error f)
  | unreadable {address : String} {r : Http.Response} {f : Http.Failure} (read : r.json = .error f) :
      Decides operation (.report address) (.ok r) (.error (.unreadable operation f.message))
  | unstated {address : String} {r : Http.Response} {report : Json} (read : r.json = .ok report)
      (status : report.string? "status" = none) :
      Decides operation (.report address) (.ok r) (.error (.unreadable operation "operation status missing"))
  | succeeded {address : String} {r : Http.Response} {report : Json} (read : r.json = .ok report)
      (status : report.string? "status" = some "Succeeded") :
      Decides operation (.report address) (.ok r) (.ok (outputOf report))
  | ended {address status : String} {r : Http.Response} {report : Json} (read : r.json = .ok report)
      (stated : report.string? "status" = some status) (bad : status = "Failed" ∨ status = "Canceled") :
      Decides operation (.report address) (.ok r) (.error (failureOf operation status report))
  | lost {address : String} {r : Http.Response} {f : Http.Failure} (past : r.status ≠ 202)
      (came : r.text = .error f) :
      Decides operation (.result address) (.ok r) (.error (.unreachable operation f.message f.timedOut))
  | blank {address text : String} {r : Http.Response} (past : r.status ≠ 202) (came : r.text = .ok text)
      (blank : Text.trim text = "") : Decides operation (.result address) (.ok r) (.ok none)
  | described {address text : String} {r : Http.Response} {v : Json} (past : r.status ≠ 202)
      (came : r.text = .ok text) (full : Text.trim text ≠ "") (read : Json.ofText text = .ok v) :
      Decides operation (.result address) (.ok r) (.ok (some v))
  | garbled {address text : String} {r : Http.Response} {fault : Json.Fault} (past : r.status ≠ 202)
      (came : r.text = .ok text) (full : Text.trim text ≠ "") (read : Json.ofText text = .error fault) :
      Decides operation (.result address) (.ok r) (.error (.unreadable operation fault.message))

/-- An answer that leaves open how the operation ends. -/
inductive Undecided : Watch → Http.Response → Prop
  | report {address status : String} {r : Http.Response} {report : Json} (read : r.json = .ok report)
      (stated : report.string? "status" = some status)
      (other : status ∉ ["Succeeded", "Failed", "Canceled"]) : Undecided (.report address) r
  | result {address : String} {r : Http.Response} (accepted : r.status = 202) : Undecided (.result address) r

/-- One look at a long operation: how long was waited before it, all that was asked for its sake, and what the
request came to. -/
structure Poll where
  delay : Duration
  asked : List (Event host)
  answer : Except Failure Http.Response

def Poll.events (p : Poll) : List (Event host) := ⟨.wait p.delay, ()⟩ :: p.asked

/-- What is asked for a look is what a request for its address asks for. It is not sent, for want of a token or
of an address that can be asked, or sent once. -/
structure Poll.Took (c : Credential) (operation address : String) (p : Poll) : Prop where
  run : Trace (c.send operation .management (draft .get address)).run p.asked (some p.answer)
  once : (∀ ev ∈ p.asked, ForToken c ev.call) ∧ (∃ f, p.answer = .error f) ∨
    ∃ early request reply, p.asked = early ++ [⟨.exchange request, reply⟩] ∧
      (∀ ev ∈ early, ForToken c ev.call) ∧ Aims (draft .get address) request ∧
      p.answer = answered operation .management reply

/-- A look that leaves open how the operation ends. -/
def Poll.Open (w : Watch) (p : Poll) : Prop := ∃ r, p.answer = .ok r ∧ Undecided w r

/-- Before each look passes the delay for which the answer before it calls. -/
def Paced (calls : Http.Response → Duration → Prop) : Http.Response → List Poll → Prop
  | _, [] => True
  | r, p :: rest => calls r p.delay ∧ ∀ answer, p.answer = .ok answer → Paced calls answer rest

/-- How an operation is waited for that `r` has accepted and that is watched as `w` says: the first look that
decides ends the wait, and thirty that do not decide end it too. -/
structure Waited (calls : Http.Response → Duration → Prop) (c : Credential) (operation : String)
    (r : Http.Response) (w : Watch) (polls : List Poll) (later : List (Event host))
    (result : Except Failure (Option Json)) : Prop where
  events : later = polls.flatMap Poll.events
  took : ∀ p ∈ polls, p.Took c operation w.address
  paced : Paced calls r polls
  short : polls.length ≤ 30
  undecided : ∀ p ∈ polls.dropLast, p.Open w
  ends : (∃ p, polls.getLast? = some p ∧ Decides operation w p.answer result) ∨
    polls.length = 30 ∧ (∀ p ∈ polls, p.Open w) ∧ result = .error (stillRunning operation)

section

/-- The JSON of a body that may be blank. -/
def readOptionalJson (operation : String) (r : Http.Response) : Except Failure (Option Json) :=
  match r.text with
  | .error f => .error (.unreachable operation f.message f.timedOut)
  | .ok text =>
    if Text.trim text = "" then .ok none
    else
      match Json.ofText text with
      | .ok v => .ok (some v)
      | .error f => .error (.unreadable operation f.message)

theorem optionalJson_eq_settle (operation : String) (r : Http.Response) :
    optionalJson operation r = Action.settle (readOptionalJson operation r) := by
  unfold optionalJson readOptionalJson
  cases r.text with
  | error f => rfl
  | ok text =>
    dsimp only
    split
    · rfl
    · cases Json.ofText text <;> rfl

/-- What a response to a look tells of the operation. -/
def told (operation : String) (r : Http.Response) : Watch → Except Failure Progress
  | .report _ => readJson operation r >>= progressOf operation
  | .result _ => if r.status = 202 then .ok .running else (readOptionalJson operation r).map .succeeded

theorem progress_eq_settle (operation : String) (r : Http.Response) (w : Watch) :
    w.progress operation r = Action.settle (told operation r w) := by
  cases w with
  | report address =>
    rw [Watch.progress, json_eq_settle, told]
    cases readJson operation r <;> rfl
  | result address =>
    rw [Watch.progress, optionalJson_eq_settle, told]
    split
    · rfl
    · cases readOptionalJson operation r <;> rfl

/-- An answer that is no success, a response that tells of a failure, and one that tells of success decide. -/
theorem Decides.of_report {address : String} {report : Json} (read : r.json = .ok report) :
    (progressOf operation report = .ok .running ∧ Undecided (.report address) r) ∨
    (∃ output, progressOf operation report = .ok (.succeeded output) ∧
      Decides operation (.report address) (.ok r) (.ok output)) ∨
    ∃ f, progressOf operation report = .error f ∧ Decides operation (.report address) (.ok r) (.error f) := by
  rw [progressOf]
  cases status : report.string? "status" with
  | none => exact .inr (.inr ⟨_, rfl, .unstated read status⟩)
  | some status' =>
    by_cases success : status' = "Succeeded"
    · subst success
      refine .inr (.inl ⟨outputOf report, ?_, .succeeded read status⟩)
      rw [outputOf]
      cases report.at? ["properties", "output"] <;> rfl
    · by_cases bad : status' = "Failed" ∨ status' = "Canceled"
      · refine .inr (.inr ⟨failureOf operation status' report, ?_, .ended read status bad⟩)
        simp only [if_pos bad]
        rfl
      · refine .inl ⟨?_, .report read status (by simpa [success] using bad)⟩
        simp only [if_neg bad]

/-- Every response leaves open how the operation ends, or decides it. -/
theorem told_cases (operation : String) (r : Http.Response) (w : Watch) :
    (told operation r w = .ok .running ∧ Undecided w r) ∨
    (∃ output, told operation r w = .ok (.succeeded output) ∧ Decides operation w (.ok r) (.ok output)) ∨
    ∃ f, told operation r w = .error f ∧ Decides operation w (.ok r) (.error f) := by
  cases w with
  | report address =>
    rw [told, readJson]
    cases read : r.json with
    | error f => exact .inr (.inr ⟨_, rfl, .unreadable read⟩)
    | ok report => exact Decides.of_report read
  | result address =>
    rw [told]
    by_cases accepted : r.status = 202
    · rw [if_pos accepted]
      exact .inl ⟨rfl, .result accepted⟩
    · rw [if_neg accepted, readOptionalJson]
      cases text : r.text with
      | error f => exact .inr (.inr ⟨_, rfl, .lost accepted text⟩)
      | ok s =>
        dsimp only
        by_cases blank : Text.trim s = ""
        · rw [if_pos blank]
          exact .inr (.inl ⟨_, rfl, .blank accepted text blank⟩)
        · rw [if_neg blank]
          cases read : Json.ofText s with
          | ok v => exact .inr (.inl ⟨_, rfl, .described accepted text blank read⟩)
          | error fault => exact .inr (.inr ⟨_, rfl, .garbled accepted text blank read⟩)

/-- The looks of a wait, from the first to the one that ends it. -/
inductive Course (c : Credential) (operation : String) (w : Watch) :
    Nat → Duration → List Poll → Except Failure (Option Json) → Prop
  | exhausted (delay : Duration) : Course c operation w 0 delay [] (.error (stillRunning operation))
  | settled {left : Nat} {delay : Duration} {p : Poll} {result : Except Failure (Option Json)}
      (waited : p.delay = delay) (took : p.Took c operation w.address)
      (decides : Decides operation w p.answer result) : Course c operation w (left + 1) delay [p] result
  | goesOn {left : Nat} {delay : Duration} {p : Poll} {polls : List Poll} {r : Http.Response}
      {result : Except Failure (Option Json)} (waited : p.delay = delay) (took : p.Took c operation w.address)
      (answer : p.answer = .ok r) (undecided : Undecided w r)
      (rest : Course c operation w left (nextDelay r) polls result) :
      Course c operation w (left + 1) delay (p :: polls) result

theorem Poll.took_of_trace {answer : Except Failure Http.Response} {address : String}
    (run : Trace (c.send operation .management (draft .get address)).run es (some answer)) :
    Poll.Took c operation address ⟨delay, es, answer⟩ :=
  ⟨run, trace_send run⟩

/-- What follows a look that has been answered. -/
def watchAfter (c : Credential) (operation : String) (w : Watch) (left : Nat) (r : Http.Response) :
    Action (Option Json) := do
  match ← w.progress operation r with
  | .succeeded output => return output
  | .running => watch c operation w left (nextDelay r)

theorem watch_succ : watch c operation w (left + 1) delay =
    (Action.ask (.wait delay) >>= fun _ =>
      c.send operation .management (draft .get w.address) >>= watchAfter c operation w left) := rfl

theorem watchAfter_running (told : told operation r w = .ok .running) :
    watchAfter c operation w left r = watch c operation w left (nextDelay r) := by
  rw [watchAfter, progress_eq_settle, told]
  rfl

theorem watchAfter_succeeded {output : Option Json} (told : told operation r w = .ok (.succeeded output)) :
    watchAfter c operation w left r = ExceptT.mk (pure (.ok output)) := by
  rw [watchAfter, progress_eq_settle, told]
  rfl

theorem watchAfter_failed {f : Failure} (told : told operation r w = .error f) :
    watchAfter c operation w left r = ExceptT.mk (pure (.error f)) := by
  rw [watchAfter, progress_eq_settle, told]
  rfl

/-- A wait that ends has gone through a course of looks. -/
theorem course_of_trace (run : Trace (watch c operation w left delay).run es (some result)) :
    ∃ polls, Course c operation w left delay polls result ∧ es = polls.flatMap Poll.events := by
  induction left generalizing delay es with
  | zero =>
    cases run
    exact ⟨[], .exhausted delay, rfl⟩
  | succ left ih =>
    rw [watch_succ] at run
    cases run with
    | ask waited run =>
      obtain ⟨⟨⟩, -⟩ | ⟨f, same, looked⟩ | ⟨r, asked, rest, rfl, looked, run⟩ := trace_bindExcept_iff.mp run
      · cases same
        have took : Poll.Took c operation w.address ⟨delay, _, .error f⟩ := Poll.took_of_trace looked
        exact ⟨[_], .settled rfl took (.failed w f), (List.append_nil _).symm⟩
      · have took : Poll.Took c operation w.address ⟨delay, asked, .ok r⟩ := Poll.took_of_trace looked
        obtain ⟨told, undecided⟩ | ⟨output, told, decides⟩ | ⟨f, told, decides⟩ := told_cases operation r w
        · rw [watchAfter_running told] at run
          obtain ⟨polls, course, rfl⟩ := ih run
          exact ⟨_ :: polls, .goesOn rfl took rfl undecided course, rfl⟩
        · rw [watchAfter_succeeded told] at run
          cases run
          exact ⟨[_], .settled rfl took decides, rfl⟩
        · rw [watchAfter_failed told] at run
          cases run
          exact ⟨[_], .settled rfl took decides, rfl⟩

/-- A look that is answered, and what follows it. -/
theorem trace_watch_succ (delay : Duration)
    (looked : Trace (c.send operation .management (draft .get w.address)).run es (some (.ok r)))
    (rest : Trace (watchAfter c operation w left r).run later (some result)) :
    Trace (watch c operation w (left + 1) delay).run (⟨.wait delay, ()⟩ :: (es ++ later)) (some result) := by
  rw [watch_succ]
  refine .ask (I := host) (c := .wait delay) () ?_
  exact trace_bindExcept_iff.mpr (.inr (.inr ⟨r, es, later, rfl, looked, rest⟩))

/-- Whatever the looks come to that are taken one after the other, the wait ends with one of them. -/
theorem exists_course (looks : Nat → List (Event host) × Except Failure Http.Response)
    (took : ∀ i, Trace (c.send operation .management (draft .get w.address)).run (looks i).1
      (some (looks i).2)) (delay : Duration) :
    ∃ polls result, Course c operation w left delay polls result ∧
      polls.map (fun p => (p.asked, p.answer)) = (List.range polls.length).map looks ∧
      Trace (watch c operation w left delay).run (polls.flatMap Poll.events) (some result) := by
  induction left generalizing looks delay with
  | zero => exact ⟨[], _, .exhausted delay, rfl, .done _⟩
  | succ left ih =>
    let p : Poll := ⟨delay, (looks 0).1, (looks 0).2⟩
    have looked : p.Took c operation w.address := Poll.took_of_trace (took 0)
    have run := looked.run
    -- A look that decides is the last one.
    have last {result : Except Failure (Option Json)} (decides : Decides operation w p.answer result)
        (run : Trace (watch c operation w (left + 1) delay).run (p.events ++ []) (some result)) :
        ∃ polls result, Course c operation w (left + 1) delay polls result ∧
          polls.map (fun p => (p.asked, p.answer)) = (List.range polls.length).map looks ∧
          Trace (watch c operation w (left + 1) delay).run (polls.flatMap Poll.events) (some result) := by
      refine ⟨[p], result, .settled rfl looked decides, rfl, ?_⟩
      rw [List.flatMap_singleton, ← List.append_nil p.events]
      exact run
    cases answer : p.answer with
    | error f =>
      rw [answer] at run
      have decides : Decides operation w p.answer (.error f) := answer ▸ .failed w f
      refine last decides ?_
      rw [List.append_nil, watch_succ]
      refine .ask (I := host) (c := .wait delay) () ?_
      exact trace_bindExcept_iff.mpr (.inr (.inl ⟨f, rfl, run⟩))
    | ok r =>
      rw [answer] at run
      obtain ⟨told, undecided⟩ | ⟨output, told, decides⟩ | ⟨f, told, decides⟩ := told_cases operation r w
      · obtain ⟨polls, result, course, tape, rest⟩ :=
          ih (fun i => looks (i + 1)) (fun i => took (i + 1)) (nextDelay r)
        refine ⟨p :: polls, result, .goesOn rfl looked answer undecided course, ?_, ?_⟩
        · rw [List.map_cons, tape, List.length_cons, List.range_succ_eq_map, List.map_cons, List.map_map]
          rfl
        · rw [← watchAfter_running told] at rest
          exact trace_watch_succ delay run rest
      · refine last (answer ▸ decides) (trace_watch_succ delay run ?_)
        rw [watchAfter_succeeded told]
        exact .done _
      · refine last (answer ▸ decides) (trace_watch_succ delay run ?_)
        rw [watchAfter_failed told]
        exact .done _

variable {polls : List Poll}

theorem Course.short (course : Course c operation w left delay polls result) : polls.length ≤ left := by
  induction course with
  | exhausted => exact Nat.zero_le 0
  | settled => exact Nat.succ_le_succ (Nat.zero_le _)
  | goesOn _ _ _ _ _ ih => exact Nat.succ_le_succ ih

theorem Course.took (course : Course c operation w left delay polls result) :
    ∀ p ∈ polls, p.Took c operation w.address := by
  induction course with
  | exhausted => exact List.forall_mem_nil _
  | settled _ took => exact List.forall_mem_singleton.mpr took
  | goesOn _ took _ _ _ ih => exact List.forall_mem_cons.mpr ⟨took, ih⟩

theorem Course.paced (course : Course c operation w left delay polls result) (heeded : Heeded r delay) :
    Paced Heeded r polls := by
  induction course generalizing r with
  | exhausted => trivial
  | settled waited => exact ⟨waited ▸ heeded, fun _ _ => trivial⟩
  | goesOn waited _ answer _ _ ih =>
    refine ⟨waited ▸ heeded, ?_⟩
    intro answer' same
    rw [answer] at same
    cases same
    exact ih (heeded_nextDelay _)

/-- A course ends with the first look that decides, or when all looks are used up. -/
theorem Course.ends (course : Course c operation w left delay polls result) :
    (∃ before p, polls = before ++ [p] ∧ (∀ p ∈ before, p.Open w) ∧ Decides operation w p.answer result) ∨
    polls.length = left ∧ (∀ p ∈ polls, p.Open w) ∧ result = .error (stillRunning operation) := by
  induction course with
  | exhausted => exact .inr ⟨rfl, List.forall_mem_nil _, rfl⟩
  | settled _ _ decides => exact .inl ⟨[], _, rfl, List.forall_mem_nil _, decides⟩
  | goesOn _ _ answer undecided _ ih =>
    rcases ih with ⟨before, last, rfl, clear, decides⟩ | ⟨used, clear, rfl⟩
    · exact .inl ⟨_ :: before, last, rfl, List.forall_mem_cons.mpr ⟨⟨_, answer, undecided⟩, clear⟩, decides⟩
    · exact .inr ⟨congrArg (· + 1) used, List.forall_mem_cons.mpr ⟨⟨_, answer, undecided⟩, clear⟩, rfl⟩

theorem Course.waited (course : Course c operation w pollLimit (nextDelay r) polls result) :
    Waited Heeded c operation r w polls (polls.flatMap Poll.events) result := by
  constructor
  case events => rfl
  case took => exact course.took
  case paced => exact course.paced (heeded_nextDelay r)
  case short => exact course.short
  case undecided =>
    rcases course.ends with ⟨before, last, rfl, clear, -⟩ | ⟨-, clear, -⟩
    · rw [List.dropLast_concat]
      exact clear
    · exact fun p mem => clear p ((List.dropLast_sublist polls).subset mem)
  case ends =>
    rcases course.ends with ⟨before, last, rfl, -, decides⟩ | used
    · exact .inl ⟨last, List.getLast?_concat .., decides⟩
    · exact .inr used

end

/-- The request that orders an action on a resource. -/
def order (path action version : String) (body : Json) : Http.Draft :=
  Http.Draft.json body (draft .post (address (path ++ "/" ++ action) version))

/-- Where an answer says that the operation reports; the address of reports counts before that of a result. -/
inductive Names (r : Http.Response) : Watch → Prop
  | report {address : String} (named : r.header? "azure-asyncoperation" = some address) :
      Names r (.report address)
  | result {address : String} (unnamed : r.header? "azure-asyncoperation" = none)
      (named : r.header? "location" = some address) : Names r (.result address)

theorem Names.ofResponse (names : Names r w) : Watch.ofResponse r = some w := by
  rw [Watch.ofResponse]
  cases names with
  | report named => rw [named]
  | result unnamed named => rw [unnamed, named]

theorem awaitOperation_eq (accepted : r.status = 202) (names : Names r w) :
    awaitOperation c operation r = watch c operation w pollLimit (nextDelay r) := by
  rw [awaitOperation, if_pos accepted, names.ofResponse]

theorem trace_post_iff (first : Trace (c.send operation .management (order path action version body)).run sent
      (some (.ok r))) (accepted : r.status = 202) (names : Names r w) :
    Trace (post c operation path action version body).run (sent ++ later) (some result) ↔
      Trace (watch c operation w pollLimit (nextDelay r)).run later (some result) := by
  rw [← awaitOperation_eq accepted names]
  constructor
  · exact fun run => first.rest run
  · exact fun rest => trace_bindExcept_iff.mpr (.inr (.inr ⟨r, sent, later, rfl, first, rest⟩))

/-- An operation that was accepted is waited for until a look decides it, and for at most thirty looks; whatever
the looks come to, the wait ends, and one that no look has ended is worth another try. -/
theorem post_waits (first : Trace (c.send operation .management (order path action version body)).run sent
      (some (.ok r))) (accepted : r.status = 202) (names : Names r w) :
    (∀ later result, Trace (post c operation path action version body).run (sent ++ later) (some result) →
      ∃ polls, Waited Heeded c operation r w polls later result) ∧
    (∀ looks : Nat → List (Event host) × Except Failure Http.Response,
      (∀ i, Trace (c.send operation .management (draft .get w.address)).run (looks i).1 (some (looks i).2)) →
      ∃ polls later result,
        Trace (post c operation path action version body).run (sent ++ later) (some result) ∧
        Waited Heeded c operation r w polls later result ∧
        polls.map (fun p => (p.asked, p.answer)) = (List.range polls.length).map looks) ∧
    ∃ delay, (stillRunning operation).verdict = .retry delay (stillRunning operation).text := by
  refine ⟨?_, ?_, transientDelay, rfl⟩
  · intro later result run
    obtain ⟨polls, course, rfl⟩ := course_of_trace ((trace_post_iff first accepted names).mp run)
    exact ⟨polls, course.waited⟩
  · intro looks took
    obtain ⟨polls, result, course, tape, run⟩ := exists_course looks took (nextDelay r)
    exact ⟨polls, _, result, (trace_post_iff first accepted names).mpr run, course.waited, tape⟩

section

variable {token id : String} {request : Http.Request}

/-- Looks that are all answered alike and leave the operation open are taken until there are no more. -/
theorem trace_watch_endless (built : Http.Draft.header "x-ms-client-request-id" id
      (Http.Draft.header "authorization" ("Bearer " ++ token) (draft .get w.address)) = .ok request)
    (success : r.isSuccess = true) (told : told operation r w = .ok .running) (left : Nat) :
    Trace (watch (.issued token) operation w left (nextDelay r)).run
      (List.replicate left [⟨.wait (nextDelay r), ()⟩, ⟨.requestId, id⟩, ⟨.exchange request, .ok r⟩]).flatten
      (some (.error (stillRunning operation))) := by
  induction left with
  | zero => exact .done _
  | succ left ih =>
    have sent : Trace ((Credential.issued token).send operation .management _).run _ _ :=
      trace_send_issued built (.ok r)
    rw [answered, if_pos success] at sent
    rw [← watchAfter_running told] at ih
    rw [List.replicate_succ, List.flatten_cons]
    exact trace_watch_succ _ sent ih

/-- The answer for an operation that is under way, with a hint when to come back. -/
def underWay (hint : Option String) : Http.Response where
  status := 202
  headers := ("location", "https://management.azure.com/operations/1") ::
    (hint.map fun text => ("retry-after", text)).toList
  body := .ok ""

def watched : Watch := .result "https://management.azure.com/operations/1"

theorem names_underWay (hint : Option String) : Names (underWay hint) watched := by
  have printable : (some watched.address).filter (fun v => v.toList.all fun c =>
      c = '\t' || (0x20 ≤ c.toNat && c.toNat < 0x7F)) = some watched.address := by decide
  refine .result ?_ printable
  cases hint <;> rfl

def closing : Http.Draft := order "/snap" "endGetAccess" "2023-04-02" (.object [])

/-- Access is closed in an operation that is accepted and never over. -/
theorem exists_endless (hint : Option String) : ∃ ordered looked,
    Trace ((Credential.issued "token").send "revoking" .management closing).run
      [⟨.requestId, "id"⟩, ⟨.exchange ordered, .ok (underWay hint)⟩] (some (.ok (underWay hint))) ∧
    Trace (watch (.issued "token") "revoking" watched pollLimit (nextDelay (underWay hint))).run
      (List.replicate pollLimit [⟨.wait (nextDelay (underWay hint)), ()⟩, ⟨.requestId, "id"⟩,
        ⟨.exchange looked, .ok (underWay hint)⟩]).flatten (some (.error (stillRunning "revoking"))) := by
  obtain ⟨ordered, orderBuilt⟩ : ∃ request, Http.Draft.header "x-ms-client-request-id" "id"
      (Http.Draft.header "authorization" ("Bearer " ++ "token") closing) = .ok request :=
    exists_ok_of_isOk (by decide +kernel)
  obtain ⟨looked, lookBuilt⟩ : ∃ request, Http.Draft.header "x-ms-client-request-id" "id"
      (Http.Draft.header "authorization" ("Bearer " ++ "token") (draft .get watched.address)) = .ok request :=
    exists_ok_of_isOk (by decide +kernel)
  exact ⟨ordered, looked, trace_send_issued orderBuilt (.ok (underWay hint)),
    trace_watch_endless lookBuilt rfl rfl pollLimit⟩

theorem post_waits_endless : ∃ sent polls later,
    Trace ((Credential.issued "token").send "revoking" .management closing).run sent
      (some (.ok (underWay (some "5")))) ∧ (underWay (some "5")).status = 202 ∧
    Names (underWay (some "5")) watched ∧
    Waited Heeded (.issued "token") "revoking" (underWay (some "5")) watched polls later
      (.error (stillRunning "revoking")) ∧
    (stillRunning "revoking").verdict = .retry (.ofSeconds 10) (stillRunning "revoking").text := by
  obtain ⟨ordered, looked, first, rest⟩ := exists_endless (some "5")
  have names := names_underWay (some "5")
  obtain ⟨polls, waited⟩ := (post_waits first rfl names).1 _ _ ((trace_post_iff first rfl names).mpr rest)
  obtain ⟨delay, verdict⟩ := (post_waits first rfl names).2.2
  cases verdict
  exact ⟨_, polls, _, first, rfl, names, waited, rfl⟩

/-- The delay for which an answer calls if every number of seconds is heeded. -/
def Literal (r : Http.Response) (delay : Duration) : Prop :=
  (∃ n, Asks r n ∧ delay.nanos = n * 1000000000) ∨ (¬ ∃ n, Asks r n) ∧ delay = .ofSeconds 2

/-- A number of seconds that 64 bits do not hold is not heeded. -/
theorem post_not_waits : ¬ ∀ (c : Credential) (operation path action version : String) (body : Json)
    (sent later : List (Event host)) (r : Http.Response) (w : Watch) (result : Except Failure (Option Json)),
    Trace (c.send operation .management (order path action version body)).run sent (some (.ok r)) →
    r.status = 202 → Names r w →
    Trace (post c operation path action version body).run (sent ++ later) (some result) →
    ∃ polls, Waited Literal c operation r w polls later result := by
  intro waits
  let r := underWay (some "18446744073709551616")
  obtain ⟨ordered, looked, first, rest⟩ := exists_endless (some "18446744073709551616")
  have names := names_underWay (some "18446744073709551616")
  have run := (trace_post_iff first rfl names).mpr rest
  obtain ⟨polls, waited⟩ := waits _ _ _ _ _ _ _ _ _ _ _ first rfl names run
  have asks : Asks r 18446744073709551616 := by
    refine ⟨"18446744073709551616", by decide, ?_⟩
    exact Text.natural?_trim_iff.mp (by decide +kernel)
  have delay : nextDelay r = .ofSeconds 2 := by decide +kernel
  have events := waited.events
  cases polls with
  | nil => cases events
  | cons p polls =>
    have head := (List.cons.inj events).1
    have own : p.delay = .ofSeconds 2 := by
      rw [← delay]
      exact (Call.wait.inj (congrArg Event.call head)).symm
    rcases waited.paced.1 with ⟨n, ⟨text, there, spells⟩, nanos⟩ | ⟨none, -⟩
    · have two : n = 2 := by
        rw [own] at nanos
        change 2000000000 = n * 1000000000 at nanos
        omega
      obtain ⟨text', there', spells'⟩ := asks
      rw [there] at there'
      cases there'
      rw [two] at spells
      have same := (Text.natural?_trim_iff.mpr spells).symm.trans (Text.natural?_trim_iff.mpr spells')
      cases same
    · exact none ⟨_, asks⟩

end

end ScanProvisioning.Azure.Management
