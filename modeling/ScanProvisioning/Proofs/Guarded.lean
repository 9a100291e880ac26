import ScanProvisioning.Proofs.Trace

namespace ScanProvisioning.Program

variable {I : Interface} {α β ε σ : Type}

/-- How the state of the surroundings changes while they give the answers of a run. -/
inductive Exchanged (answers : σ → (c : I.Call) → I.Reply c → σ → Prop) :
    σ → List (Event I) → σ → Prop
  | nil (s : σ) : Exchanged answers s [] s
  | cons {s t u : σ} {c : I.Call} {r : I.Reply c} {es : List (Event I)} (answer : answers s c r t)
      (others : Exchanged answers t es u) : Exchanged answers s (⟨c, r⟩ :: es) u

theorem exchanged_log (h : (c : I.Call) → StateM σ (I.Reply c)) (p : Program I α) (s : σ) :
    Exchanged (fun s c r t => h c s = (r, t)) s (p.log h s) (p.run (m := StateM σ) h s).2 := by
  induction p generalizing s with
  | done a => exact .nil s
  | ask c k ih => exact .cons rfl (ih _ _)

theorem Exchanged.mono {answers wider : σ → (c : I.Call) → I.Reply c → σ → Prop}
    (weaken : ∀ s c r t, answers s c r t → wider s c r t) {s u : σ} {es : List (Event I)}
    (replies : Exchanged answers s es u) : Exchanged wider s es u := by
  induction replies with
  | nil s => exact .nil s
  | cons answer others ih => exact .cons (weaken _ _ _ _ answer) ih

theorem exchanged_append {answers : σ → (c : I.Call) → I.Reply c → σ → Prop} {s u : σ}
    {es more : List (Event I)} (replies : Exchanged answers s (es ++ more) u) :
    ∃ t, Exchanged answers s es t ∧ Exchanged answers t more u := by
  induction es generalizing s with
  | nil => exact ⟨s, .nil s, replies⟩
  | cons ev es ih =>
    cases replies with
    | cons answer others =>
      obtain ⟨t, first, rest⟩ := ih others
      exact ⟨t, .cons answer first, rest⟩

theorem Exchanged.append {answers : σ → (c : I.Call) → I.Reply c → σ → Prop} {s t u : σ}
    {es more : List (Event I)} (first : Exchanged answers s es t) (rest : Exchanged answers t more u) :
    Exchanged answers s (es ++ more) u := by
  induction first with
  | nil s => exact rest
  | cons answer others ih => exact .cons answer (ih rest)

/-- Surroundings that answer anything and remember what was asked. -/
def recording (es : List (Event I)) (c : I.Call) (r : I.Reply c) (after : List (Event I)) : Prop :=
  after = es ++ [⟨c, r⟩]

private theorem exchanged_recording (before es : List (Event I)) :
    Exchanged recording before es (before ++ es) := by
  induction es generalizing before with
  | nil => simpa using Exchanged.nil before
  | cons ev es ih =>
    have others := ih (before ++ [ev])
    rw [List.append_assoc] at others
    exact .cons rfl others

theorem recording_unique {before es after : List (Event I)}
    (recorded : Exchanged recording before es after) : after = before ++ es := by
  induction recorded with
  | nil s => simp
  | cons answer others ih =>
    rw [ih, show _ = _ from answer, List.append_assoc, List.singleton_append]

/-- Whatever the surroundings answer, every question is lawful in the state in which it is asked, and the
value at the end is right for the last state. -/
def Guarded (answers : σ → (c : I.Call) → I.Reply c → σ → Prop) (law : σ → I.Call → Prop)
    (post : σ → α → Prop) : Program I α → σ → Prop
  | .done a, s => post s a
  | .ask c k, s => law s c ∧ ∀ r t, answers s c r t → Guarded answers law post (k r) t

section

variable {answers : σ → (c : I.Call) → I.Reply c → σ → Prop} {law : σ → I.Call → Prop}
  {post : σ → α → Prop}

theorem guarded_question {c : I.Call} {k : I.Reply c → Program I α} {s : σ} (lawful : law s c)
    (rest : ∀ r t, answers s c r t → Guarded answers law post (k r) t) :
    Guarded answers law post (Program.ask c k) s :=
  ⟨lawful, rest⟩

theorem guarded_mono {wider : σ → α → Prop} (weaken : ∀ s a, post s a → wider s a) {p : Program I α}
    {s : σ} (guarded : Guarded answers law post p s) : Guarded answers law wider p s := by
  induction p generalizing s with
  | done a => exact weaken s a guarded
  | ask c k ih => exact ⟨guarded.1, fun r t answer => ih r (guarded.2 r t answer)⟩

theorem guarded_mono_law {wider : σ → I.Call → Prop} (weaken : ∀ s c, law s c → wider s c)
    {p : Program I α} {s : σ} (guarded : Guarded answers law post p s) : Guarded answers wider post p s := by
  induction p generalizing s with
  | done a => exact guarded
  | ask c k ih => exact ⟨weaken s c guarded.1, fun r t answer => ih r (guarded.2 r t answer)⟩

theorem guarded_bind {post : σ → β → Prop} {p : Program I α} {f : α → Program I β} {s : σ}
    (guarded : Guarded answers law (fun t a => Guarded answers law post (f a) t) p s) :
    Guarded answers law post (p >>= f) s := by
  induction p generalizing s with
  | done a => exact guarded
  | ask c k ih => exact ⟨guarded.1, fun r t answer => ih r (guarded.2 r t answer)⟩

theorem guarded_bindExcept {post : σ → Except ε β → Prop} {x : ExceptT ε (Program I) α}
    {f : α → ExceptT ε (Program I) β} {s : σ}
    (guarded : Guarded answers law (fun t result => match result with
      | .ok a => Guarded answers law post (f a).run t
      | .error e => post t (.error e)) x.run s) :
    Guarded answers law post (x >>= f).run s := by
  refine guarded_bind ?_
  refine guarded_mono ?_ guarded
  intro t result h
  cases result with
  | ok a => exact h
  | error e => exact h

/-- The law that a sequence keeps, its first part keeps. -/
theorem guarded_first {post : σ → β → Prop} {p : Program I α} {f : α → Program I β} {s : σ}
    (guarded : Guarded answers law post (p >>= f) s) : Guarded answers law (fun _ _ => True) p s := by
  induction p generalizing s with
  | done a => trivial
  | ask c k ih => exact ⟨guarded.1, fun r t answer => ih r (guarded.2 r t answer)⟩

/-- And its second part keeps it after any run of the first. -/
theorem guarded_rest {post : σ → β → Prop} {p : Program I α} {f : α → Program I β} {s t : σ} {a : α}
    {es : List (Event I)} (guarded : Guarded answers law post (p >>= f) s) (run : Trace p es (some a))
    (replies : Exchanged answers s es t) : Guarded answers law post (f a) t := by
  induction replies generalizing p with
  | nil s =>
    cases run
    exact guarded
  | cons answer others ih =>
    cases run with
    | ask r run => exact ih (guarded.2 _ _ answer) run

theorem guarded_throw {post : σ → Except ε β → Prop} {e : ε} {s : σ} (short : post s (.error e)) :
    Guarded answers law post (throw e : ExceptT ε (Program I) β).run s :=
  short

theorem guarded_mapExcept {post : σ → Except ε β → Prop} {x : ExceptT ε (Program I) α} {f : α → β}
    {s : σ} (guarded : Guarded answers law (fun t result => post t (result.map f)) x.run s) :
    Guarded answers law post (f <$> x).run s := by
  refine guarded_bind ?_
  refine guarded_mono ?_ guarded
  intro t result h
  cases result with
  | ok a => exact h
  | error e => exact h

/-- Where a run has come to ask something, it may ask it. -/
theorem Trace.asks {p : Program I α} {es : List (Event I)} {ev : Event I} {e : Option α} {s t : σ}
    (run : Trace p (es ++ [ev]) e) (replies : Exchanged answers s es t)
    (guarded : Guarded answers law post p s) :
    law t ev.call := by
  induction replies generalizing p with
  | nil s =>
    cases run with
    | ask r rest => exact guarded.1
  | cons answer others ih =>
    cases run with
    | ask r rest => exact ih rest (guarded.2 _ _ answer)

/-- A run of a guarded program: all its questions are lawful, and so is the state in which it ends or is
cut off. -/
theorem Trace.guarded {p : Program I α} {es : List (Event I)} {e : Option α} {s u : σ}
    (run : Trace p es e) (replies : Exchanged answers s es u) (guarded : Guarded answers law post p s) :
    (∀ before ev after, es = before ++ ev :: after →
      ∃ t, Exchanged answers s before t ∧ law t ev.call) ∧
    (∀ a, e = some a → post u a) ∧ ((∃ c, law u c) ∨ ∃ a, post u a) := by
  induction run generalizing s with
  | cut p =>
    cases replies
    refine ⟨by simp, by simp, ?_⟩
    cases p with
    | done a => exact .inr ⟨a, guarded⟩
    | ask c k => exact .inl ⟨c, guarded.1⟩
  | done a =>
    cases replies
    refine ⟨by simp, ?_, .inr ⟨a, guarded⟩⟩
    intro b same
    cases same
    exact guarded
  | ask r rest ih =>
    cases replies with
    | cons answer others =>
      obtain ⟨laws, ending⟩ := ih others (guarded.2 _ _ answer)
      refine ⟨?_, ending⟩
      intro before ev after split
      cases before with
      | nil =>
        cases split
        exact ⟨s, .nil s, guarded.1⟩
      | cons first before =>
        cases split
        obtain ⟨t, replies, lawful⟩ := laws before ev after rfl
        exact ⟨t, .cons answer replies, lawful⟩

end

/-- A run may end in a value, which leaves the surroundings in a state. -/
def Leads (answers : σ → (c : I.Call) → I.Reply c → σ → Prop) (p : Program I α) (s : σ) (a : α) (t : σ) :
    Prop :=
  ∃ es, Trace p es (some a) ∧ Exchanged answers s es t

section

variable {answers : σ → (c : I.Call) → I.Reply c → σ → Prop} {s t u : σ}

theorem leads_done (a : α) (s : σ) : Leads answers (Program.done a) s a s := ⟨[], .done a, .nil s⟩

theorem leads_ask {c : I.Call} {k : I.Reply c → Program I α} {r : I.Reply c} {a : α}
    (answer : answers s c r t) (rest : Leads answers (k r) t a u) : Leads answers (.ask c k) s a u := by
  obtain ⟨es, run, replies⟩ := rest
  exact ⟨⟨c, r⟩ :: es, .ask r run, .cons answer replies⟩

theorem leads_bind {p : Program I α} {f : α → Program I β} {a : α} {b : β} (first : Leads answers p s a t)
    (rest : Leads answers (f a) t b u) : Leads answers (p >>= f) s b u := by
  obtain ⟨before, run, replies⟩ := first
  obtain ⟨after, run', replies'⟩ := rest
  exact ⟨before ++ after, trace_bind_iff.mpr (.inr ⟨a, before, after, rfl, run, run'⟩),
    replies.append replies'⟩

theorem leads_bindExcept {x : ExceptT ε (Program I) α} {f : α → ExceptT ε (Program I) β} {a : α}
    {e : Except ε β} (first : Leads answers x.run s (.ok a) t) (rest : Leads answers (f a).run t e u) :
    Leads answers (x >>= f).run s e u :=
  leads_bind first rest

theorem leads_bindExcept_error {x : ExceptT ε (Program I) α} {f : α → ExceptT ε (Program I) β} {e : ε}
    (first : Leads answers x.run s (.error e) t) : Leads answers (x >>= f).run s (.error e) t :=
  leads_bind first (leads_done _ t)

theorem leads_mapExcept {x : ExceptT ε (Program I) α} {g : α → β} {result : Except ε α}
    (first : Leads answers x.run s result t) : Leads answers (g <$> x).run s (result.map g) t := by
  refine leads_bind first ?_
  cases result <;> exact leads_done _ t

/-- What a program is guarded for holds of whatever it leads to. -/
theorem Leads.right {law : σ → I.Call → Prop} {post : σ → α → Prop} {p : Program I α} {a : α}
    (leads : Leads answers p s a t) (guarded : Guarded answers law post p s) : post t a := by
  obtain ⟨es, run, replies⟩ := leads
  exact (run.guarded replies guarded).2.1 a rfl

end

section

variable {answers : σ → (c : I.Call) → I.Reply c → σ → Prop} {s t : σ} {es : List (Event I)}

/-- A run to the end, with all that is asked on the way. -/
def Completes (answers : σ → (c : I.Call) → I.Reply c → σ → Prop) (p : Program I α) (s : σ)
    (es : List (Event I)) (a : α) (t : σ) : Prop :=
  Trace p es (some a) ∧ Exchanged answers s es t

theorem completes_done_iff {a b : α} : Completes answers (.done a) s es b t ↔ es = [] ∧ b = a ∧ t = s := by
  constructor
  · rintro ⟨run, replies⟩
    cases run
    cases replies
    exact ⟨rfl, rfl, rfl⟩
  · rintro ⟨rfl, rfl, rfl⟩
    exact ⟨.done _, .nil _⟩

theorem completes_ask_iff {c : I.Call} {k : I.Reply c → Program I α} {a : α} :
    Completes answers (.ask c k) s es a t ↔
      ∃ r u rest, es = ⟨c, r⟩ :: rest ∧ answers s c r u ∧ Completes answers (k r) u rest a t := by
  constructor
  · rintro ⟨run, replies⟩
    cases run with
    | ask r run =>
      cases replies with
      | cons answer others => exact ⟨r, _, _, rfl, answer, run, others⟩
  · rintro ⟨r, u, rest, rfl, answer, run, others⟩
    exact ⟨.ask r run, .cons answer others⟩

theorem completes_bind_iff {p : Program I α} {f : α → Program I β} {b : β} :
    Completes answers (p >>= f) s es b t ↔
      ∃ a u before after, es = before ++ after ∧ Completes answers p s before a u ∧
        Completes answers (f a) u after b t := by
  constructor
  · rintro ⟨run, replies⟩
    obtain ⟨⟨⟩, -⟩ | ⟨a, before, after, rfl, first, rest⟩ := trace_bind_iff.mp run
    obtain ⟨u, early, late⟩ := exchanged_append replies
    exact ⟨a, u, before, after, rfl, ⟨first, early⟩, rest, late⟩
  · rintro ⟨a, u, before, after, rfl, ⟨first, early⟩, rest, late⟩
    exact ⟨trace_bind_iff.mpr (.inr ⟨a, before, after, rfl, first, rest⟩), early.append late⟩

theorem leads_done_iff {a b : α} : Leads answers (.done a) s b t ↔ b = a ∧ t = s := by
  constructor
  · rintro ⟨es, run⟩
    exact (completes_done_iff.mp run).2
  · rintro ⟨rfl, rfl⟩
    exact leads_done _ _

theorem leads_ask_iff {c : I.Call} {k : I.Reply c → Program I α} {a : α} :
    Leads answers (.ask c k) s a t ↔ ∃ r u, answers s c r u ∧ Leads answers (k r) u a t := by
  constructor
  · rintro ⟨es, run⟩
    obtain ⟨r, u, rest, -, answer, run⟩ := completes_ask_iff.mp run
    exact ⟨r, u, answer, rest, run⟩
  · rintro ⟨r, u, answer, rest⟩
    exact leads_ask answer rest

theorem leads_bind_iff {p : Program I α} {f : α → Program I β} {b : β} :
    Leads answers (p >>= f) s b t ↔ ∃ a u, Leads answers p s a u ∧ Leads answers (f a) u b t := by
  constructor
  · rintro ⟨es, run⟩
    obtain ⟨a, u, before, after, -, first, rest⟩ := completes_bind_iff.mp run
    exact ⟨a, u, ⟨before, first⟩, after, rest⟩
  · rintro ⟨a, u, first, rest⟩
    exact leads_bind first rest

end

theorem guarded_extends {law : List (Event I) → I.Call → Prop} {post : List (Event I) → α → Prop}
    {p : Program I α} {before : List (Event I)} (guarded : Guarded recording law post p before) :
    Guarded recording law (fun after a => post after a ∧ before ⊆ after) p before := by
  induction p generalizing before with
  | done a => exact ⟨guarded, fun ev mem => mem⟩
  | ask c k ih =>
    refine ⟨guarded.1, ?_⟩
    intro r t recorded
    subst recorded
    refine guarded_mono ?_ (ih r (guarded.2 r _ rfl))
    intro after a ending
    obtain ⟨right, sub⟩ := ending
    exact ⟨right, fun ev mem => sub (List.mem_append_left _ mem)⟩

/-- The law that forbids nothing. -/
def anything (_ : List (Event I)) (_ : I.Call) : Prop := True

theorem guarded_anything (p : Program I α) (before : List (Event I)) :
    Guarded recording anything (fun _ _ => True) p before := by
  induction p generalizing before with
  | done a => trivial
  | ask c k ih => exact ⟨trivial, fun r t _ => ih r t⟩

/-- In every run of a program that is guarded from the beginning, whatever is answered. -/
theorem Trace.lawful {law : List (Event I) → I.Call → Prop} {post : List (Event I) → α → Prop}
    {p : Program I α} {es : List (Event I)} {e : Option α} (run : Trace p es e)
    (guarded : Guarded recording law post p []) :
    (∀ before ev after, es = before ++ ev :: after → law before ev.call) ∧
    ∀ a, e = some a → post es a := by
  obtain ⟨laws, ending, -⟩ := run.guarded (exchanged_recording [] es) guarded
  refine ⟨?_, ending⟩
  intro before ev after split
  obtain ⟨t, replies, lawful⟩ := laws before ev after split
  rw [recording_unique replies] at lawful
  exact lawful

end ScanProvisioning.Program
