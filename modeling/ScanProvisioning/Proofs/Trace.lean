import ScanProvisioning.Program

namespace ScanProvisioning

/-- A question with the answer it got. -/
structure Event (I : Interface) where
  call : I.Call
  reply : I.Reply call

theorem exists_ok_of_isOk {ε α : Type} {x : Except ε α} (fine : x.isOk = true) : ∃ a, x = .ok a := by
  cases x with
  | ok a => exact ⟨a, rfl⟩
  | error e => cases fine

namespace Program

variable {I J : Interface} {α β ε σ : Type}

/-- The runs of a program: its questions with any answers, in order, and the value it ends in, if it is
not cut off before. -/
inductive Trace : Program I α → List (Event I) → Option α → Prop
  | cut (p : Program I α) : Trace p [] none
  | done (a : α) : Trace (done a) [] (some a)
  | ask {c : I.Call} {k : I.Reply c → Program I α} (r : I.Reply c) {es : List (Event I)}
      {e : Option α} (rest : Trace (k r) es e) : Trace (ask c k) (⟨c, r⟩ :: es) e

theorem trace_done_iff {a : α} {es : List (Event I)} {e : Option α} :
    Trace (Program.done a) es e ↔ es = [] ∧ (e = none ∨ e = some a) := by
  constructor
  · intro run
    cases run with
    | cut => exact ⟨rfl, .inl rfl⟩
    | done => exact ⟨rfl, .inr rfl⟩
  · intro h
    obtain ⟨rfl, rfl | rfl⟩ := h
    · exact .cut _
    · exact .done a

theorem trace_bind_iff {p : Program I α} {f : α → Program I β} {es : List (Event I)} {e : Option β} :
    Trace (p >>= f) es e ↔
      e = none ∧ Trace p es none ∨
      ∃ a before after, es = before ++ after ∧ Trace p before (some a) ∧ Trace (f a) after e := by
  induction p generalizing es with
  | done a =>
    rw [done_bind]
    constructor
    · intro run
      exact .inr ⟨a, [], es, rfl, .done a, run⟩
    · intro h
      rcases h with ⟨rfl, first⟩ | ⟨b, before, after, rfl, first, rest⟩
      · cases first
        exact .cut _
      · cases first
        exact rest
  | ask c k ih =>
    rw [ask_bind]
    constructor
    · intro run
      cases run with
      | cut => exact .inl ⟨rfl, .cut _⟩
      | ask r rest =>
        rcases (ih r).mp rest with ⟨rfl, first⟩ | ⟨a, before, after, rfl, first, last⟩
        · exact .inl ⟨rfl, .ask r first⟩
        · exact .inr ⟨a, ⟨c, r⟩ :: before, after, rfl, .ask r first, last⟩
    · intro h
      rcases h with ⟨rfl, first⟩ | ⟨a, before, after, rfl, first, last⟩
      · cases first with
        | cut => exact .cut _
        | ask r rest => exact .ask r ((ih r).mpr (.inl ⟨rfl, rest⟩))
      · cases first with
        | ask r rest => exact .ask r ((ih r).mpr (.inr ⟨a, _, after, rfl, rest, last⟩))

/-- Questions and answers settle the end. -/
theorem Trace.unique {p : Program I α} {es : List (Event I)} {a b : α} (run : Trace p es (some a))
    (other : Trace p es (some b)) : a = b := by
  induction p generalizing es with
  | done c =>
    cases run
    cases other
    rfl
  | ask c k ih =>
    cases run with
    | ask r rest =>
      cases other with
      | ask r rest' => exact ih r rest rest'

/-- What a run has done before any of its questions is a run that is cut off there. -/
theorem Trace.take {p : Program I α} {before after : List (Event I)} {e : Option α}
    (run : Trace p (before ++ after) e) : Trace p before none := by
  induction before generalizing p with
  | nil => exact .cut p
  | cons ev before ih =>
    cases run with
    | ask r rest => exact .ask r (ih rest)

theorem Trace.stop {p : Program I α} {es : List (Event I)} {e : Option α} (run : Trace p es e) :
    Trace p es none := by
  rw [← List.append_nil es] at run
  exact run.take

/-- What follows a run of the first part is a run of the second. -/
theorem Trace.rest {p : Program I α} {f : α → Program I β} {before after : List (Event I)} {a : α}
    {e : Option β} (first : Trace p before (some a)) (run : Trace (p >>= f) (before ++ after) e) :
    Trace (f a) after e := by
  induction p generalizing before with
  | done b =>
    cases first
    exact run
  | ask c k ih =>
    cases first with
    | ask r first =>
      cases run with
      | ask r run => exact ih r first run

section Failing

variable {x : ExceptT ε (Program I) α} {f : α → ExceptT ε (Program I) β}

/-- A run of a sequence that may fail: it is cut off or fails in the first part, or goes on. -/
theorem trace_bindExcept_iff {es : List (Event I)} {e : Option (Except ε β)} :
    Trace (x >>= f).run es e ↔
      e = none ∧ Trace x.run es none ∨
      (∃ s, e = some (.error s) ∧ Trace x.run es (some (.error s))) ∨
      ∃ a before after, es = before ++ after ∧ Trace x.run before (some (.ok a)) ∧
        Trace (f a).run after e := by
  have unfolded : (x >>= f).run = x.run >>= ExceptT.bindCont f := rfl
  rw [unfolded, trace_bind_iff]
  constructor
  · intro h
    rcases h with cut | ⟨a, before, after, rfl, first, rest⟩
    · exact .inl cut
    · cases a with
      | ok a => exact .inr (.inr ⟨a, before, after, rfl, first, rest⟩)
      | error s =>
        obtain ⟨rfl, rfl | rfl⟩ := trace_done_iff.mp rest <;> rw [List.append_nil]
        · exact .inl ⟨rfl, first.stop⟩
        · exact .inr (.inl ⟨s, rfl, first⟩)
  · intro h
    rcases h with cut | ⟨s, rfl, first⟩ | ⟨a, before, after, rfl, first, rest⟩
    · exact .inl cut
    · exact .inr ⟨.error s, es, [], by simp, first, .done _⟩
    · exact .inr ⟨.ok a, before, after, rfl, first, rest⟩

theorem trace_bindExcept_ok_iff {b : β} {es : List (Event I)} :
    Trace (x >>= f).run es (some (.ok b)) ↔
      ∃ a before after, es = before ++ after ∧ Trace x.run before (some (.ok a)) ∧
        Trace (f a).run after (some (.ok b)) := by
  rw [trace_bindExcept_iff]
  simp

/-- Where the second part asks nothing, a run is one of the first part. -/
theorem trace_bindPure_iff {f : α → Except ε β} {es : List (Event I)} {e : Except ε β} :
    Trace (x >>= fun a => ExceptT.mk (pure (f a))).run es (some e) ↔
      ∃ first, Trace x.run es (some first) ∧ e = first >>= f := by
  rw [trace_bindExcept_iff]
  constructor
  · intro h
    rcases h with ⟨⟨⟩, -⟩ | ⟨s, same, first⟩ | ⟨a, before, after, rfl, first, rest⟩
    · cases same
      exact ⟨_, first, rfl⟩
    · cases rest
      rw [List.append_nil]
      exact ⟨_, first, rfl⟩
  · intro h
    obtain ⟨s | a, first, rfl⟩ := h
    · exact .inr (.inl ⟨s, rfl, first⟩)
    · exact .inr (.inr ⟨a, es, [], by simp, first, .done _⟩)

theorem trace_throw_iff {s : ε} {es : List (Event I)} {e : Option (Except ε α)} :
    Trace (throw s : ExceptT ε (Program I) α).run es e ↔ es = [] ∧ (e = none ∨ e = some (.error s)) :=
  trace_done_iff

end Failing

/-- The answers that the runs of a program's questions end in, and all that these runs ask. -/
inductive Answered (h : (c : I.Call) → Program J (I.Reply c)) : List (Event I) → List (Event J) → Prop
  | nil : Answered h [] []
  | cons {c : I.Call} {r : I.Reply c} {es : List (Event I)} {first rest : List (Event J)}
      (answer : Trace (h c) first (some r)) (others : Answered h es rest) :
      Answered h (⟨c, r⟩ :: es) (first ++ rest)

theorem Answered.mem {h : (c : I.Call) → Program J (I.Reply c)} {es : List (Event I)}
    {js : List (Event J)} (answered : Answered h es js) {ev : Event I} (mem : ev ∈ es) :
    ∃ part, part ⊆ js ∧ Trace (h ev.call) part (some ev.reply) := by
  induction answered with
  | nil => cases mem
  | cons answer others ih =>
    cases mem with
    | head => exact ⟨_, List.subset_append_left _ _, answer⟩
    | tail _ mem =>
      obtain ⟨part, sub, run⟩ := ih mem
      exact ⟨part, fun x hx => List.mem_append_right _ (sub hx), run⟩

theorem Answered.part {h : (c : I.Call) → Program J (I.Reply c)} {es : List (Event I)}
    {js : List (Event J)} (answered : Answered h es js) {x : Event J} (mem : x ∈ js) :
    ∃ ev ∈ es, ∃ part, x ∈ part ∧ Trace (h ev.call) part (some ev.reply) := by
  induction answered with
  | nil => cases mem
  | cons answer others ih =>
    rcases List.mem_append.mp mem with mem | mem
    · exact ⟨_, .head _, _, mem, answer⟩
    · obtain ⟨ev, known, part, inside, run⟩ := ih mem
      exact ⟨ev, .tail _ known, part, inside, run⟩

/-- The runs that answer the questions of a run, put together. -/
theorem Trace.interpret {h : (c : I.Call) → Program J (I.Reply c)} {p : Program I α}
    {es : List (Event I)} {e : Option α} {js : List (Event J)} (run : Trace p es e)
    (answered : Answered h es js) : Trace (p.interpret h) js e := by
  induction run generalizing js with
  | cut p =>
    cases answered
    exact .cut _
  | done a =>
    cases answered
    exact .done a
  | ask r rest ih =>
    cases answered with
    | cons answer others => exact trace_bind_iff.mpr (.inr ⟨r, _, _, rfl, answer, ih others⟩)

/-- A run of an interpreted program: the program's own run so far, and the question that is being
answered, if the run is cut off inside its answer. -/
theorem trace_interpret {h : (c : I.Call) → Program J (I.Reply c)} {p : Program I α}
    {js : List (Event J)} {e : Option α} (run : Trace (p.interpret h) js e) :
    ∃ es settled, Answered h es settled ∧
      (js = settled ∧ Trace p es e ∨
        ∃ c pending, js = settled ++ pending ∧ e = none ∧ Trace (h c) pending none ∧
          ∀ r, Trace p (es ++ [⟨c, r⟩]) none) := by
  induction p generalizing js with
  | done a =>
    obtain ⟨rfl, rfl | rfl⟩ := trace_done_iff.mp run
    · exact ⟨[], [], .nil, .inl ⟨rfl, .cut _⟩⟩
    · exact ⟨[], [], .nil, .inl ⟨rfl, .done a⟩⟩
  | ask c k ih =>
    rw [interpret, trace_bind_iff] at run
    rcases run with ⟨rfl, pending⟩ | ⟨r, first, rest, rfl, answer, run⟩
    · exact ⟨[], [], .nil, .inr ⟨c, js, rfl, rfl, pending, fun r => .ask r (.cut _)⟩⟩
    · obtain ⟨es, settled, others, ⟨rfl, run⟩ | ⟨d, pending, rfl, rfl, inner, run⟩⟩ := ih r run
      · exact ⟨_, _, .cons answer others, .inl ⟨rfl, .ask r run⟩⟩
      · exact ⟨_, _, .cons answer others,
          .inr ⟨d, pending, by simp, rfl, inner, fun r' => .ask r (run r')⟩⟩

/-- A program can end in a value while all that happens is allowed. -/
def CanEnd (allowed : Event I → Prop) (p : Program I α) (a : α) : Prop :=
  ∃ es, Trace p es (some a) ∧ ∀ ev ∈ es, allowed ev

section Possible

variable {allowed : Event I → Prop}

theorem canEnd_done (a : α) : CanEnd allowed (Program.done a) a := ⟨[], .done a, by simp⟩

theorem canEnd_ask {c : I.Call} {k : I.Reply c → Program I α} {a : α} (r : I.Reply c)
    (may : allowed ⟨c, r⟩) (rest : CanEnd allowed (k r) a) : CanEnd allowed (Program.ask c k) a := by
  obtain ⟨es, run, only⟩ := rest
  exact ⟨⟨c, r⟩ :: es, .ask r run, List.forall_mem_cons.mpr ⟨may, only⟩⟩

theorem canEnd_bind {p : Program I α} {f : α → Program I β} {a : α} {b : β} (first : CanEnd allowed p a)
    (rest : CanEnd allowed (f a) b) : CanEnd allowed (p >>= f) b := by
  obtain ⟨before, run, early⟩ := first
  obtain ⟨after, run', late⟩ := rest
  exact ⟨before ++ after, trace_bind_iff.mpr (.inr ⟨a, before, after, rfl, run, run'⟩),
    List.forall_mem_append.mpr ⟨early, late⟩⟩

theorem canEnd_bindExcept {x : ExceptT ε (Program I) α} {f : α → ExceptT ε (Program I) β} {a : α}
    {e : Except ε β} (first : CanEnd allowed x.run (.ok a)) (rest : CanEnd allowed (f a).run e) :
    CanEnd allowed (x >>= f).run e :=
  canEnd_bind first rest

theorem canEnd_bindExcept_error {x : ExceptT ε (Program I) α} {f : α → ExceptT ε (Program I) β} {s : ε}
    (first : CanEnd allowed x.run (.error s)) : CanEnd allowed (x >>= f).run (.error s) :=
  canEnd_bind first (canEnd_done _)

theorem canEnd_mapExcept {x : ExceptT ε (Program I) α} {g : α → β} {a : α}
    (first : CanEnd allowed x.run (.ok a)) : CanEnd allowed (g <$> x).run (.ok (g a)) :=
  canEnd_bind first (canEnd_done _)

/-- A program whose questions can each be answered in an allowed way can end as those answers say. -/
theorem canEnd_interpret {h : (c : I.Call) → Program J (I.Reply c)} {allowed : Event J → Prop}
    {p : Program I α} {a : α} (can : CanEnd (fun ev => CanEnd allowed (h ev.call) ev.reply) p a) :
    CanEnd allowed (p.interpret h) a := by
  obtain ⟨es, run, each⟩ := can
  have together : ∃ js, Answered h es js ∧ ∀ x ∈ js, allowed x := by
    clear run
    induction es with
    | nil => exact ⟨[], .nil, by simp⟩
    | cons ev es ih =>
      obtain ⟨part, answer, early⟩ := each ev (.head _)
      obtain ⟨rest, others, late⟩ := ih fun x mem => each x (.tail _ mem)
      exact ⟨part ++ rest, .cons answer others, List.forall_mem_append.mpr ⟨early, late⟩⟩
  obtain ⟨js, answered, only⟩ := together
  exact ⟨js, run.interpret answered, only⟩

end Possible

/-- The questions of a program with the answers that changing surroundings give them. -/
def log (h : (c : I.Call) → StateM σ (I.Reply c)) : Program I α → σ → List (Event I)
  | .done _, _ => []
  | .ask c k, s => ⟨c, (h c s).1⟩ :: log h (k (h c s).1) (h c s).2

theorem trace_log (h : (c : I.Call) → StateM σ (I.Reply c)) (p : Program I α) (s : σ) :
    Trace p (p.log h s) (some (p.run (m := StateM σ) h s).1) := by
  induction p generalizing s with
  | done a => exact .done a
  | ask c k ih => exact .ask _ (ih _ _)

/-- The questions of a program with scripted answers, up to the first one that the script lacks. -/
def scripted (h : (c : I.Call) → Option (I.Reply c)) : Program I α → List (Event I) × Option α
  | .done a => ([], some a)
  | .ask c k =>
    match h c with
    | none => ([], none)
    | some r => (⟨c, r⟩ :: (scripted h (k r)).1, (scripted h (k r)).2)

private theorem trace_scripted (h : (c : I.Call) → Option (I.Reply c)) (p : Program I α) :
    Trace p (p.scripted h).1 (p.scripted h).2 := by
  induction p with
  | done a => exact .done a
  | ask c k ih =>
    rw [scripted]
    cases h c with
    | none => exact .cut _
    | some r => exact .ask r (ih r)

theorem trace_scripted_ok {h : (c : I.Call) → Option (I.Reply c)} {p : Program I (Except ε α)}
    (fine : (p.scripted h).2.elim false Except.isOk = true) :
    ∃ a, Trace p (p.scripted h).1 (some (.ok a)) := by
  have run := trace_scripted h p
  cases ended : (p.scripted h).2 with
  | none =>
    rw [ended] at fine
    cases fine
  | some result =>
    rw [ended] at fine run
    obtain ⟨a, rfl⟩ := exists_ok_of_isOk fine
    exact ⟨a, run⟩

end Program

end ScanProvisioning
