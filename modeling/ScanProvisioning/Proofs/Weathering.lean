import ScanProvisioning.Proofs.Http
import ScanProvisioning.Proofs.Pass.Teardown

namespace ScanProvisioning

/-- A result that says nobody was reached. -/
def Unreached {α : Type} (result : Except Failure α) : Prop :=
  ∃ operation message timedOut, result = .error (.unreachable operation message timedOut)

/-- A client call fails in a way that is retried. -/
def Retried (c : ClientCall) (reply : c.Reply) : Prop :=
  ∃ f, (⟨c, reply⟩ : Event clients).failure? = some f ∧ f.verdict = .retry transientDelay f.text

/-- A failure to reach somebody is retried, whatever it was about. -/
theorem Unreached.retried {α : Type} {reply : Except Failure α} (lost : Unreached reply) :
    ∃ f, Event.failure?.refusal reply = some f ∧ f.verdict = .retry transientDelay f.text := by
  obtain ⟨operation, message, timedOut, rfl⟩ := lost
  exact ⟨_, rfl, rfl⟩

namespace Program

variable {I : Interface} {α β : Type}

/-- Answers that are bad, and the answers that could have come in their place. -/
structure Hazard (I : Interface) where
  strikes : (c : I.Call) → I.Reply c → Prop
  instead : (c : I.Call) → I.Reply c → I.Reply c → Prop

/-- Every complete run ends in a bad value. -/
def Doomed (fails : α → Prop) (p : Program I α) : Prop :=
  ∀ es a, Trace p es (some a) → fails a

/-- After each bad answer the program is doomed, or goes on as after any answer in its place. -/
def Weathers (hazard : Hazard I) (fails : α → Prop) : Program I α → Prop
  | .done _ => True
  | .ask c k => ∀ r, Weathers hazard fails (k r) ∧
    (hazard.strikes c r → Doomed fails (k r) ∨ ∀ r', hazard.instead c r r' → k r' = k r)

/-- In every complete run a bad answer makes the end bad, or the same run is possible with any answer in its
place. -/
def Withstands (hazard : Hazard I) (fails : α → Prop) (p : Program I α) : Prop :=
  ∀ before c r after a, Trace p (before ++ ⟨c, r⟩ :: after) (some a) → hazard.strikes c r →
    fails a ∨ ∀ r', hazard.instead c r r' → Trace p (before ++ ⟨c, r'⟩ :: after) (some a)

section

variable {hazard : Hazard I} {fails : α → Prop} {fails' : β → Prop}

theorem Weathers.withstands {p : Program I α} (weathers : Weathers hazard fails p) :
    Withstands hazard fails p := by
  intro before c r after a run strikes
  induction before generalizing p with
  | nil =>
    cases run with
    | ask r rest =>
      rcases (weathers r).2 strikes with doomed | unnoticed
      · exact .inl (doomed _ _ rest)
      · right
        intro r' instead
        rw [← unnoticed r' instead] at rest
        exact .ask r' rest
  | cons ev before ih =>
    cases run with
    | ask r' rest =>
      rcases ih (weathers r').1 rest with bad | unnoticed
      · exact .inl bad
      · exact .inr fun r'' instead => .ask r' (unnoticed r'' instead)

private theorem doomed_done {a : α} (bad : fails a) : Doomed fails (Program.done a : Program I α) := by
  intro es a' run
  cases run
  exact bad

theorem doomed_bind {p : Program I α} {f : α → Program I β} (first : Doomed fails p)
    (passes : ∀ a, fails a → Doomed fails' (f a)) : Doomed fails' (p >>= f) := by
  intro es b run
  obtain ⟨⟨⟩, -⟩ | ⟨a, before, after, rfl, begun, rest⟩ := trace_bind_iff.mp run
  exact passes a (first _ _ begun) _ _ rest

theorem weathers_bind {p : Program I α} {f : α → Program I β} (first : Weathers hazard fails p)
    (rest : ∀ a, Weathers hazard fails' (f a)) (passes : ∀ a, fails a → Doomed fails' (f a)) :
    Weathers hazard fails' (p >>= f) := by
  induction p with
  | done a => exact rest a
  | ask c k ih =>
    intro r
    obtain ⟨later, struck⟩ := first r
    refine ⟨ih r later, ?_⟩
    intro strikes
    rcases struck strikes with doomed | unnoticed
    · exact .inl (doomed_bind doomed passes)
    · right
      intro r' instead
      exact congrArg (· >>= f) (unnoticed r' instead)

theorem weathers_mono {wider : α → Prop} (weaken : ∀ a, fails a → wider a) {p : Program I α}
    (weathers : Weathers hazard fails p) : Weathers hazard wider p := by
  induction p with
  | done a => trivial
  | ask c k ih =>
    intro r
    obtain ⟨later, struck⟩ := weathers r
    refine ⟨ih r later, fun strikes => (struck strikes).imp_left ?_⟩
    intro doomed es a run
    exact weaken a (doomed es a run)

theorem weathers_ask {c : I.Call} {k : I.Reply c → Program I α} (calm : ∀ r, ¬ hazard.strikes c r)
    (rest : ∀ r, Weathers hazard fails (k r)) : Weathers hazard fails (.ask c k) :=
  fun r => ⟨rest r, fun strikes => absurd strikes (calm r)⟩

end

/-- A program that may fail weathers a hazard, with failures to reach somebody. -/
def Weathered (hazard : Hazard I) (x : ExceptT Failure (Program I) α) : Prop :=
  Weathers hazard Unreached x.run

section

variable {hazard : Hazard I} {x : ExceptT Failure (Program I) α} {f : α → ExceptT Failure (Program I) β}

theorem doomed_throw {operation message : String} {timedOut : Bool} : Doomed Unreached
    (throw (.unreachable operation message timedOut) : ExceptT Failure (Program I) α).run :=
  doomed_done ⟨_, _, _, rfl⟩

theorem discard_eq_bind : discard x = x >>= fun _ => pure () := rfl

theorem Weathered.bind (first : Weathered hazard x) (rest : ∀ a, Weathered hazard (f a)) :
    Weathered hazard (x >>= f) := by
  refine weathers_bind first ?_ ?_
  · rintro (e | a)
    · trivial
    · exact rest a
  · rintro _ ⟨operation, message, timedOut, rfl⟩
    exact doomed_throw

theorem Weathered.discard (first : Weathered hazard x) : Weathered hazard (discard x) := by
  rw [discard_eq_bind]
  exact first.bind fun _ => trivial

end

end Program

end ScanProvisioning
