namespace ScanProvisioning

/-- The questions a program may ask, and the type of the answer to each. -/
structure Interface where
  Call : Type
  Reply : Call → Type

/-- A computation that asks the questions of an interface and ends in a value. -/
inductive Program (I : Interface) (α : Type) : Type
  | done (a : α)
  | ask (c : I.Call) (k : I.Reply c → Program I α)

namespace Program

variable {I J : Interface} {α β γ : Type}

def bind : Program I α → (α → Program I β) → Program I β
  | done a, f => f a
  | ask c k, f => ask c fun r => (k r).bind f

instance : Monad (Program I) where
  pure := done
  bind := bind

@[simp] theorem pure_eq (a : α) : (pure a : Program I α) = done a := rfl

@[simp] theorem done_bind (a : α) (f : α → Program I β) : done a >>= f = f a := rfl

@[simp] theorem ask_bind (c : I.Call) (k : I.Reply c → Program I α) (f : α → Program I β) :
    ask c k >>= f = ask c fun r => k r >>= f := rfl

private theorem bind_done (p : Program I α) : p >>= done = p := by
  induction p with
  | done a => rfl
  | ask c k ih => simp only [ask_bind]; congr 1; funext r; exact ih r

theorem bind_assoc (p : Program I α) (f : α → Program I β) (g : β → Program I γ) :
    p >>= f >>= g = p >>= fun a => f a >>= g := by
  induction p with
  | done a => rfl
  | ask c k ih => simp only [ask_bind]; congr 1; funext r; exact ih r

instance : LawfulMonad (Program I) :=
  LawfulMonad.mk' (Program I) bind_done (fun _ _ => rfl) bind_assoc

def call (c : I.Call) : Program I (I.Reply c) := ask c done

/-- Answer every question by a program over another interface. -/
def interpret (h : (c : I.Call) → Program J (I.Reply c)) : Program I α → Program J α
  | done a => done a
  | ask c k => h c >>= fun r => (k r).interpret h

theorem interpret_bind (h : (c : I.Call) → Program J (I.Reply c)) (p : Program I α)
    (f : α → Program I β) :
    (p >>= f).interpret h = p.interpret h >>= fun a => (f a).interpret h := by
  induction p with
  | done a => rfl
  | ask c k ih => simp only [ask_bind, interpret, ih, bind_assoc]

theorem interpret_call (h : (c : I.Call) → Program J (I.Reply c)) (c : I.Call) :
    (call c).interpret h = h c := bind_done (h c)

def run {m : Type → Type} [Monad m] (h : (c : I.Call) → m (I.Reply c)) : Program I α → m α
  | done a => pure a
  | ask c k => h c >>= fun r => (k r).run h

end Program

end ScanProvisioning
