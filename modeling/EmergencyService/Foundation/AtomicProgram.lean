import Mathlib.Logic.Relation
import Mathlib.Logic.Function.Basic

/- Programs whose only access to shared state is a call of an atomic operation.
   A program is a tree: it is done, it has raised an exception, or it calls an
   operation and continues with the answer. Exceptions keep the state. -/
namespace AtomicProgram

inductive Program (Op : Type) (Ret : Op → Type) (ε α : Type) where
  | done : α → Program Op Ret ε α
  | raise : ε → Program Op Ret ε α
  | call : (op : Op) → (Ret op → Program Op Ret ε α) → Program Op Ret ε α

variable {Op : Type} {Ret : Op → Type} {ε α β σ : Type}

def Program.bind : Program Op Ret ε α → (α → Program Op Ret ε β) → Program Op Ret ε β
  | .done a, f => f a
  | .raise e, _ => .raise e
  | .call op next, f => .call op fun r => (next r).bind f

instance : Monad (Program Op Ret ε) where
  pure := .done
  bind := Program.bind

def Program.catching : Program Op Ret ε α → (ε → Program Op Ret ε α) → Program Op Ret ε α
  | .done a, _ => .done a
  | .raise e, handler => handler e
  | .call op next, handler => .call op fun r => (next r).catching handler

def perform (op : Op) : Program Op Ret ε (Ret op) := .call op .done

def ofExcept : Except ε α → Program Op Ret ε α
  | .ok a => .done a
  | .error e => .raise e

/-- The program run alone: every call is answered by the state it finds. -/
def run (exec : (op : Op) → σ → Ret op × σ) : Program Op Ret ε α → σ → Except ε α × σ
  | .done a, s => (.ok a, s)
  | .raise e, s => (.error e, s)
  | .call op next, s => run exec (next (exec op s).1) (exec op s).2

section Run
variable (exec : (op : Op) → σ → Ret op × σ) (s : σ)

@[simp] theorem run_pure (a : α) :
    run exec (pure a : Program Op Ret ε α) s = (.ok a, s) := rfl

@[simp] theorem run_done (a : α) :
    run exec (.done a : Program Op Ret ε α) s = (.ok a, s) := rfl

@[simp] theorem run_raise (e : ε) :
    run exec (.raise e : Program Op Ret ε α) s = (.error e, s) := rfl

@[simp] theorem run_call (op : Op) (next : Ret op → Program Op Ret ε α) :
    run exec (.call op next) s = run exec (next (exec op s).1) (exec op s).2 := rfl

@[simp] theorem run_perform (op : Op) :
    run exec (perform op : Program Op Ret ε (Ret op)) s = (.ok (exec op s).1, (exec op s).2) :=
  rfl

@[simp] theorem run_ofExcept (result : Except ε α) :
    run exec (ofExcept result : Program Op Ret ε α) s = (result, s) := by
  cases result <;> rfl

theorem run_bind (p : Program Op Ret ε α) (f : α → Program Op Ret ε β) :
    run exec (p >>= f) s =
      match run exec p s with
      | (.ok a, s') => run exec (f a) s'
      | (.error e, s') => (.error e, s') := by
  change run exec (p.bind f) s = _
  induction p generalizing s with
  | done a => rfl
  | raise e => rfl
  | call op next ih => exact ih _ _

theorem run_catching (p : Program Op Ret ε α) (handler : ε → Program Op Ret ε α) :
    run exec (p.catching handler) s =
      match run exec p s with
      | (.ok a, s') => (.ok a, s')
      | (.error e, s') => run exec (handler e) s' := by
  induction p generalizing s with
  | done a => rfl
  | raise e => rfl
  | call op next ih => exact ih _ _

theorem run_bind_ok {p : Program Op Ret ε α} {f : α → Program Op Ret ε β} {a : α} {s' : σ}
    (first : run exec p s = (.ok a, s')) : run exec (p >>= f) s = run exec (f a) s' := by
  rw [run_bind, first]

theorem run_bind_error {p : Program Op Ret ε α} {f : α → Program Op Ret ε β} {e : ε} {s' : σ}
    (first : run exec p s = (.error e, s')) : run exec (p >>= f) s = (.error e, s') := by
  rw [run_bind, first]

end Run

/-- Every call the program can make satisfies `allowed`, whatever answers it gets
    among those in `answers`. -/
def Calls (answers : (op : Op) → Ret op → Prop) (allowed : Op → Prop) :
    Program Op Ret ε α → Prop
  | .done _ => True
  | .raise _ => True
  | .call op next => allowed op ∧ ∀ r, answers op r → Calls answers allowed (next r)

section Calls
variable {answers : (op : Op) → Ret op → Prop} {allowed wider : Op → Prop}

@[simp] theorem calls_pure (a : α) :
    Calls answers allowed (pure a : Program Op Ret ε α) := trivial

@[simp] theorem calls_done (a : α) :
    Calls answers allowed (.done a : Program Op Ret ε α) := trivial

@[simp] theorem calls_raise (e : ε) :
    Calls answers allowed (.raise e : Program Op Ret ε α) := trivial

@[simp] theorem calls_perform (op : Op) :
    Calls answers allowed (perform op : Program Op Ret ε (Ret op)) ↔ allowed op := by
  simp [perform, Calls]

@[simp] theorem calls_ofExcept (result : Except ε α) :
    Calls answers allowed (ofExcept result : Program Op Ret ε α) := by
  cases result <;> trivial

theorem calls_bind {p : Program Op Ret ε α} {f : α → Program Op Ret ε β}
    (first : Calls answers allowed p) (later : ∀ a, Calls answers allowed (f a)) :
    Calls answers allowed (p >>= f) := by
  change Calls answers allowed (p.bind f)
  induction p with
  | done a => exact later a
  | raise e => trivial
  | call op next ih => exact ⟨first.1, fun r h => ih r (first.2 r h)⟩

/-- A first call followed by a continuation that may rely on the answer. -/
theorem calls_perform_bind {op : Op} {f : Ret op → Program Op Ret ε β}
    (first : allowed op) (later : ∀ r, answers op r → Calls answers allowed (f r)) :
    Calls answers allowed (perform op >>= f) := ⟨first, later⟩

theorem calls_catching {p : Program Op Ret ε α} {handler : ε → Program Op Ret ε α}
    (body : Calls answers allowed p) (rescue : ∀ e, Calls answers allowed (handler e)) :
    Calls answers allowed (p.catching handler) := by
  induction p with
  | done a => trivial
  | raise e => exact rescue e
  | call op next ih => exact ⟨body.1, fun r h => ih r (body.2 r h)⟩

theorem calls_mono {p : Program Op Ret ε α} (h : Calls answers allowed p)
    (weaker : ∀ op, allowed op → wider op) : Calls answers wider p := by
  induction p with
  | done a => trivial
  | raise e => trivial
  | call op next ih => exact ⟨weaker op h.1, fun r ans => ih r (h.2 r ans)⟩

theorem calls_and {p : Program Op Ret ε α} (first : Calls answers allowed p)
    (second : Calls answers wider p) : Calls answers (fun op => allowed op ∧ wider op) p := by
  induction p with
  | done a => trivial
  | raise e => trivial
  | call op next ih =>
    exact ⟨⟨first.1, second.1⟩, fun r answer => ih r (first.2 r answer) (second.2 r answer)⟩

end Calls

end AtomicProgram
