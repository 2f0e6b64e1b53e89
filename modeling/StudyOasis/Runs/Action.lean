import Mathlib.Control.Basic

/-!
# Actions that fail halfway

A handler awaits one step after another.  When a step is rejected the steps behind it do not
happen, but what the steps before it did stays: there is no transaction.  So an action gives a
result or an error, and a new state in either case.

* `Action.runOn` : the result of an action in a state, and the state it leaves;
* `Action.runOn_bind` and its companions : how the result is computed step by step.
-/

namespace StudyOasis

/-- A computation on a state that is resolved or rejected and leaves a state either way. -/
abbrev Action (σ ε α : Type) := ExceptT ε (StateM σ) α

namespace Action

variable {σ ε α β : Type}

/-- The result of an action in a state, and the state it leaves. -/
def runOn (x : Action σ ε α) (s : σ) : Except ε α × σ := StateT.run (ExceptT.run x) s

/-- What is done with the outcome of the first of two actions. -/
def andThen (f : α → Action σ ε β) : Except ε α × σ → Except ε β × σ
  | (.ok a, s) => (f a).runOn s
  | (.error e, s) => (.error e, s)

@[simp] theorem andThen_ok (f : α → Action σ ε β) (a : α) (s : σ) :
    andThen f (.ok a, s) = (f a).runOn s := rfl

@[simp] theorem andThen_error (f : α → Action σ ε β) (e : ε) (s : σ) :
    andThen f (.error e, s) = (.error e, s) := rfl

@[simp] theorem runOn_pure (a : α) (s : σ) :
    (pure a : Action σ ε α).runOn s = (.ok a, s) := rfl

@[simp] theorem runOn_throw (e : ε) (s : σ) :
    (throw e : Action σ ε α).runOn s = (.error e, s) := rfl

@[simp] theorem runOn_get (s : σ) : (get : Action σ ε σ).runOn s = (.ok s, s) := rfl

@[simp] theorem runOn_modify (g : σ → σ) (s : σ) :
    (modify g : Action σ ε PUnit).runOn s = (.ok ⟨⟩, g s) := rfl

/-- The second action starts in the state that the first one leaves, if the first is resolved. -/
@[simp] theorem runOn_bind (x : Action σ ε α) (f : α → Action σ ε β) (s : σ) :
    (x >>= f).runOn s = andThen f (x.runOn s) := by
  show (ExceptT.bindCont f (x.runOn s).1 (x.runOn s).2) = _
  rcases x.runOn s with ⟨a | e, t⟩ <;> rfl

@[simp] theorem runOn_map (f : α → β) (x : Action σ ε α) (s : σ) :
    (f <$> x).runOn s = andThen (fun a => pure (f a)) (x.runOn s) := by
  rw [← bind_pure_comp, runOn_bind]

/-- What a handler makes of the outcome of the action it guards. -/
def orElse (f : ε → Action σ ε α) : Except ε α × σ → Except ε α × σ
  | (.ok a, s) => (.ok a, s)
  | (.error e, s) => (f e).runOn s

@[simp] theorem orElse_ok (f : ε → Action σ ε α) (a : α) (s : σ) :
    orElse f (.ok a, s) = (.ok a, s) := rfl

@[simp] theorem orElse_error (f : ε → Action σ ε α) (e : ε) (s : σ) :
    orElse f (.error e, s) = (f e).runOn s := rfl

/-- The handler starts in the state that the rejected action leaves. -/
@[simp] theorem runOn_tryCatch (x : Action σ ε α) (f : ε → Action σ ε α) (s : σ) :
    (tryCatch x f).runOn s = orElse f (x.runOn s) := by
  show StateT.run (ExceptT.run (ExceptT.tryCatch x f)) s = orElse f (x.runOn s)
  simp only [ExceptT.tryCatch, ExceptT.run, ExceptT.mk, StateT.run, bind, StateT.bind]
  show _ = orElse f (StateT.run (ExceptT.run x) s)
  simp only [ExceptT.run, StateT.run]
  rcases (x : StateM σ (Except ε α)) s with ⟨a | e, t⟩ <;> rfl

end Action

end StudyOasis
