import Mathlib.Data.List.Basic
import Mathlib.Order.Basic

/-!
# Runs of event-driven machines

A machine is a partial step function `step : S → E → Option S` on states `S` and events `E`:
`none` says that the event cannot happen in the state.  Everything nondeterministic (the order
of events, the answers of the outside world, the clock) is part of the event.

* `Run step G s es s'` : the events `es` lead from `s` to `s'`, and each of them satisfies the
  guard `G` in the state it happens in (`AnyRun` when there is no guard);
* `Run.invariant` : what holds at the start and is kept by every guarded step holds at the end;
* `Run.history` : the same for what is said about the state and the events so far;
* `Run.relation` : the same for a reflexive and transitive relation between two states of a run;
* `Run.origin` : what is observed at the end of a run is traced back to a state of the run;
* `Run.guarded_iff_always` : the guard is met at every step exactly when the property holds in
  every state that is passed, if it is the guard that keeps it;
* `Run.guarded_iff_potential` : the same for the value of a potential at the end of the run;
* `Run.guarded_or_broken` : a run that does not meet its guard ends in a broken state, if such a
  step breaks the state and no step mends it;
* `Run.countP_add_le` : some steps of a run are no more than a variant allows that they lower, if
  only marked ones raise it.
-/

namespace StudyOasis

variable {S E : Type*}

/-- `Run step G s es s'` : the events `es` lead from `s` to `s'`, each under the guard `G`. -/
inductive Run (step : S → E → Option S) (G : S → E → Prop) : S → List E → S → Prop
  /-- No event. -/
  | nil (s : S) : Run step G s [] s
  /-- An event that satisfies the guard, then a run. -/
  | cons {s s' s'' : S} {e : E} {es : List E} :
      G s e → step s e = some s' → Run step G s' es s'' → Run step G s (e :: es) s''

/-- Runs without a guard. -/
abbrev AnyRun (step : S → E → Option S) : S → List E → S → Prop := Run step fun _ _ => True

namespace Run

variable {step : S → E → Option S} {G : S → E → Prop}

theorem single {s s' : S} {e : E} (hg : G s e) (h : step s e = some s') : Run step G s [e] s' :=
  .cons hg h (.nil s')

theorem append {s s' s'' : S} {es es' : List E} (h : Run step G s es s')
    (h' : Run step G s' es' s'') : Run step G s (es ++ es') s'' := by
  induction h with
  | nil => exact h'
  | cons hg hst _ ih => exact .cons hg hst (ih h')

/-- A run without its guard. -/
theorem any {s s' : S} {es : List E} (h : Run step G s es s') : AnyRun step s es s' := by
  induction h with
  | nil s => exact .nil s
  | cons _ hst _ ih => exact .cons trivial hst ih

/-- A step that checks its guard. -/
def guarded (step : S → E → Option S) (G : S → E → Prop) [∀ s e, Decidable (G s e)] (s : S)
    (e : E) : Option S :=
  if G s e then step s e else none

/-- A guarded run that has been computed. -/
theorem of_guarded [∀ s e, Decidable (G s e)] {s s' : S} {es : List E}
    (h : es.foldlM (guarded step G) s = some s') : Run step G s es s' := by
  induction es generalizing s with
  | nil =>
    obtain rfl := Option.some.inj h
    exact .nil _
  | cons e es ih =>
    obtain ⟨t, ht, h⟩ := Option.bind_eq_some_iff.1 h
    unfold guarded at ht
    split_ifs at ht with hg
    exact .cons hg ht (ih h)

/-- A run that has been computed. -/
theorem of_foldlM {s s' : S} {es : List E} (h : es.foldlM step s = some s') :
    AnyRun step s es s' := by
  induction es generalizing s with
  | nil =>
    obtain rfl := Option.some.inj h
    exact .nil _
  | cons e es ih =>
    obtain ⟨t, ht, h⟩ := Option.bind_eq_some_iff.1 h
    exact .cons trivial ht (ih h)

/-- The events and the start determine the end. -/
theorem unique {s s' s'' : S} {es : List E} (h : Run step G s es s') (h' : Run step G s es s'') :
    s' = s'' := by
  induction h with
  | nil =>
    cases h'
    rfl
  | cons _ hst _ ih =>
    cases h' with
    | cons _ hst' h' =>
      obtain rfl := Option.some.inj (hst.symm.trans hst')
      exact ih h'

/-- Along a run that keeps an invariant, a guard may be exchanged for one that follows from it. -/
theorem guard_mono {I : S → Prop} {G' : S → E → Prop} {s s' : S} {es : List E}
    (h : Run step G s es s') (h₀ : I s)
    (hI : ∀ s e s', I s → G s e → step s e = some s' → I s')
    (hG : ∀ s e, I s → G s e → G' s e) : Run step G' s es s' := by
  induction h with
  | nil s => exact .nil s
  | cons hg hst _ ih => exact .cons (hG _ _ h₀ hg) hst (ih (hI _ _ _ h₀ hg hst))

/-- Guards that say the same have the same runs. -/
theorem guard_congr {G' : S → E → Prop} (hG : ∀ s e, G s e ↔ G' s e) {s s' : S} {es : List E} :
    Run step G s es s' ↔ Run step G' s es s' := by
  have heq : G = G' := funext fun s => funext fun e => propext (hG s e)
  rw [heq]

/-- What holds at the start and is kept by every guarded step holds at the end. -/
theorem invariant {I : S → Prop} {s s' : S} {es : List E} (h : Run step G s es s') (h₀ : I s)
    (hstep : ∀ s e s', I s → G s e → step s e = some s' → I s') : I s' := by
  induction h with
  | nil => exact h₀
  | cons hg hst _ ih => exact ih (hstep _ _ _ h₀ hg hst)

/-- The same for what is said about a state and the events that have led to it. -/
theorem history {I : List E → S → Prop} {s s' : S} {es : List E} (h : Run step G s es s')
    (h₀ : I [] s)
    (hstep : ∀ past s e s', I past s → G s e → step s e = some s' → I (past ++ [e]) s') :
    I es s' := by
  suffices hpast : ∀ past, I past s → I (past ++ es) s' from hpast [] h₀
  clear h₀
  induction h with
  | nil =>
    intro past hI
    rwa [List.append_nil]
  | cons hg hst _ ih =>
    intro past hI
    rw [List.append_cons]
    exact ih _ (hstep past _ _ _ hI hg hst)

/-- A reflexive and transitive relation that holds along every guarded step out of a state with
the invariant `I` relates the ends of a run. -/
theorem relation {I : S → Prop} {R : S → S → Prop} {s s' : S} {es : List E}
    (h : Run step G s es s') (h₀ : I s)
    (hI : ∀ s e s', I s → G s e → step s e = some s' → I s')
    (hrefl : ∀ s, R s s) (htrans : ∀ {a b c}, R a b → R b c → R a c)
    (hR : ∀ s e s', I s → G s e → step s e = some s' → R s s') : R s s' := by
  induction h with
  | nil => exact hrefl _
  | cons hg hst _ ih => exact htrans (hR _ _ _ h₀ hg hst) (ih (hI _ _ _ h₀ hg hst))

/-- What can be observed of the last state of a run could be observed at the start, or was caused
(`Q`) by a state that the run passed. -/
theorem origin {X : Type*} {O Q : S → X → Prop} {s s' : S} {es : List E}
    (h : Run step G s es s')
    (hstep : ∀ s e s', G s e → step s e = some s' → ∀ x, O s' x → O s x ∨ Q s x) {x : X}
    (hx : O s' x) :
    O s x ∨ ∃ es₁ es₂ t, es = es₁ ++ es₂ ∧ Run step G s es₁ t ∧ Q t x := by
  induction h with
  | nil => exact .inl hx
  | cons hg hst _ ih =>
    -- the induction traces it back to the state after the first event
    rcases ih hx with hx | ⟨es₁, es₂, t, rfl, ht, hq⟩
    · rcases hstep _ _ _ hg hst x hx with hx | hq
      · exact .inl hx
      · exact .inr ⟨[], _, _, rfl, .nil _, hq⟩
    · exact .inr ⟨_ :: es₁, es₂, t, rfl, .cons hg hst ht, hq⟩

/-- Along the events, the property `P` holds in every state that is passed, the last one
included. -/
def Always (step : S → E → Option S) (P : S → Prop) (s : S) (es : List E) : Prop :=
  ∀ es₁ es₂ t, es = es₁ ++ es₂ → AnyRun step s es₁ t → P t

theorem Always.start {P : S → Prop} {s : S} {es : List E} (h : Always step P s es) : P s :=
  h [] es s rfl (.nil s)

theorem always_cons_iff {P : S → Prop} {s s' : S} {e : E} {es : List E} (h : step s e = some s') :
    Always step P s (e :: es) ↔ P s ∧ Always step P s' es := by
  constructor
  · intro ha
    refine ⟨ha.start, fun es₁ es₂ t heq hrun => ?_⟩
    exact ha (e :: es₁) es₂ t (by rw [heq, List.cons_append]) (.cons trivial h hrun)
  · rintro ⟨hs, ha⟩ es₁ es₂ t heq hrun
    cases hrun with
    | nil => exact hs
    | cons _ hst hrun =>
      obtain ⟨rfl, rfl⟩ := List.cons.inj heq
      obtain rfl := Option.some.inj (h.symm.trans hst)
      exact ha _ _ _ rfl hrun

/-- **The guard is met at every step exactly when the property holds all the time**, if a step
keeps the property exactly when it meets the guard. -/
theorem guarded_iff_always {I P : S → Prop} {s s' : S} {es : List E}
    (h : AnyRun step s es s') (h₀ : I s) (hp₀ : P s)
    (hI : ∀ s e s', I s → step s e = some s' → I s')
    (hstep : ∀ s e s', I s → P s → step s e = some s' → (P s' ↔ G s e)) :
    Run step G s es s' ↔ Always step P s es := by
  induction h with
  | nil s =>
    refine iff_of_true (.nil s) fun es₁ es₂ t heq hrun => ?_
    obtain ⟨rfl, rfl⟩ := List.nil_eq_append_iff.1 heq
    cases hrun
    exact hp₀
  | @cons s t s' e es _ hst _ ih =>
    have hI' : I t := hI _ _ _ h₀ hst
    rw [always_cons_iff hst]
    constructor
    · rintro (_ | ⟨hg, hst', hrun⟩)
      obtain rfl := Option.some.inj (hst.symm.trans hst')
      exact ⟨hp₀, (ih hI' ((hstep _ _ _ h₀ hp₀ hst).2 hg)).1 hrun⟩
    · rintro ⟨-, ha⟩
      exact .cons ((hstep _ _ _ h₀ hp₀ hst).1 ha.start) hst ((ih hI' ha.start).2 ha)

/-- **The guard is met at every step exactly when the potential is the same at the end**, if no step
lowers it and the guarded steps are those that keep it. -/
theorem guarded_iff_potential {A : Type*} [PartialOrder A] {f : S → A} {s s' : S} {es : List E}
    (h : AnyRun step s es s')
    (hle : ∀ s e s', step s e = some s' → f s ≤ f s')
    (hstep : ∀ s e s', step s e = some s' → (f s' = f s ↔ G s e)) :
    Run step G s es s' ↔ f s' = f s := by
  induction h with
  | nil s => exact iff_of_true (.nil s) rfl
  | @cons s t s' e es _ hst hrun ih =>
    have hmid : f s ≤ f t := hle _ _ _ hst
    have hend : f t ≤ f s' := by
      refine hrun.relation (I := fun _ => True) (R := fun a b => f a ≤ f b) trivial
        (fun _ _ _ _ _ _ => trivial) (fun _ => le_rfl) (fun h h' => h.trans h') ?_
      exact fun a e b _ _ hab => hle a e b hab
    constructor
    · rintro (_ | ⟨hg, hst', hrun'⟩)
      obtain rfl := Option.some.inj (hst.symm.trans hst')
      exact (ih.1 hrun').trans ((hstep _ _ _ hst).2 hg)
    · intro heq
      -- the potential cannot come back, so neither the step nor the rest changed it
      have hsame : f t = f s := (hend.trans heq.le).antisymm hmid
      exact .cons ((hstep _ _ _ hst).1 hsame) hst (ih.2 (heq.trans hsame.symm))

/-- **A run meets its guard, or ends in a state that is broken for good**: a step that does not
meet the guard breaks the state, and no step mends it. -/
theorem guarded_or_broken {I B : S → Prop} {s s' : S} {es : List E}
    (h : AnyRun step s es s') (h₀ : I s)
    (hI : ∀ s e s', I s → step s e = some s' → I s')
    (hbreak : ∀ s e s', I s → step s e = some s' → G s e ∨ B s')
    (hB : ∀ s e s', I s → B s → step s e = some s' → B s') :
    Run step G s es s' ∨ B s' := by
  induction h with
  | nil s => exact .inl (.nil s)
  | @cons s t s' e es _ hst hrun ih =>
    have hI' : I t := hI _ _ _ h₀ hst
    rcases hbreak _ _ _ h₀ hst with hg | hb
    · exact (ih hI').imp_left (.cons hg hst)
    · have hkept : I s' ∧ B s' := by
        refine hrun.invariant (I := fun s => I s ∧ B s) ⟨hI', hb⟩ ?_
        rintro a e b ⟨ha, hba⟩ - hab
        exact ⟨hI _ _ _ ha hab, hB _ _ _ ha hba hab⟩
      exact .inr hkept.2

/-- **A variant bounds how often something happens**: such a step lowers it, no other raises it, and
what a marked one brings is at most `k`. -/
theorem countP_add_le {I : S → Prop} {f : S → ℕ} {p mark : E → Bool} {k : ℕ} {s s' : S}
    {es : List E} (h : Run step G s es s') (h₀ : I s)
    (hI : ∀ s e s', I s → G s e → step s e = some s' → I s')
    (hstep : ∀ s e s', I s → G s e → step s e = some s' →
      f s' + (if p e then 1 else 0) ≤ f s + if mark e then k else 0) :
    es.countP p + f s' ≤ f s + k * es.countP mark := by
  induction h with
  | nil s => simp
  | @cons s t s' e es hg hst _ ih =>
    have hrest := ih (hI _ _ _ h₀ hg hst)
    have hone := hstep _ _ _ h₀ hg hst
    have hmark : k * (if mark e then 1 else 0) = if mark e then k else 0 := by
      split <;> simp
    rw [List.countP_cons, List.countP_cons, Nat.mul_add, hmark]
    omega

/-- Two runs taken together: a relation between their states that is kept by every pair of
related events relates the states they end in. -/
theorem lockstep {R : S → S → Prop} {Q : E → E → Prop} {s t s' t' : S} {es fs : List E}
    (hs : Run step G s es s') (ht : Run step G t fs t') (hQ : List.Forall₂ Q es fs) (h₀ : R s t)
    (hstep : ∀ s t e f s' t', R s t → Q e f → G s e → G t f → step s e = some s' →
      step t f = some t' → R s' t') : R s' t' := by
  induction hs generalizing t fs with
  | nil =>
    cases hQ
    cases ht
    exact h₀
  | cons hg hst _ ih =>
    cases hQ with
    | cons hq hqs =>
      cases ht with
      | cons hg' hst' ht' => exact ih ht' hqs (hstep _ _ _ _ _ _ h₀ hq hg hg' hst hst')

end Run

end StudyOasis
