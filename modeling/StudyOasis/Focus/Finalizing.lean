import Mathlib.Data.List.Nodup
import StudyOasis.Runs.Basic

/-!
# How sessions end

`FocusMode` creates a session when the mode is entered, and ends it when the mode is left or the
work is handed in.  What the effect does depends on the mode and on `sessionStarted` at the moment
in which React commits a render; the answers of the server come in between.  While a session is
created the mode can be left and entered again, and then a second session is created.

* `finals_nodup_run` : **no session is ended twice**, in whatever order things happen;
* `accounted_iff` : **no session is forgotten**, as long as the page is open, exactly when no
  session is created while there is another one.
-/

namespace StudyOasis

/-! ### The component -/

/-- The request that `finalizeSession` waits for. -/
inductive FinalCall where
  /-- `updateSession` with the status `abandoned`. -/
  | abandoning
  /-- `updateSession` with the active time, before `completeSession`. -/
  | updating
  | completing
  deriving DecidableEq, Repr

/-- A `finalizeSession` that has not ended.  The session that its last request is about is
history. -/
structure Finalizing where
  call : FinalCall
  session : String
  deriving DecidableEq, Repr

/-- The refs of `FocusMode`, and what has become of the sessions. -/
structure SessionBook where
  /-- `sessionIdRef.current`. -/
  sessionId : Option String := none
  /-- What `finalizingRef.current` stands for. -/
  finalizing : Option Finalizing := none
  /-- History: the sessions that were created, -/
  created : List String := []
  /-- those for which the request that ends a session was sent, -/
  finals : List String := []
  /-- and those whose `finalizeSession` failed before that. -/
  failed : List String := []
  deriving DecidableEq, Repr

/-- `FocusMode`, with the mode of the chat page. -/
structure FocusLifecycle extends SessionBook where
  /-- `focusModeActive` of the page. -/
  isActive : Bool := false
  sessionStarted : Bool := false
  /-- The values with which the effect ran last. -/
  committed : Bool × Bool := (false, false)
  /-- The calls of `createSession` in flight. -/
  creating : ℕ := 0
  deriving DecidableEq, Repr

/-- What happens next. -/
inductive LifecycleEvent where
  /-- The button in the header. -/
  | toggle
  /-- React commits a render in which the mode or `sessionStarted` is another one. -/
  | commit
  /-- A session is created; its id is a new one. -/
  | created (id : String)
  | createFailed
  /-- `onSubmit` of `CompleteWorkModal`, when the proof is uploaded. -/
  | submitted
  /-- The answer that `finalizeSession` waits for. -/
  | answered (ok : Bool)
  deriving DecidableEq, Repr

namespace FocusLifecycle

/-- `finalizeSession`, up to its first answer. -/
def finalizeSession (s : FocusLifecycle) (call : FinalCall) : FocusLifecycle :=
  match s.sessionId, s.finalizing with
  | some id, none =>
    { s with
      finalizing := some ⟨call, id⟩
      finals := if call = .abandoning then s.finals ++ [id] else s.finals }
  | _, _ => s

/-- The effect. -/
def effect (s : FocusLifecycle) : FocusLifecycle :=
  if s.isActive && !s.sessionStarted then { s with creating := s.creating + 1 }
  else if !s.isActive && s.sessionStarted then s.finalizeSession .abandoning
  else s

/-- `resetSession`, and the end of `finalizeSession`. -/
def resetSession (s : FocusLifecycle) : FocusLifecycle :=
  { s with finalizing := none, sessionStarted := false, sessionId := none }

/-- One step. -/
def step (s : FocusLifecycle) : LifecycleEvent → Option FocusLifecycle
  | .toggle => some { s with isActive := !s.isActive }
  | .commit =>
    if (s.isActive, s.sessionStarted) = s.committed then none
    else some { s.effect with committed := (s.isActive, s.sessionStarted) }
  | .created id =>
    if s.creating = 0 ∨ id ∈ s.created then none
    else some { s with
      creating := s.creating - 1
      sessionId := some id
      sessionStarted := true
      created := s.created ++ [id] }
  | .createFailed =>
    if s.creating = 0 then none else some { s with creating := s.creating - 1 }
  | .submitted =>
    -- without a session, or while it is ended already, the form is closed at once
    if s.sessionId ≠ none ∧ s.finalizing = none then some (s.finalizeSession .updating)
    else some { s with isActive := false }
  | .answered ok =>
    match s.finalizing with
    | none => none
    | some ⟨.abandoning, _⟩ => some s.resetSession
    | some ⟨.updating, session⟩ =>
      if ok then
        -- the ref is read again
        some { s with
          finalizing := some ⟨.completing, s.sessionId.getD session⟩
          finals := s.finals ++ s.sessionId.toList }
      else
        some { s.resetSession with isActive := false, failed := s.failed ++ [session] }
    | some ⟨.completing, _⟩ => some { s.resetSession with isActive := false }

/-- No session is created while there is another one. -/
def NoOverlap (s : FocusLifecycle) : LifecycleEvent → Prop
  | .created _ => s.sessionId = none
  | _ => True

instance (s : FocusLifecycle) (e : LifecycleEvent) : Decidable (s.NoOverlap e) := by
  unfold NoOverlap
  split <;> infer_instance

end FocusLifecycle

/-! ### What a step does -/

namespace SessionBook

/-- What a step does to the sessions. -/
inductive Moves (b : SessionBook) : SessionBook → Prop
  | same : b.Moves b
  /-- A session is created, and takes the place of the one before. -/
  | created {id : String} (hid : id ∉ b.created) :
      b.Moves { b with sessionId := some id, created := b.created ++ [id] }
  /-- `finalizeSession` begins: the session is abandoned, -/
  | abandoned {id : String} (hid : b.sessionId = some id) (hidle : b.finalizing = none) :
      b.Moves { b with finalizing := some ⟨.abandoning, id⟩, finals := b.finals ++ [id] }
  /-- or it is updated. -/
  | began {id : String} (hid : b.sessionId = some id) (hidle : b.finalizing = none) :
      b.Moves { b with finalizing := some ⟨.updating, id⟩ }
  /-- The session that there is after the update is completed. -/
  | updated {session : String} (hf : b.finalizing = some ⟨.updating, session⟩) :
      b.Moves { b with
        finalizing := some ⟨.completing, b.sessionId.getD session⟩
        finals := b.finals ++ b.sessionId.toList }
  /-- The update fails. -/
  | refused {session : String} (hf : b.finalizing = some ⟨.updating, session⟩) :
      b.Moves { b with finalizing := none, sessionId := none, failed := b.failed ++ [session] }
  /-- `finalizeSession` ends. -/
  | ended {f : Finalizing} (hf : b.finalizing = some f) (hcall : f.call ≠ .updating) :
      b.Moves { b with finalizing := none, sessionId := none }

end SessionBook

namespace FocusLifecycle

variable {s s' : FocusLifecycle} {e : LifecycleEvent}

theorem moves_abandon (s : FocusLifecycle) :
    s.toSessionBook.Moves (s.finalizeSession .abandoning).toSessionBook := by
  unfold finalizeSession
  split
  · rename_i id hid hidle
    exact .abandoned hid hidle
  · exact .same

theorem moves_update (s : FocusLifecycle) :
    s.toSessionBook.Moves (s.finalizeSession .updating).toSessionBook := by
  unfold finalizeSession
  split
  · rename_i id hid hidle
    exact .began hid hidle
  · exact .same

theorem moves_effect (s : FocusLifecycle) :
    s.toSessionBook.Moves s.effect.toSessionBook := by
  unfold effect
  split_ifs
  · exact .same
  · exact moves_abandon s
  · exact .same

/-- **What a step does to the sessions.** -/
theorem moves_step (h : s.step e = some s') : s.toSessionBook.Moves s'.toSessionBook := by
  cases e with
  | toggle =>
    obtain rfl := Option.some.inj h
    exact .same
  | commit =>
    simp only [step] at h
    split_ifs at h
    obtain rfl := Option.some.inj h
    exact moves_effect s
  | created id =>
    simp only [step] at h
    split_ifs at h with hguard
    obtain rfl := Option.some.inj h
    exact .created fun hmem => hguard (.inr hmem)
  | createFailed =>
    simp only [step] at h
    split_ifs at h
    obtain rfl := Option.some.inj h
    exact .same
  | submitted =>
    simp only [step] at h
    split_ifs at h
    · obtain rfl := Option.some.inj h
      exact moves_update s
    · obtain rfl := Option.some.inj h
      exact .same
  | answered ok =>
    simp only [step] at h
    split at h
    · cases h
    · rename_i hf
      obtain rfl := Option.some.inj h
      exact .ended hf nofun
    · rename_i session hf
      split_ifs at h
      · obtain rfl := Option.some.inj h
        exact .updated hf
      · obtain rfl := Option.some.inj h
        exact .refused hf
    · rename_i hf
      obtain rfl := Option.some.inj h
      exact .ended hf nofun

theorem created_finalizeSession (s : FocusLifecycle) (call : FinalCall) :
    (s.finalizeSession call).created = s.created := by
  unfold finalizeSession
  split <;> rfl

theorem created_effect (s : FocusLifecycle) : s.effect.created = s.created := by
  unfold effect
  split_ifs
  · rfl
  · exact created_finalizeSession s _
  · rfl

/-- Only an answer of `createSession` adds a session. -/
theorem created_step (h : s.step e = some s') :
    s'.created = s.created ∨ ∃ id, e = .created id ∧ s'.created = s.created ++ [id] := by
  cases e with
  | toggle =>
    obtain rfl := Option.some.inj h
    exact .inl rfl
  | commit =>
    simp only [step] at h
    split_ifs at h
    obtain rfl := Option.some.inj h
    exact .inl (created_effect s)
  | created id =>
    simp only [step] at h
    split_ifs at h
    obtain rfl := Option.some.inj h
    exact .inr ⟨id, rfl, rfl⟩
  | createFailed =>
    simp only [step] at h
    split_ifs at h
    obtain rfl := Option.some.inj h
    exact .inl rfl
  | submitted =>
    simp only [step] at h
    split_ifs at h
    · obtain rfl := Option.some.inj h
      exact .inl (created_finalizeSession s _)
    · obtain rfl := Option.some.inj h
      exact .inl rfl
  | answered ok =>
    simp only [step] at h
    split at h
    · cases h
    · obtain rfl := Option.some.inj h
      exact .inl rfl
    · split_ifs at h
      · obtain rfl := Option.some.inj h
        exact .inl rfl
      · obtain rfl := Option.some.inj h
        exact .inl rfl
    · obtain rfl := Option.some.inj h
      exact .inl rfl

/-- The guard, told from the sessions before and after the step. -/
theorem noOverlap_iff (h : s.step e = some s') :
    s.NoOverlap e ↔ s.sessionId = none ∨ s'.created = s.created := by
  rcases created_step h with hsame | ⟨id, rfl, hcreated⟩
  · refine iff_of_true ?_ (.inr hsame)
    cases e with
    | created id =>
      simp only [step] at h
      split_ifs at h
      obtain rfl := Option.some.inj h
      exact absurd (List.append_right_eq_self.1 hsame) (List.cons_ne_nil id [])
    | _ => trivial
  · refine (or_iff_left ?_).symm
    rw [hcreated]
    exact fun heq => List.cons_ne_nil id [] (List.append_right_eq_self.1 heq)

end FocusLifecycle

/-! ### No session is ended twice -/

namespace SessionBook

variable {b b' : SessionBook}

/-- What holds of the sessions all the time. -/
structure Tidy (b : SessionBook) : Prop where
  finals_nodup : b.finals.Nodup
  finals_created : ∀ id ∈ b.finals, id ∈ b.created
  failed_created : ∀ id ∈ b.failed, id ∈ b.created
  held_created : ∀ id, b.sessionId = some id → id ∈ b.created
  /-- The session at hand has not failed to be ended, -/
  held_failed : ∀ id, b.sessionId = some id → id ∉ b.failed
  /-- and when its last request has been sent, the answer is still out. -/
  held_final : ∀ id, b.sessionId = some id → id ∈ b.finals →
    ∃ f, b.finalizing = some f ∧ f.call ≠ .updating ∧ f.session = id
  /-- While a session is ended there is one at hand. -/
  busy : b.finalizing ≠ none → b.sessionId ≠ none
  session_created : ∀ f, b.finalizing = some f → f.session ∈ b.created
  session_failed : ∀ f, b.finalizing = some f → f.session ∉ b.failed
  session_final : ∀ f, b.finalizing = some f → (f.session ∈ b.finals ↔ f.call ≠ .updating)

theorem tidy_empty : Tidy {} := by
  constructor <;> simp

theorem Tidy.not_final {id : String} (h : b.Tidy) (hid : b.sessionId = some id)
    (hf : ∀ f, b.finalizing = some f → f.call = .updating) : id ∉ b.finals := by
  intro hmem
  obtain ⟨f, hfin, hcall, -⟩ := h.held_final id hid hmem
  exact hcall (hf f hfin)

/-- The session at hand is the next one that is ended. -/
theorem Tidy.finals_concat {id : String} (h : b.Tidy) (hid : b.sessionId = some id)
    (hnew : id ∉ b.finals) :
    (b.finals ++ [id]).Nodup ∧ ∀ x ∈ b.finals ++ [id], x ∈ b.created := by
  constructor
  · rw [← List.concat_eq_append]
    exact h.finals_nodup.concat hnew
  · intro x hx
    rcases List.mem_append.1 hx with hx | hx
    · exact h.finals_created x hx
    · exact List.mem_singleton.1 hx ▸ h.held_created id hid

theorem Tidy.moves (h : b.Tidy) (hm : b.Moves b') : b'.Tidy := by
  cases hm with
  | same => exact h
  | @created id hid =>
    have hnew : id ∉ b.finals := fun hmem => hid (h.finals_created id hmem)
    have hfailed : id ∉ b.failed := fun hmem => hid (h.failed_created id hmem)
    refine ⟨h.finals_nodup, fun x hx => List.mem_append_left _ (h.finals_created x hx),
      fun x hx => List.mem_append_left _ (h.failed_created x hx), ?_, ?_, ?_, nofun, ?_,
      h.session_failed, h.session_final⟩
    · rintro x ⟨⟩
      exact List.mem_append_right _ (List.mem_singleton_self id)
    · rintro x ⟨⟩
      exact hfailed
    · rintro x ⟨⟩ hmem
      exact absurd hmem hnew
    · exact fun f hf => List.mem_append_left _ (h.session_created f hf)
  | @abandoned id hid hidle =>
    have hnew : id ∉ b.finals := h.not_final hid (by simp [hidle])
    obtain ⟨hnodup, hmem⟩ := h.finals_concat hid hnew
    refine ⟨hnodup, hmem, h.failed_created, h.held_created, h.held_failed, ?_, ?_, ?_, ?_, ?_⟩
    · intro x hx _
      obtain rfl := Option.some.inj (hid.symm.trans hx)
      exact ⟨_, rfl, nofun, rfl⟩
    · simp [hid]
    · rintro f ⟨⟩
      exact h.held_created id hid
    · rintro f ⟨⟩
      exact h.held_failed id hid
    · rintro f ⟨⟩
      simp
  | @began id hid hidle =>
    have hnew : id ∉ b.finals := h.not_final hid (by simp [hidle])
    refine ⟨h.finals_nodup, h.finals_created, h.failed_created, h.held_created, h.held_failed,
      ?_, ?_, ?_, ?_, ?_⟩
    · intro x hx hmem
      obtain rfl := Option.some.inj (hid.symm.trans hx)
      exact absurd hmem hnew
    · simp [hid]
    · rintro f ⟨⟩
      exact h.held_created id hid
    · rintro f ⟨⟩
      exact h.held_failed id hid
    · rintro f ⟨⟩
      simpa using hnew
  | @updated session hf =>
    obtain ⟨id, hid⟩ := Option.ne_none_iff_exists'.1 (h.busy (by simp [hf]))
    have hnew : id ∉ b.finals := h.not_final hid (by simp [hf])
    have hcreated : id ∈ b.created := h.held_created id hid
    obtain ⟨hnodup, hmem⟩ := h.finals_concat hid hnew
    simp only [hid, Option.getD_some, Option.toList_some]
    refine ⟨hnodup, hmem, h.failed_created, ?_, ?_, ?_, nofun, ?_, ?_, ?_⟩
    · rintro x ⟨⟩
      exact hcreated
    · rintro x ⟨⟩
      exact h.held_failed id hid
    · rintro x ⟨⟩ _
      exact ⟨_, rfl, nofun, rfl⟩
    · rintro f ⟨⟩
      exact hcreated
    · rintro f ⟨⟩
      exact h.held_failed id hid
    · rintro f ⟨⟩
      simp
  | @refused session hf =>
    refine ⟨h.finals_nodup, h.finals_created, ?_, nofun, nofun, nofun, fun hne => absurd rfl hne,
      nofun, nofun, nofun⟩
    intro x hx
    rcases List.mem_append.1 hx with hx | hx
    · exact h.failed_created x hx
    · exact List.mem_singleton.1 hx ▸ h.session_created _ hf
  | ended hf hcall =>
    exact ⟨h.finals_nodup, h.finals_created, h.failed_created, nofun, nofun, nofun,
      fun hne => absurd rfl hne, nofun, nofun, nofun⟩

end SessionBook

theorem FocusLifecycle.tidy_run {s : FocusLifecycle} {es : List LifecycleEvent}
    (h : AnyRun FocusLifecycle.step {} es s) : s.toSessionBook.Tidy := by
  refine h.invariant (I := fun s => s.toSessionBook.Tidy) SessionBook.tidy_empty ?_
  intro s e s' ht _ hst
  exact ht.moves (FocusLifecycle.moves_step hst)

/-- **No session is ended twice.** -/
theorem FocusLifecycle.finals_nodup_run {s : FocusLifecycle} {es : List LifecycleEvent}
    (h : AnyRun FocusLifecycle.step {} es s) : s.finals.Nodup :=
  (FocusLifecycle.tidy_run h).finals_nodup

/-- A session is abandoned, and the next one is handed in. -/
def FocusLifecycle.twoSessions : List LifecycleEvent :=
  [.toggle, .commit, .created "a", .commit, .toggle, .commit, .answered false, .toggle, .commit,
    .created "b", .commit, .submitted, .answered true]

theorem FocusLifecycle.finals_nodup_run_two :
    ∃ s : FocusLifecycle, AnyRun FocusLifecycle.step {} FocusLifecycle.twoSessions s ∧
      s.finals = ["a", "b"] ∧ s.finals.Nodup := by
  have hrun : AnyRun FocusLifecycle.step {} FocusLifecycle.twoSessions _ := Run.of_foldlM rfl
  exact ⟨_, hrun, rfl, FocusLifecycle.finals_nodup_run hrun⟩

/-! ### No session is forgotten -/

namespace SessionBook

variable {b b' : SessionBook}

/-- Each session that was created was ended, or could not be, or is at hand. -/
def Accounted (b : SessionBook) : Prop :=
  ∀ id ∈ b.created, id ∈ b.finals ∨ id ∈ b.failed ∨ b.sessionId = some id

instance (b : SessionBook) : Decidable b.Accounted := by
  unfold Accounted
  infer_instance

/-- The same while a session is ended: it is the one at hand. -/
structure Good (b : SessionBook) : Prop where
  accounted : b.Accounted
  held : ∀ f, b.finalizing = some f → b.sessionId = some f.session

/-- A session that nobody knows of any more. -/
structure Lost (b : SessionBook) (id : String) : Prop where
  created : id ∈ b.created
  finals : id ∉ b.finals
  failed : id ∉ b.failed
  held : b.sessionId ≠ some id
  session : ∀ f, b.finalizing = some f → f.session ≠ id

/-- What cannot be made good: a session is lost, or one is ended while another one is at hand. -/
def Broken (b : SessionBook) : Prop :=
  (∃ id, b.Lost id) ∨ ∃ f, b.finalizing = some f ∧ b.sessionId ≠ some f.session

theorem Good.moves (h : b.Good) (ht : b.Tidy) (hm : b.Moves b')
    (hnone : b.sessionId = none ∨ b'.created = b.created) : b'.Good := by
  cases hm with
  | same => exact h
  | @created id hid =>
    have hno : b.sessionId = none :=
      hnone.resolve_right fun heq => List.cons_ne_nil id [] (List.append_right_eq_self.1 heq)
    refine ⟨fun x hx => ?_, fun f hf => absurd ((h.held f hf).symm.trans hno) nofun⟩
    rcases List.mem_append.1 hx with hx | hx
    · rcases h.accounted x hx with hfin | hfail | hheld
      · exact .inl hfin
      · exact .inr (.inl hfail)
      · exact absurd (hheld.symm.trans hno) nofun
    · exact .inr (.inr (congrArg some (List.mem_singleton.1 hx).symm))
  | @abandoned id hid hidle =>
    refine ⟨fun x hx => (h.accounted x hx).imp_left (List.mem_append_left _), ?_⟩
    rintro f ⟨⟩
    exact hid
  | @began id hid hidle =>
    refine ⟨h.accounted, ?_⟩
    rintro f ⟨⟩
    exact hid
  | @updated session hf =>
    have hid : b.sessionId = some session := h.held _ hf
    refine ⟨fun x hx => (h.accounted x hx).imp_left (List.mem_append_left _), ?_⟩
    rintro f ⟨⟩
    simp [hid]
  | @refused session hf =>
    have hid : b.sessionId = some session := h.held _ hf
    refine ⟨fun x hx => ?_, nofun⟩
    rcases h.accounted x hx with hfin | hfail | hheld
    · exact .inl hfin
    · exact .inr (.inl (List.mem_append_left _ hfail))
    · obtain rfl := Option.some.inj (hid.symm.trans hheld)
      exact .inr (.inl (List.mem_append_right _ (List.mem_singleton_self _)))
  | @ended f hf hcall =>
    have hid : b.sessionId = some f.session := h.held f hf
    refine ⟨fun x hx => ?_, nofun⟩
    rcases h.accounted x hx with hfin | hfail | hheld
    · exact .inl hfin
    · exact .inr (.inl hfail)
    · obtain rfl := Option.some.inj (hid.symm.trans hheld)
      exact .inl ((ht.session_final f hf).2 hcall)

/-- A session that takes the place of another one breaks the book. -/
theorem Tidy.broken_of_created {id : String} (h : b.Tidy) (hid : id ∉ b.created)
    (hne : b.sessionId ≠ none) :
    Broken { b with sessionId := some id, created := b.created ++ [id] } := by
  obtain ⟨z, hz⟩ := Option.ne_none_iff_exists'.1 hne
  rcases hf : b.finalizing with _ | f
  · -- the session before is not known any more
    have hcreated : z ∈ b.created := h.held_created z hz
    refine .inl ⟨z, List.mem_append_left _ hcreated, h.not_final hz (by simp [hf]),
      h.held_failed z hz, ?_, nofun⟩
    rintro ⟨⟩
    exact hid hcreated
  · refine .inr ⟨f, rfl, ?_⟩
    rintro ⟨⟩
    exact hid (h.session_created f hf)

/-- What is lost stays lost. -/
theorem Lost.moves {id : String} (h : b.Lost id) (hm : b.Moves b') : b'.Lost id := by
  cases hm with
  | same => exact h
  | @created id' hid =>
    refine ⟨List.mem_append_left _ h.created, h.finals, h.failed, ?_, h.session⟩
    rintro ⟨⟩
    exact hid h.created
  | @abandoned id' hid hidle =>
    have hne : id ≠ id' := by
      rintro rfl
      exact h.held hid
    refine ⟨h.created, ?_, h.failed, h.held, ?_⟩
    · rw [List.mem_append, List.mem_singleton, not_or]
      exact ⟨h.finals, hne⟩
    · rintro f ⟨⟩
      exact hne.symm
  | @began id' hid hidle =>
    refine ⟨h.created, h.finals, h.failed, h.held, ?_⟩
    rintro f ⟨⟩ rfl
    exact h.held hid
  | @updated session hf =>
    refine ⟨h.created, ?_, h.failed, h.held, ?_⟩
    · rw [List.mem_append, Option.mem_toList, not_or]
      exact ⟨h.finals, h.held⟩
    · rintro f ⟨⟩ hses
      rcases hz : b.sessionId with _ | z
      · exact h.session _ hf (by simpa [hz] using hses)
      · exact h.held (by simpa [hz] using hses)
  | @refused session hf =>
    refine ⟨h.created, h.finals, ?_, nofun, nofun⟩
    rw [List.mem_append, List.mem_singleton, not_or]
    exact ⟨h.failed, (h.session _ hf).symm⟩
  | ended hf hcall => exact ⟨h.created, h.finals, h.failed, nofun, nofun⟩

/-- When a session is ended while another one is at hand, one of the two gets lost. -/
theorem Tidy.broken_of_doomed {f : Finalizing} (h : b.Tidy) (hf : b.finalizing = some f)
    (hne : b.sessionId ≠ some f.session) (hm : b.Moves b') : b'.Broken := by
  obtain ⟨z, hz⟩ := Option.ne_none_iff_exists'.1 (h.busy (by simp [hf]))
  have hzne : z ≠ f.session := fun heq => hne (heq ▸ hz)
  cases hm with
  | same => exact .inr ⟨f, hf, hne⟩
  | @created id hid =>
    refine .inr ⟨f, hf, ?_⟩
    rintro ⟨⟩
    exact hid (h.session_created f hf)
  | abandoned hid hidle => exact absurd (hf.symm.trans hidle) nofun
  | began hid hidle => exact absurd (hf.symm.trans hidle) nofun
  | @updated session hf' =>
    -- the one that was updated is not completed
    obtain rfl := Option.some.inj (hf.symm.trans hf')
    refine .inl ⟨session, h.session_created _ hf, ?_, h.session_failed _ hf, hne, ?_⟩
    · rw [List.mem_append, Option.mem_toList, not_or]
      exact ⟨fun hmem => (h.session_final _ hf).1 hmem rfl, hne⟩
    · rintro g ⟨⟩
      simpa [hz] using hzne
  | @refused session hf' =>
    obtain rfl := Option.some.inj (hf.symm.trans hf')
    refine .inl ⟨z, h.held_created z hz, h.not_final hz (by simp [hf]), ?_, nofun, nofun⟩
    rw [List.mem_append, List.mem_singleton, not_or]
    exact ⟨h.held_failed z hz, hzne⟩
  | ended hf' hcall =>
    refine .inl ⟨z, h.held_created z hz, ?_, h.held_failed z hz, nofun, nofun⟩
    intro hmem
    obtain ⟨g, hg, -, rfl⟩ := h.held_final z hz hmem
    exact hzne (congrArg _ (Option.some.inj (hg.symm.trans hf)))

theorem Broken.moves (h : b.Broken) (ht : b.Tidy) (hm : b.Moves b') : b'.Broken := by
  rcases h with ⟨id, hlost⟩ | ⟨f, hf, hne⟩
  · exact .inl ⟨id, hlost.moves hm⟩
  · exact ht.broken_of_doomed hf hne hm

theorem Broken.not_accounted (h : b.Broken) (hidle : b.finalizing = none) : ¬ b.Accounted := by
  rcases h with ⟨id, hlost⟩ | ⟨f, hf, -⟩
  · intro hacc
    rcases hacc id hlost.created with hfin | hfail | hheld
    · exact hlost.finals hfin
    · exact hlost.failed hfail
    · exact hlost.held hheld
  · exact absurd (hf.symm.trans hidle) nofun

end SessionBook

namespace FocusLifecycle

/-- A session that is created while there is another one breaks the book. -/
theorem broken_of_overlap {s s' : FocusLifecycle} {e : LifecycleEvent}
    (ht : s.toSessionBook.Tidy) (h : s.step e = some s') (hover : ¬ s.NoOverlap e) :
    s'.toSessionBook.Broken := by
  cases e with
  | created id =>
    simp only [step] at h
    split_ifs at h with hguard
    obtain rfl := Option.some.inj h
    exact ht.broken_of_created (fun hmem => hguard (.inr hmem)) hover
  | _ => exact absurd trivial hover

/-- **No session is forgotten**, exactly when none is created while there is another one. -/
theorem accounted_iff {s : FocusLifecycle} {es : List LifecycleEvent} (h : AnyRun step {} es s)
    (hidle : s.finalizing = none) :
    s.toSessionBook.Accounted ↔ Run step NoOverlap {} es s := by
  constructor
  · intro hacc
    refine (h.guarded_or_broken (I := fun s => s.toSessionBook.Tidy)
      (B := fun s => s.toSessionBook.Broken) SessionBook.tidy_empty ?_ ?_ ?_).resolve_right ?_
    · exact fun s e s' ht hst => ht.moves (moves_step hst)
    · intro s e s' ht hst
      by_cases hg : s.NoOverlap e
      · exact .inl hg
      · exact .inr (broken_of_overlap ht hst hg)
    · exact fun s e s' ht hb hst => hb.moves ht (moves_step hst)
    · exact fun hb => hb.not_accounted hidle hacc
  · intro hrun
    have hgood : s.toSessionBook.Tidy ∧ s.toSessionBook.Good := by
      refine hrun.invariant (I := fun s => s.toSessionBook.Tidy ∧ s.toSessionBook.Good)
        ⟨SessionBook.tidy_empty, nofun, nofun⟩ ?_
      rintro s e s' ⟨ht, hg⟩ hover hst
      exact ⟨ht.moves (moves_step hst),
        hg.moves ht (moves_step hst) ((noOverlap_iff hst).1 hover)⟩
    exact hgood.2.accounted

/-- The mode is left and entered again before the session is created, and two are. -/
def createdTwice : List LifecycleEvent :=
  [.toggle, .commit, .toggle, .commit, .toggle, .commit, .created "a", .created "b", .commit,
    .submitted, .answered true, .answered true]

theorem accounted_iff_createdTwice :
    ∃ s : FocusLifecycle, AnyRun step {} createdTwice s ∧
      s.finals = ["b"] ∧ s.sessionId = none ∧ ¬ Run step NoOverlap {} createdTwice s := by
  have hrun : AnyRun step {} createdTwice _ := Run.of_foldlM rfl
  refine ⟨_, hrun, rfl, rfl, fun hguard => ?_⟩
  exact absurd ((accounted_iff hrun rfl).2 hguard) (by decide)

end FocusLifecycle

end StudyOasis
