import StudyOasis.Client.Conversations

/-!
# The rollback of a failed send

`sendMessage` shows the question before it is answered, and its error handler takes the last
message of the list away again.  Between the two, other actions append to the list or replace it,
so the last message need not be the question.

* `failed_send_removes_own_iff` : the handler removes the question of its call, and nothing else,
  exactly when the question is still the last message, or the list is empty;
* `failed_send_restores` : if nothing has touched the list, it is what it was before the call.
-/

namespace StudyOasis

namespace Client

/-! ### Removing one element -/

section Without

variable {α : Type*} {x : α} {l : List α}

/-- `after` is `before` without `x`; where `x` is not in it, `before` itself. -/
def Without (x : α) (before after : List α) : Prop :=
  (x ∉ before ∧ after = before) ∨ ∃ l r, before = l ++ x :: r ∧ after = l ++ r

/-- A list that loses its first element when it loses its last one repeats that element. -/
theorem getLast?_of_dropLast_eq (h : (x :: l).dropLast = l) : (x :: l).getLast? = some x := by
  induction l generalizing x with
  | nil => rfl
  | cons y l ih =>
    obtain ⟨rfl, h⟩ := List.cons.inj h
    rw [List.getLast?_cons_cons]
    exact ih h

/-- **When taking the last element away takes `x` away.** -/
theorem without_dropLast_iff : Without x l l.dropLast ↔ l = [] ∨ l.getLast? = some x := by
  constructor
  · rintro (⟨-, h⟩ | ⟨a, r, rfl, h⟩)
    · have hlen := congrArg List.length h
      rw [List.length_dropLast] at hlen
      exact .inl (List.eq_nil_of_length_eq_zero (by omega))
    · rw [List.dropLast_append_cons, List.append_cancel_left_eq] at h
      right
      rw [List.getLast?_append, getLast?_of_dropLast_eq h]
      rfl
  · rintro (rfl | h)
    · exact .inl ⟨List.not_mem_nil, rfl⟩
    · obtain ⟨a, rfl⟩ := List.getLast?_eq_some_iff.1 h
      exact .inr ⟨a, [], rfl, by simp⟩

end Without

/-! ### The operation of a call -/

/-- The message that `sendMessage` shows. -/
def question (content : JsString) (now : ℤ) : Message :=
  { role := .user, content, timestamp := some now }

/-- An error that finishes a `sendMessage` removes the last message. -/
theorem SendOp.messages_of_failed {op : SendOp} {now : ℤ} {s s' : ChatStoreState} {err : JsError}
    (h : op.complete now s (.failed err) = some (s', none)) :
    s'.messages = s.messages.dropLast := by
  obtain ⟨request, phase⟩ := op
  cases phase with
  | reading l =>
    obtain ⟨rfl, -⟩ := Prod.mk.inj (Option.some.inj h)
    rfl
  | asking attempt =>
    simp only [SendOp.complete] at h
    split_ifs at h
    · obtain ⟨-, h⟩ := Prod.mk.inj (Option.some.inj h)
      cases h
    · obtain ⟨rfl, -⟩ := Prod.mk.inj (Option.some.inj h)
      rfl
  | painting l complete => cases h
  | closing l => cases h
  | backoff attempt => cases h

variable {t t' : Tab} {e : Event} {id : ℕ}

/-- The operation `id` has been started, and it is a `sendMessage`. -/
def Sends (id : ℕ) (t : Tab) : Prop :=
  id < t.nextOp ∧ ∀ p ∈ t.ops, p.id = id → ∃ op, p.op = .send op

/-- A completion does not turn a `sendMessage` into something else. -/
theorem Op.complete_send {op : SendOp} {now : ℤ} {s s' : ChatStoreState} {answer : Completion}
    {next : Op} (h : (Op.send op).complete now s answer = some (s', some next)) :
    ∃ op', next = .send op' := by
  obtain ⟨⟨s'', next'⟩, -, hr⟩ := Option.map_eq_some_iff.1 h
  obtain ⟨-, hnext⟩ := Prod.mk.inj hr
  obtain ⟨op', -, rfl⟩ := Option.map_eq_some_iff.1 hnext
  exact ⟨op', rfl⟩

theorem sends_step (hs : Sends id t) (h : t.step e = some t') : Sends id t' := by
  obtain ⟨u, hu, rfl⟩ := Tab.step_eq_some h
  obtain ⟨hlt, hs⟩ := hs
  rcases e.action.complete_or with ⟨id', answer, he⟩ | he
  · obtain ⟨p, store, next, hp, hc, rfl⟩ := Tab.act_complete he hu
    refine ⟨hlt, fun q hq hid => ?_⟩
    obtain ⟨r, hr, hrq⟩ := List.mem_filterMap.1 hq
    by_cases hid' : r.id = id'
    · -- the operation that is completed is found under the id
      rw [if_pos hid'] at hrq
      obtain ⟨op, rfl, rfl⟩ := Option.map_eq_some_iff.1 hrq
      have hpid : p.id = id' := by simpa using List.find?_some hp
      obtain ⟨op₀, hop₀⟩ := hs p (List.mem_of_find?_eq_some hp) (by rw [hpid, ← hid', ← hid])
      rw [hop₀] at hc
      exact Op.complete_send hc
    · rw [if_neg hid'] at hrq
      obtain rfl := Option.some.inj hrq
      exact hs r hr hid
  · rcases Tab.act_ops he hu with ⟨hreload, hops⟩ | ⟨-, hops, hnext⟩ | ⟨op, hops, hnext, -⟩
    · have hnext : u.nextOp = t.nextOp := by
        rw [Tab.act, hreload] at hu
        obtain rfl := Option.some.inj hu
        rfl
      exact ⟨hnext ▸ hlt, by simp [hops]⟩
    · exact ⟨hnext ▸ hlt, by simpa only [hops] using hs⟩
    · refine ⟨by simp only [hnext]; omega, fun q hq hid => ?_⟩
      simp only [hops] at hq
      -- a new operation has a new id
      rcases List.mem_cons.1 hq with rfl | hq
      · exact absurd hid hlt.ne'
      · exact hs q hq hid

/-- The call of a `sendMessage` starts its operation. -/
theorem sends_of_sendMessage (ht : FreshIds t) {now : ℤ} {content : JsString} {streaming : Bool}
    (h : t.step ⟨now, .sendMessage content streaming⟩ = some t') : Sends t.nextOp t' := by
  obtain rfl := Option.some.inj h
  refine ⟨Nat.lt_succ_self _, fun p hp hid => ?_⟩
  rcases List.mem_cons.1 hp with rfl | hp
  · exact ⟨_, rfl⟩
  · exact absurd hid (ht.below p hp).ne

theorem messages_sendMessage {now : ℤ} {content : JsString} {streaming : Bool}
    (h : t.step ⟨now, .sendMessage content streaming⟩ = some t') :
    t'.store.messages = t.store.messages ++ [question content now] := by
  obtain rfl := Option.some.inj h
  cases streaming <;> rfl

/-- **The error handler removes the last message.** -/
theorem messages_of_failed {later : ℤ} {err : JsError} (hs : Sends id t)
    (h : t.step ⟨later, .complete id (.failed err)⟩ = some t') (hgone : ∀ p ∈ t'.ops, p.id ≠ id) :
    t'.store.messages = t.store.messages.dropLast := by
  obtain ⟨u, hu, rfl⟩ := Tab.step_eq_some h
  obtain ⟨p, store, next, hp, hc, rfl⟩ := Tab.act_complete rfl hu
  have hpid : p.id = id := by simpa using List.find?_some hp
  obtain ⟨op, hop⟩ := hs.2 p (List.mem_of_find?_eq_some hp) hpid
  rw [hop] at hc
  obtain ⟨⟨store', next'⟩, hc', hr⟩ := Option.map_eq_some_iff.1 hc
  obtain ⟨rfl, rfl⟩ := Prod.mk.inj hr
  cases next' with
  | none => exact SendOp.messages_of_failed hc'
  | some op' =>
    -- the operation would still be there
    refine absurd hpid (hgone { p with op := .send op' } (List.mem_filterMap.2
      ⟨p, List.mem_of_find?_eq_some hp, ?_⟩))
    rw [if_pos hpid, hop]
    rfl

/-! ### When nothing touches the list -/

/-- A completion that leaves the messages alone. -/
def Completion.quiet : Completion → Bool
  | .chunk _ => true
  | .frame => true
  | .timer => true
  | _ => false

/-- An action that leaves the messages alone. -/
def Action.quiet : Action → Bool
  | .startNewConversation _ => false
  | .loadSessionFromStorage _ => false
  | .sendMessage _ _ => false
  | .clearConversation _ => false
  | .clearAllConversationsState => false
  | .selectConversation _ => false
  | .reload => false
  | .complete _ answer => answer.quiet
  | _ => true

theorem Op.messages_of_quiet {op : Op} {now : ℤ} {s s' : ChatStoreState} {answer : Completion}
    {next : Option Op} (hq : answer.quiet = true)
    (h : op.complete now s answer = some (s', next)) : s'.messages = s.messages := by
  rcases op with ⟨request, phase⟩ | ⟨file, phase⟩
  · obtain ⟨⟨s'', next'⟩, hc, hr⟩ := Option.map_eq_some_iff.1 h
    obtain ⟨rfl, -⟩ := Prod.mk.inj hr
    cases answer <;> cases hq <;> cases phase <;> cases hc
    · split_ifs <;> rfl
    · rfl
    · rfl
  · obtain ⟨⟨s'', next'⟩, hc, hr⟩ := Option.map_eq_some_iff.1 h
    obtain ⟨rfl, -⟩ := Prod.mk.inj hr
    cases answer <;> cases hq <;> cases phase <;> cases hc
    rfl

theorem messages_step_of_quiet (hq : e.action.quiet = true) (h : t.step e = some t') :
    t'.store.messages = t.store.messages := by
  obtain ⟨u, hu, rfl⟩ := Tab.step_eq_some h
  obtain ⟨now, a⟩ := e
  cases a with
  | complete id answer =>
    obtain ⟨p, store, next, -, hc, rfl⟩ := Tab.act_complete rfl hu
    exact Op.messages_of_quiet hq hc
  | abortActiveRequest =>
    obtain rfl := Option.some.inj hu
    show t.store.abortActiveRequest.messages = _
    unfold ChatStoreState.abortActiveRequest
    split <;> rfl
  | uploadAndProcessFile file =>
    simp only [Tab.act] at hu
    have hmsg : (t.store.uploadAndProcessFile file).1.messages = t.store.messages := by
      unfold ChatStoreState.uploadAndProcessFile
      dsimp only
      split_ifs <;> rfl
    split at hu <;> next hup =>
      obtain rfl := Option.some.inj hu
      rw [hup] at hmsg
      exact hmsg
  | startNewConversation preserveDocument => cases hq
  | loadSessionFromStorage documentId => cases hq
  | sendMessage content streaming => cases hq
  | clearConversation documentIdToDelete => cases hq
  | clearAllConversationsState => cases hq
  | selectConversation sessionId => cases hq
  | reload => cases hq
  | _ =>
    obtain rfl := Option.some.inj hu
    rfl

section

variable {config : Option StorageConfig} {es₀ es : List Event} {t₀ t₁ : Tab} {now later : ℤ}
  {content : JsString} {streaming : Bool} {err : JsError}

theorem sends_of_run (hbefore : AnyRun Tab.step (Tab.opened config) es₀ t₀)
    (hsend : t₀.step ⟨now, .sendMessage content streaming⟩ = some t₁)
    (hrun : AnyRun Tab.step t₁ es t) : Sends t₀.nextOp t := by
  have hids : FreshIds t₀ := hbefore.invariant ⟨.nil, fun _ hp => absurd hp List.not_mem_nil⟩
    fun _ _ _ ht _ => freshIds_step ht
  exact hrun.invariant (sends_of_sendMessage hids hsend) fun _ _ _ hs _ => sends_step hs

/-- **A failed send removes exactly its own message if and only if it is the last one**, or there
is none: for every call, whatever happens in the tab before it and between it and its failure. -/
theorem failed_send_removes_own_iff (hbefore : AnyRun Tab.step (Tab.opened config) es₀ t₀)
    (hsend : t₀.step ⟨now, .sendMessage content streaming⟩ = some t₁)
    (hrun : AnyRun Tab.step t₁ es t)
    (hfail : t.step ⟨later, .complete t₀.nextOp (.failed err)⟩ = some t')
    (hgone : ∀ p ∈ t'.ops, p.id ≠ t₀.nextOp) :
    Without (question content now) t.store.messages t'.store.messages ↔
      t.store.messages = [] ∨ t.store.messages.getLast? = some (question content now) := by
  rw [messages_of_failed (sends_of_run hbefore hsend hrun) hfail hgone]
  exact without_dropLast_iff

/-- **If nothing touches the list, a failed send leaves it as it was before the call.** -/
theorem failed_send_restores (hbefore : AnyRun Tab.step (Tab.opened config) es₀ t₀)
    (hsend : t₀.step ⟨now, .sendMessage content streaming⟩ = some t₁)
    (hrun : Run Tab.step (fun _ e => e.action.quiet = true) t₁ es t)
    (hfail : t.step ⟨later, .complete t₀.nextOp (.failed err)⟩ = some t')
    (hgone : ∀ p ∈ t'.ops, p.id ≠ t₀.nextOp) : t'.store.messages = t₀.store.messages := by
  have hkept : Sends t₀.nextOp t ∧
      t.store.messages = t₀.store.messages ++ [question content now] := by
    refine hrun.invariant (I := fun u => Sends t₀.nextOp u ∧
      u.store.messages = t₀.store.messages ++ [question content now])
      ⟨sends_of_run hbefore hsend (.nil t₁), messages_sendMessage hsend⟩ ?_
    intro u e u' hu hq hst
    exact ⟨sends_step hu.1 hst, (messages_step_of_quiet hq hst).trans hu.2⟩
  rw [messages_of_failed hkept.1 hfail hgone, hkept.2, List.dropLast_concat]

end

/-- A document has arrived before the question; a token of the answer comes in and another document
is chosen before the question fails.  The message of the first document stays. -/
theorem failed_send_removes_own_iff_overlap : ∃ t t' : Tab, t.store.messages.length = 2 ∧
    Without (question (js "q") 2) t.store.messages t'.store.messages := by
  let file : File := { name := js "notes.txt", size := 1, type := js "text/plain" }
  let response : UploadResponse := { id := js "d", filename := js "notes.txt", url := js "u" }
  have hruns : (([⟨0, .uploadAndProcessFile file⟩, ⟨1, .complete 0 (.uploaded response)⟩].foldlM
      Tab.step (Tab.opened none)).bind fun t₀ =>
      (t₀.step ⟨2, .sendMessage (js "q") true⟩).bind fun t₁ =>
        ([⟨3, .complete 1 (.chunk ⟨js "t", false, none⟩)⟩, ⟨4, .complete 1 .frame⟩,
          ⟨5, .uploadAndProcessFile file⟩].foldlM Tab.step t₁).bind fun t =>
            (t.step ⟨6, .complete t₀.nextOp (.failed .other)⟩).map fun t' =>
              decide (t.store.messages.length = 2 ∧
                t.store.messages.getLast? = some (question (js "q") 2) ∧
                ∀ p ∈ t'.ops, p.id ≠ t₀.nextOp)) = some true := by decide
  obtain ⟨t₀, hbefore, hruns⟩ := Option.bind_eq_some_iff.1 hruns
  obtain ⟨t₁, hsend, hruns⟩ := Option.bind_eq_some_iff.1 hruns
  obtain ⟨t, hrun, hruns⟩ := Option.bind_eq_some_iff.1 hruns
  obtain ⟨t', hfail, hend⟩ := Option.map_eq_some_iff.1 hruns
  obtain ⟨hlength, hlast, hgone⟩ := of_decide_eq_true hend
  exact ⟨t, t', hlength, (failed_send_removes_own_iff (Run.of_foldlM hbefore) hsend
    (Run.of_foldlM hrun) hfail hgone).2 (.inr hlast)⟩

/-- A document arrives while a question is answered: the failure of the question takes the
message of the document away. -/
theorem failed_send_removes_upload :
    ¬ ∀ (config : Option StorageConfig) (es₀ es : List Event) (t₀ t₁ t t' : Tab) (now later : ℤ)
      (content : JsString) (streaming : Bool) (err : JsError),
      AnyRun Tab.step (Tab.opened config) es₀ t₀ →
      t₀.step ⟨now, .sendMessage content streaming⟩ = some t₁ → AnyRun Tab.step t₁ es t →
      t.step ⟨later, .complete t₀.nextOp (.failed err)⟩ = some t' →
      (∀ p ∈ t'.ops, p.id ≠ t₀.nextOp) →
      Without (question content now) t.store.messages t'.store.messages := by
  intro h
  let file : File := { name := js "notes.txt", size := 1, type := js "text/plain" }
  let response : UploadResponse := { id := js "d", filename := js "notes.txt", url := js "u" }
  rcases h none [] [⟨1, .uploadAndProcessFile file⟩, ⟨2, .complete 1 (.uploaded response)⟩] _ _ _ _
    0 3 (js "q") true .other (.nil _) rfl (.cons trivial rfl (.single trivial rfl)) rfl
    (by decide) with
    ⟨-, h⟩ | ⟨l, r, h, -⟩
  · exact absurd h (by decide)
  · have hm : question (js "q") 0 ∈ _ := h ▸ List.mem_append_right l List.mem_cons_self
    exact absurd hm (by decide)

end Client

end StudyOasis
