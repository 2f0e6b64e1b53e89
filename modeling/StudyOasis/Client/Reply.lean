import StudyOasis.Client.Tab

/-!
# What becomes of a stream

A streaming `sendMessage` reads the chunks that `ApiClient.chatStream` yields until one of them is
complete or there is none left, and then appends what it has read as a reply.  The chunk of an
error frame has lost its error and is complete, and a stream that simply ends yields no chunk at
all, so both look like a success.

* `stream_reply` : whatever the ending, the tokens become a reply and no error is set;
* `only_a_reply_iff` : the store shows what happened exactly when the stream ends with success.
-/

namespace StudyOasis

namespace Client

/-! ### The stream of the server -/

/-- How a stream ends after its tokens. -/
inductive Ending where
  /-- The frame of a successful stream. -/
  | success (conversationId : Option JsString)
  /-- An error frame. -/
  | error (message : JsString)
  /-- The connection ends, perhaps inside the line of a frame. -/
  | cut (rest : List UInt8)

namespace Ending

/-- The frame at the end. -/
def frames : Ending → List SseData
  | .success conversationId => [SseData.finalFrame conversationId]
  | .error message => [SseData.errorFrame message]
  | .cut _ => []

/-- What arrives of a frame that is cut. -/
def rest : Ending → List UInt8
  | .success _ => []
  | .error _ => []
  | .cut rest => rest

/-- The stream ends with success. -/
def Success : Ending → Prop
  | .success _ => True
  | .error _ => False
  | .cut _ => False

end Ending

/-- The frames of a stream. -/
def streamFrames (tokens : List JsString) (ending : Ending) : List SseData :=
  tokens.map SseData.tokenFrame ++ ending.frames

/-! ### The completions of the stream -/

/-- The completions of operation `id` when the stream yields `chunks`. -/
def streamActions (id : ℕ) : List StreamChunk → List Action
  | [] => [.complete id .done]
  | chunk :: chunks =>
    .complete id (.chunk chunk) :: .complete id .frame ::
      if chunk.complete then [.complete id .closed] else streamActions id chunks

/-- The loop when it is left. -/
def StreamLoop.readAll (l : StreamLoop) : List StreamChunk → StreamLoop
  | [] => l
  | chunk :: chunks => if chunk.complete then l.read chunk else (l.read chunk).readAll chunks

theorem fullResponse_readAll (l : StreamLoop) (tokens : List JsString) (ending : Ending) :
    (l.readAll ((streamFrames tokens ending).map SseData.toChunk)).fullResponse =
      l.fullResponse ++ tokens.flatten := by
  induction tokens generalizing l with
  | nil => cases ending <;> simp [streamFrames, Ending.frames, StreamLoop.readAll,
      StreamLoop.read, SseData.toChunk, SseData.finalFrame, SseData.errorFrame]
  | cons token tokens ih =>
    have htoken : (SseData.tokenFrame token).toChunk.complete = false := rfl
    rw [streamFrames, List.map_cons, List.cons_append, List.map_cons, StreamLoop.readAll, htoken,
      if_neg Bool.false_ne_true, ← streamFrames, ih, List.flatten_cons, ← List.append_assoc]
    rfl

/-- The part of the store that the completions before the last one leave alone. -/
structure Untouched (s s' : ChatStoreState) : Prop where
  messages : s'.messages = s.messages
  error : s'.error = s.error

theorem Untouched.trans {s s' s'' : ChatStoreState} (h : Untouched s s') (h' : Untouched s' s'') :
    Untouched s s'' :=
  ⟨h'.messages.trans h.messages, h'.error.trans h.error⟩

theorem Untouched.refl (s : ChatStoreState) : Untouched s s := ⟨rfl, rfl⟩

/-- An operation that reads a stream, up to its end: nothing but the end touches the messages. -/
theorem stream_run {id conversation : ℕ} {request : ChatRequest} {l : StreamLoop} {t : Tab}
    {chunks : List StreamChunk} {events : List Event}
    (hp : t.ops.find? (·.id = id) = some ⟨id, conversation, .send ⟨request, .reading l⟩⟩)
    (hev : events.map Event.action = streamActions id chunks) :
    ∃ t' s now, AnyRun Tab.step t events t' ∧ Untouched t.store s ∧
      t'.store = s.streamFinished now (l.readAll chunks) := by
  induction chunks generalizing t l events with
  | nil =>
    obtain ⟨⟨now, _⟩, _, rfl, rfl, hnil⟩ := List.map_eq_cons_iff.1 hev
    obtain rfl := List.map_eq_nil_iff.1 hnil
    exact ⟨_, t.store, now, .single trivial (Tab.step_complete hp rfl), .refl _, rfl⟩
  | cons chunk chunks ih =>
    obtain ⟨⟨now₁, _⟩, _, rfl, rfl, hev₁⟩ := List.map_eq_cons_iff.1 hev
    obtain ⟨⟨now₂, _⟩, events, rfl, rfl, hev₂⟩ := List.map_eq_cons_iff.1 hev₁
    -- the chunk, then the animation frame
    obtain ⟨u, hst₁, hstore₁, -, hp₁⟩ := Tab.step_of_waiting
      (p := ⟨id, conversation, .send ⟨request, .reading l⟩⟩) now₁ (.chunk chunk) hp rfl rfl
    obtain ⟨v, hst₂, hstore₂, -, hp₂⟩ := Tab.step_of_waiting
      (p := ⟨id, conversation, .send ⟨request, .painting (l.read chunk) chunk.complete⟩⟩)
      now₂ .frame hp₁ rfl rfl
    have huntouched : Untouched t.store v.store := by
      rw [hstore₂, hstore₁]
      split_ifs <;> exact ⟨rfl, rfl⟩
    have hrun : AnyRun Tab.step t
        [⟨now₁, .complete id (.chunk chunk)⟩, ⟨now₂, .complete id .frame⟩] v :=
      .cons trivial hst₁ (.single trivial hst₂)
    rw [StreamLoop.readAll]
    -- a complete chunk ends the loop, any other one is followed by the rest of the stream
    cases hcomplete : chunk.complete with
    | true =>
      rw [hcomplete] at hev₂ hp₂
      obtain ⟨⟨now₃, _⟩, _, rfl, rfl, hnil⟩ := List.map_eq_cons_iff.1 hev₂
      obtain rfl := List.map_eq_nil_iff.1 hnil
      exact ⟨_, v.store, now₃, hrun.append (.single trivial (Tab.step_complete hp₂ rfl)),
        huntouched, rfl⟩
    | false =>
      rw [hcomplete] at hev₂ hp₂
      obtain ⟨t', s, now, hrun', hs, hstore⟩ := ih hp₂ hev₂
      exact ⟨t', s, now, hrun.append hrun', huntouched.trans hs, hstore⟩

/-! ### The reply -/

theorem ChatStoreState.messages_streamFinished (s : ChatStoreState) (now : ℤ) (l : StreamLoop) :
    ∃ m, (s.streamFinished now l).messages = s.messages ++ [m] ∧ m.role = .assistant ∧
      m.content = l.fullResponse := ⟨_, rfl, rfl, rfl⟩

/-- The replies that are shown. -/
def ChatStoreState.replies (s : ChatStoreState) : List Message :=
  s.messages.filter (·.role = .assistant)

/-- The store shows how the stream ended: one more reply, which consists of the tokens, or an
error and no more replies. -/
def ShowsEnding (before after : ChatStoreState) (tokens : List JsString) : Ending → Prop
  | .success _ => ∃ reply, after.replies = before.replies ++ [reply] ∧
      reply.content = tokens.flatten
  | .error _ => after.replies = before.replies ∧ after.error ≠ none
  | .cut _ => after.replies = before.replies ∧ after.error ≠ none

section

variable (parse : List Char → Option SseData) {stringify : SseData → List Char}
  {tokens : List JsString} {ending : Ending} {values : List (List UInt8)}

/-- **Whatever the ending, the tokens become a reply and no error is set.** -/
theorem stream_reply (hparse : ∀ d ∈ streamFrames tokens ending, parse (stringify d) = some d)
    (hline : ∀ d ∈ streamFrames tokens ending, '\n' ∉ stringify d) (hrest : 10 ∉ ending.rest)
    (hwire : values.flatten = wire stringify (streamFrames tokens ending) ++ ending.rest) (t : Tab)
    {content : JsString} {events : List Event}
    (hev : events.map Event.action = .sendMessage content true ::
      streamActions t.nextOp (ApiClient.chatStream parse values)) :
    ∃ t' question reply, AnyRun Tab.step t events t' ∧ t'.store.error = none ∧
      t'.store.messages = t.store.messages ++ [question, reply] ∧ question.role = .user ∧
        reply.role = .assistant ∧ reply.content = tokens.flatten := by
  rw [ApiClient.chatStream_wire parse hparse hline hrest hwire] at hev
  obtain ⟨⟨now, _⟩, events, rfl, rfl, hev'⟩ := List.map_eq_cons_iff.1 hev
  let question : Message := { role := .user, content, timestamp := some now }
  obtain ⟨u, op, hst, hops, hmsg, herr⟩ : ∃ u request,
      t.step ⟨now, .sendMessage content true⟩ = some u ∧
        u.ops.find? (·.id = t.nextOp) = some ⟨t.nextOp, t.shown, .send ⟨request,
          .reading { lastConversationId := request.conversationId }⟩⟩ ∧
        u.store.messages = t.store.messages ++ [question] ∧ u.store.error = none :=
    ⟨_, _, rfl, List.find?_cons_of_pos (by simp), rfl, rfl⟩
  obtain ⟨t', s, now', hrun, hs, hstore⟩ := stream_run hops hev'
  obtain ⟨reply, hreply, hrole, hcontent⟩ := s.messages_streamFinished now'
    (StreamLoop.readAll { lastConversationId := op.conversationId }
      ((streamFrames tokens ending).map SseData.toChunk))
  refine ⟨t', question, reply, .cons trivial hst hrun, ?_, ?_, rfl, hrole, ?_⟩
  · rw [hstore]
    exact hs.error.trans herr
  · rw [hstore, hreply, hs.messages, hmsg, List.append_assoc]
    rfl
  · rw [hcontent, fullResponse_readAll]
    rfl

/-- **Only a stream that ends with success**: for all tokens, every ending, every way of cutting the
bytes into chunks, every tab and all times, `sendMessage` leaves the store as it should exactly
when the stream ends with a success frame. -/
theorem only_a_reply_iff
    (hparse : ∀ d ∈ streamFrames tokens ending, parse (stringify d) = some d)
    (hline : ∀ d ∈ streamFrames tokens ending, '\n' ∉ stringify d) (hrest : 10 ∉ ending.rest)
    (hwire : values.flatten = wire stringify (streamFrames tokens ending) ++ ending.rest) (t : Tab)
    {content : JsString} {events : List Event}
    (hev : events.map Event.action = .sendMessage content true ::
      streamActions t.nextOp (ApiClient.chatStream parse values)) :
    ∃ t', AnyRun Tab.step t events t' ∧
      (ShowsEnding t.store t'.store tokens ending ↔ ending.Success) := by
  obtain ⟨t', question, reply, hrun, herr, hmsg, hq, hr, hcontent⟩ :=
    stream_reply parse hparse hline hrest hwire t hev
  have hreplies : t'.store.replies = t.store.replies ++ [reply] := by
    simp [ChatStoreState.replies, hmsg, List.filter_append, hq, hr]
  refine ⟨t', hrun, ?_⟩
  cases ending with
  | success conversationId => exact iff_of_true ⟨reply, hreplies, hcontent⟩ trivial
  | error message => exact iff_of_false (fun h => h.2 herr) id
  | cut rest => exact iff_of_false (fun h => h.2 herr) id

end

/-- Actions that happen at one time. -/
theorem map_action_at (now : ℤ) (actions : List Action) :
    (actions.map fun a => (⟨now, a⟩ : Event)).map Event.action = actions := by
  rw [List.map_map]
  exact List.map_id actions

/-- A reply of one token, byte by byte. -/
theorem only_a_reply_iff_success : ∃ t' events,
    AnyRun Tab.step (Tab.opened none) events t' ∧
      ShowsEnding {} t'.store [js "a"] (.success (some (js "c"))) := by
  let token := SseData.tokenFrame (js "a")
  let final := SseData.finalFrame (some (js "c"))
  let tokenJson := "\x7b\"token\":\"a\",\"complete\":false\x7d".toList
  let finalJson := "\x7b\"token\":\"\",\"complete\":true,\"conversationId\":\"c\"\x7d".toList
  let stringify := fun d => if d = token then tokenJson else finalJson
  let parse := fun text => if text = tokenJson then some token
    else if text = finalJson then some final else none
  let values := (wire stringify [token, final]).map fun b => [b]
  let actions := Action.sendMessage (js "q") true ::
    streamActions 0 (ApiClient.chatStream parse values)
  have hparse : ∀ d ∈ streamFrames [js "a"] (.success (some (js "c"))),
      parse (stringify d) = some d := by decide
  have hline : ∀ d ∈ streamFrames [js "a"] (.success (some (js "c"))), '\n' ∉ stringify d := by
    decide
  have hwire : values.flatten = wire stringify [token, final] ++ [] := by
    rw [List.append_nil]
    exact ApiClient.flatten_bytes _
  obtain ⟨t', hrun, h⟩ := only_a_reply_iff parse hparse hline List.not_mem_nil hwire
    (Tab.opened none) (map_action_at 0 actions)
  exact ⟨t', _, hrun, h.2 trivial⟩

/-- A token, and then an error frame: the token becomes a reply. -/
theorem error_becomes_reply :
    ¬ ∀ (parse : List Char → Option SseData) (stringify : SseData → List Char)
      (tokens : List JsString) (ending : Ending) (values : List (List UInt8)) (t : Tab)
      (content : JsString) (events : List Event),
      (∀ d ∈ streamFrames tokens ending, parse (stringify d) = some d) →
      (∀ d ∈ streamFrames tokens ending, '\n' ∉ stringify d) → 10 ∉ ending.rest →
      values.flatten = wire stringify (streamFrames tokens ending) ++ ending.rest →
      events.map Event.action = .sendMessage content true ::
        streamActions t.nextOp (ApiClient.chatStream parse values) →
      ∃ t', AnyRun Tab.step t events t' ∧ ShowsEnding t.store t'.store tokens ending := by
  intro h
  let token := SseData.tokenFrame (js "a")
  let final := SseData.errorFrame (js "timeout")
  let tokenJson := "\x7b\"token\":\"a\",\"complete\":false\x7d".toList
  let finalJson := "\x7b\"token\":\"\",\"error\":\"timeout\",\"complete\":true\x7d".toList
  let stringify := fun d => if d = token then tokenJson else finalJson
  let parse := fun text => if text = tokenJson then some token
    else if text = finalJson then some final else none
  let values := (wire stringify [token, final]).map fun b => [b]
  let actions := Action.sendMessage (js "q") true ::
    streamActions 0 (ApiClient.chatStream parse values)
  have hparse : ∀ d ∈ streamFrames [js "a"] (.error (js "timeout")),
      parse (stringify d) = some d := by decide
  have hline : ∀ d ∈ streamFrames [js "a"] (.error (js "timeout")), '\n' ∉ stringify d := by
    decide
  have hwire : values.flatten = wire stringify [token, final] ++ [] := by
    rw [List.append_nil]
    exact ApiClient.flatten_bytes _
  obtain ⟨t', hrun, -, herr⟩ := h parse stringify _ _ values (Tab.opened none) _ _ hparse hline
    List.not_mem_nil hwire (map_action_at 0 actions)
  obtain ⟨t'', -, -, hrun', hnone, -⟩ := stream_reply parse hparse hline List.not_mem_nil hwire
    (Tab.opened none) (map_action_at 0 actions)
  rw [hrun.unique hrun'] at herr
  exact herr hnone

end Client

end StudyOasis
