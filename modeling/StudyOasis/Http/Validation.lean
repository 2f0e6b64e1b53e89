import StudyOasis.Client.Settling
import StudyOasis.Http.Requests
import StudyOasis.Text.Json
import StudyOasis.Text.Utf8

/-!
# The checks of a request

`ValidationPipe` refuses a body with a property that the DTO of the handler does not have, or with
one that fails a check of `class-validator`.  How `MaxLength` counts characters is left open.
Before that, the body parser refuses a body that is too large.

* `errors_eq_nil_iff` : **the bodies of the client pass**, unless a text of a chat request is too
  long;
* `messages_of_run` : a tab that shows such a text **gets no further answer** to messages that it
  does not stream;
* `answered_iff` : any other tab can get one, if its messages leave room for a question in a body.
-/

namespace StudyOasis

namespace Http

/-- The values in the bodies of the client.  They have the types of the DTO, so that the implicit
conversion leaves them as they are. -/
inductive BodyValue where
  | text (s : JsString)
  | int (n : ℤ)
  /-- Objects whose values are texts. -/
  | items (objects : List (List (String × JsString)))

/-- The decorators of `class-validator`. -/
inductive Check where
  | isString
  | isInt
  | isArray
  /-- `IsIn` and `IsEnum`. -/
  | isIn (values : List JsString)
  | maxLength (max : ℕ)

/-- A property of a DTO. -/
structure Property where
  name : String
  /-- `IsOptional`. -/
  optional : Bool
  checks : List Check

/-- A DTO, with the properties of the items of one property that is checked with
`ValidateNested({ each: true })`. -/
structure Dto where
  properties : List Property
  each : Option (String × List Property) := none

/-- `MessageDto`. -/
def messageDto : List Property :=
  [⟨"role", false, [.isString, .isIn [js "user", js "assistant"]]⟩,
    ⟨"content", false, [.isString, .maxLength 4000]⟩]

/-- `ChatRequestDto`. -/
def chatRequestDto : Dto where
  properties :=
    [⟨"message", false, [.isString, .maxLength 4000]⟩,
      ⟨"conversationHistory", true, [.isArray]⟩,
      ⟨"uploadId", true, [.isString]⟩,
      ⟨"userId", true, [.isString]⟩,
      ⟨"conversationId", true, [.isString]⟩,
      ⟨"documentId", true, [.isString]⟩]
  each := some ("conversationHistory", messageDto)

/-- `CreateFocusSessionDto`. -/
def createFocusSessionDto : Dto where
  properties :=
    [⟨"documentId", true, [.isString]⟩,
      ⟨"conversationId", true, [.isString]⟩]

/-- `UpdateFocusSessionDto`. -/
def updateFocusSessionDto : Dto where
  properties :=
    [⟨"status", true, [.isIn [js "active", js "paused", js "completed", js "abandoned"]]⟩,
      ⟨"pauseCount", true, [.isInt]⟩,
      ⟨"questionsAsked", true, [.isInt]⟩,
      ⟨"activeDuration", true, [.isInt]⟩,
      ⟨"completionProofId", true, [.isString]⟩]

/-- `LogDistractionDto`. -/
def logDistractionDto : Dto where
  properties :=
    [⟨"type", false,
        [.isIn [js "tab_switch", js "window_blur", js "mouse_leave", js "navigation_attempt"]]⟩,
      ⟨"duration", true, [.isInt]⟩]

/-- The DTO of the body.  `completeSession` takes its only property by name. -/
def Handler.dto : Handler → Option Dto
  | .chat => some chatRequestDto
  | .createSession => some createFocusSessionDto
  | .updateSession => some updateFocusSessionDto
  | .logDistraction => some logDistractionDto
  | _ => none

variable (count : JsString → ℕ)

/-- The value passes the check. -/
def Check.passes : Check → BodyValue → Bool
  | isString, .text _ => true
  | isInt, .int _ => true
  | isArray, .items _ => true
  | isIn values, .text s => values.contains s
  | maxLength max, .text s => count s ≤ max
  | _, _ => false

/-- The property of the object fails a check; a missing one fails all of them. -/
def Property.fails (p : Property) (object : List (String × BodyValue)) : Bool :=
  match object.lookup p.name with
  | some value => !p.checks.all (·.passes count value)
  | none => !p.optional

/-- The properties of an object that are refused. -/
def objectErrors (properties : List Property) (object : List (String × BodyValue)) :
    List String :=
  (object.map Prod.fst).filter (fun name => !(properties.map Property.name).contains name) ++
    (properties.filter (·.fails count object)).map Property.name

/-- The properties of the items that are refused, with their paths. -/
def itemErrors (properties : List Property) (name : String)
    (objects : List (List (String × JsString))) : List (List String) :=
  objects.zipIdx.flatMap fun (object, i) =>
    (objectErrors count properties (object.map fun (key, s) => (key, .text s))).map fun key =>
      [name, toString i, key]

/-- The paths of the properties that `ValidationPipe` refuses. -/
def Dto.errors (dto : Dto) (body : List (String × BodyValue)) : List (List String) :=
  (objectErrors count dto.properties body).map ([·]) ++
    match dto.each with
    | some (name, properties) =>
      match body.lookup name with
      | some (.items objects) => itemErrors count properties name objects
      | _ => []
    | none => []

/-- A property that `JSON.stringify` leaves out when it is `undefined`. -/
def optionalText (name : String) (value : Option JsString) : List (String × BodyValue) :=
  (value.map fun s => (name, .text s)).toList

/-- The role of a message, in a request. -/
def roleText : Client.MessageRole → JsString
  | .user => js "user"
  | .assistant => js "assistant"

/-- The body of `ApiClient.chat`. -/
def chatBody (request : Client.ChatRequest) : List (String × BodyValue) :=
  [("message", .text request.message),
    ("conversationHistory", .items (request.conversationHistory.map fun (role, content) =>
      [("role", roleText role), ("content", content)]))] ++
    optionalText "documentId" request.documentId ++
    optionalText "conversationId" request.conversationId

/-- The body of `updateSession`. -/
def UpdateData.body : UpdateData → List (String × BodyValue)
  | duration activeDuration => [("activeDuration", .int activeDuration)]
  | abandoned activeDuration =>
    [("status", .text (js "abandoned")), ("activeDuration", .int activeDuration)]
  | paused pauseCount activeDuration =>
    [("status", .text (js "paused")), ("pauseCount", .int pauseCount),
      ("activeDuration", .int activeDuration)]
  | active activeDuration =>
    [("status", .text (js "active")), ("activeDuration", .int activeDuration)]

namespace ClientCall

/-- The body of the request, if it is JSON. -/
def body : ClientCall → List (String × BodyValue)
  | chat request => chatBody request
  | createSession documentId conversationId =>
    optionalText "documentId" documentId ++ optionalText "conversationId" conversationId
  | updateSession _ data => data.body
  | logDistraction _ => [("type", .text (js "window_blur"))]
  | completeSession _ completionProofId => optionalText "completionProofId" completionProofId
  | _ => []

/-- What the server refuses of the request. -/
def errors (call : ClientCall) : List (List String) :=
  (call.handler.dto.map fun dto => dto.errors count call.body).getD []

end ClientCall

/-- The `limit` of the body parser, which is the default `100kb`. -/
def bodyLimit : ℕ := 102400

/-- A value, as it is written. -/
def BodyValue.json : BodyValue → JsonValue
  | text s => .str s
  | int n => .num (.finite n)
  | items objects =>
    .arr (objects.map fun object => .obj (object.map fun (key, s) => (js key, .str s)))

/-- The bytes of the body: `JSON.stringify`, and UTF-8. -/
def ClientCall.bodyBytes (engine : JsEngine) (call : ClientCall) : List UInt8 :=
  Utf8.encode (Utf16.decode (engine.stringify (.obj
    (call.body.map fun (key, value) => (js key, value.json)))))

/-- The server reads the body, and refuses nothing of it. -/
def ClientCall.Accepted (engine : JsEngine) (call : ClientCall) : Prop :=
  (call.bodyBytes engine).length ≤ bodyLimit ∧ call.errors count = []

/-- Every text of a chat request has at most 4000 characters. -/
def ShortTexts (request : Client.ChatRequest) : Prop :=
  count request.message ≤ 4000 ∧ ∀ turn ∈ request.conversationHistory, count turn.2 ≤ 4000

variable {count}

theorem messageErrors_eq_nil_iff (role : Client.MessageRole) (content : JsString) :
    objectErrors count messageDto
        [("role", .text (roleText role)), ("content", .text content)] = [] ↔
      count content ≤ 4000 := by
  have hrole : roleText role ≠ js "user" → roleText role = js "assistant" := by
    cases role with
    | user => exact fun h => absurd rfl h
    | assistant => exact fun _ => rfl
  simpa [objectErrors, messageDto, Property.fails, Check.passes, List.lookup_cons,
      List.lookup_nil] using fun _ => hrole

theorem itemErrors_eq_nil_iff (history : List (Client.MessageRole × JsString)) :
    itemErrors count messageDto "conversationHistory" (history.map fun (role, content) =>
        [("role", roleText role), ("content", content)]) = [] ↔
      ∀ turn ∈ history, count turn.2 ≤ 4000 := by
  have hobjects (objects : List (List (String × JsString))) :
      itemErrors count messageDto "conversationHistory" objects = [] ↔
        ∀ object ∈ objects, objectErrors count messageDto
          (object.map fun (key, s) => (key, .text s)) = [] := by
    rw [itemErrors, List.flatMap_eq_nil_iff]
    simp only [List.map_eq_nil_iff]
    conv_rhs => rw [← List.zipIdx_map_fst 0 objects, List.forall_mem_map]
  rw [hobjects, List.forall_mem_map]
  exact forall₂_congr fun turn _ => messageErrors_eq_nil_iff turn.1 turn.2

theorem chatErrors_eq_nil_iff (request : Client.ChatRequest) :
    chatRequestDto.errors count (chatBody request) = [] ↔ ShortTexts count request := by
  obtain ⟨message, history, documentId, conversationId⟩ := request
  rw [ShortTexts, ← itemErrors_eq_nil_iff]
  cases documentId <;> cases conversationId <;>
    simp [Dto.errors, chatRequestDto, chatBody, optionalText, objectErrors, Property.fails,
      Check.passes, List.lookup_cons, List.lookup_nil]

namespace ClientCall

theorem errors_eq_nil {call : ClientCall} (h : ∀ request, call ≠ .chat request) :
    call.errors count = [] := by
  cases call with
  | chat request => exact absurd rfl (h request)
  | createSession documentId conversationId =>
    cases documentId <;> cases conversationId <;>
      simp [errors, handler, Handler.dto, createFocusSessionDto, Dto.errors, body, optionalText,
        objectErrors, Property.fails, Check.passes, List.lookup_cons, List.lookup_nil]
  | updateSession id data => cases data <;> rfl
  | logDistraction id =>
    simp [errors, handler, Handler.dto, logDistractionDto, Dto.errors, body, objectErrors,
      Property.fails, Check.passes, List.lookup_cons, List.lookup_nil]
  | _ => rfl

/-- **The bodies of the client pass**, unless a text of a chat request is too long. -/
theorem errors_eq_nil_iff (call : ClientCall) :
    call.errors count = [] ↔ ∀ request, call = .chat request → ShortTexts count request := by
  by_cases hchat : ∃ request, call = .chat request
  · obtain ⟨request, rfl⟩ := hchat
    refine (chatErrors_eq_nil_iff request).trans ⟨fun h other heq => ?_, fun h => h request rfl⟩
    obtain rfl := ClientCall.chat.inj heq
    exact h
  · have hother := not_exists.1 hchat
    exact iff_of_true (errors_eq_nil hother) fun request heq => absurd heq (hother request)

end ClientCall

end Http

/-! ### A tab with a text that is too long -/

namespace Client

/-- The server answers a chat request only when it accepts it, and a message is sent, without
streaming it, when nothing is in flight. -/
def Answers (accepts : ChatRequest → Prop) (t : Tab) (e : Event) : Prop :=
  match e.action with
  | .sendMessage _ streaming => streaming = false ∧ t.ops = []
  | .complete id (.reply _) =>
    ∀ p ∈ t.ops, p.id = id → ∀ op, p.op = .send op → accepts op.request
  | .complete _ _ => True
  | _ => False

/-- The server answers a chat request only when it passes the checks. -/
def Checked (count : JsString → ℕ) : Tab → Event → Prop :=
  Answers fun request => (Http.ClientCall.chat request).errors count = []

/-- The request for a question behind the messages of a tab. -/
def asking (s : ChatStoreState) (question : JsString) : ChatRequest :=
  (s.sendMessage 0 0 question false).2.request

variable {count : JsString → ℕ} {accepts : ChatRequest → Prop} {s : ChatStoreState}

theorem asking_eq_mk (s : ChatStoreState) (question : JsString) :
    asking s question =
      { message := question
        conversationHistory := s.messages.map fun msg => (msg.role, msg.content)
        documentId := truthy s.currentDocumentId
        conversationId := truthy s.conversationId } := rfl

/-- The operation asks a question of this store, without streaming. -/
def Asks (s : ChatStoreState) (op : SendOp) : Prop :=
  (∃ question, op.request = asking s question) ∧ op.phase.streams = false

/-- A store with these messages that asks as the other one does. -/
structure Continues (s : ChatStoreState) (asked : List Message) (u : ChatStoreState) : Prop where
  messages : u.messages = s.messages ++ asked
  currentDocumentId : u.currentDocumentId = s.currentDocumentId
  conversationId : u.conversationId = s.conversationId

theorem Continues.asking_eq {u : ChatStoreState} (h : Continues s [] u) :
    asking u = asking s := by
  funext question
  rw [asking_eq_mk, asking_eq_mk, h.messages, h.currentDocumentId, h.conversationId,
    List.append_nil]

/-- At most one question is shown behind the messages, and it is in flight. -/
def Unanswered (s : ChatStoreState) (t : Tab) : Prop :=
  (t.ops = [] ∧ Continues s [] t.store) ∨
    ∃ p op question, t.ops = [p] ∧ p.op = .send op ∧ Asks s op ∧
      Continues s [question] t.store ∧ question.role = .user

/-- What a completion other than an answer does. -/
theorem complete_asks {op : SendOp} (hop : Asks s op) {now : ℤ} {u u' : ChatStoreState}
    {answer : Completion} {next : Option SendOp}
    (h : op.complete now u answer = some (u', next)) :
    (∃ data, answer = .reply data) ∨
      (u' = u ∧ ∃ op', next = some op' ∧ Asks s op') ∨
      ∃ err, u' = u.sendFailed err ∧ next = none := by
  obtain ⟨request, phase⟩ := op
  obtain ⟨hrequest, hstreams⟩ := hop
  cases phase <;> cases hstreams
  case asking attempt =>
    cases answer <;> try cases h
    case reply data => exact .inl ⟨data, rfl⟩
    case failed err =>
      refine .inr ?_
      rw [SendOp.complete] at h
      dsimp only at h
      split_ifs at h
      · cases h
        exact .inl ⟨rfl, _, rfl, hrequest, rfl⟩
      · cases h
        exact .inr ⟨err, rfl, rfl⟩
  case backoff attempt =>
    cases answer <;> try cases h
    exact .inr (.inl ⟨rfl, _, rfl, hrequest, rfl⟩)

/-- The operations after a completion of the only one. -/
theorem filterMap_advance {p : Pending} {id : ℕ} (hid : p.id = id) (next : Option Op)
    (opened : Option ℕ) :
    ([p].filterMap fun q => if q.id = id then Tab.advance q next opened else some q) =
      (Tab.advance p next opened).toList := by
  rw [List.filterMap_cons, if_pos hid, List.filterMap_nil]
  cases Tab.advance p next opened <;> rfl

theorem unanswered_sendMessage {t t' : Tab} {now : ℤ} {content : JsString} (ht : Unanswered s t)
    (hidle : t.ops = []) (h : t.act ⟨now, .sendMessage content false⟩ = some t') :
    Unanswered s t' := by
  have hstore : Continues s [] t.store := by
    rcases ht with ⟨-, hstore⟩ | ⟨p, op, question, hops, -⟩
    · exact hstore
    · rw [hidle] at hops
      cases hops
  have habort : t.store.abortActiveRequest.currentDocumentId = t.store.currentDocumentId ∧
      t.store.abortActiveRequest.conversationId = t.store.conversationId := by
    unfold ChatStoreState.abortActiveRequest
    split <;> exact ⟨rfl, rfl⟩
  obtain rfl := Option.some.inj h
  refine .inr ⟨_, _, { role := .user, content, timestamp := some now },
    congrArg (List.cons _) hidle, rfl, ⟨⟨content, ?_⟩, rfl⟩,
    ⟨?_, habort.1.trans hstore.currentDocumentId, habort.2.trans hstore.conversationId⟩, rfl⟩
  · rw [← hstore.asking_eq]
    rfl
  · exact congrArg (· ++ _) (hstore.messages.trans (List.append_nil _))

/-- A completion leaves the question unanswered, unless the server accepts one. -/
theorem unanswered_complete {t t' : Tab} {now : ℤ} {id : ℕ} {answer : Completion}
    (ht : Unanswered s t) (hg : Answers accepts t ⟨now, .complete id answer⟩)
    (h : t.act ⟨now, .complete id answer⟩ = some t') :
    Unanswered s t' ∨ ∃ question, accepts (asking s question) := by
  obtain ⟨p, store, next, hfind, hc, rfl⟩ := Tab.act_complete rfl h
  rcases ht with ⟨hidle, -⟩ | ⟨q, op, question, hops, hop, hasks, hstore, hrole⟩
  · rw [hidle] at hfind
    cases hfind
  · rw [hops] at hfind
    obtain ⟨hid, rfl⟩ : q.id = id ∧ q = p := by simpa using hfind
    rw [hop] at hc
    obtain ⟨⟨store', next'⟩, hsend, heq⟩ := Option.map_eq_some_iff.1 hc
    cases heq
    rw [hops, filterMap_advance hid]
    rcases complete_asks hasks hsend with ⟨data, rfl⟩ | ⟨rfl, op', rfl, hasks'⟩ | ⟨err, rfl, rfl⟩
    · have hq : q ∈ t.ops := hops ▸ List.mem_singleton_self q
      obtain ⟨⟨text, htext⟩, -⟩ := hasks
      exact .inr ⟨text, htext ▸ hg q hq hid op hop⟩
    · exact .inl (.inr ⟨_, op', question, rfl, rfl, hasks', hstore, hrole⟩)
    · refine .inl (.inl ⟨rfl, ?_, hstore.currentDocumentId, hstore.conversationId⟩)
      show t.store.messages.dropLast = s.messages ++ []
      rw [hstore.messages, List.dropLast_concat, List.append_nil]

theorem unanswered_step {t t' : Tab} {e : Event} (ht : Unanswered s t)
    (hg : Answers accepts t e) (h : t.step e = some t') :
    Unanswered s t' ∨ ∃ question, accepts (asking s question) := by
  obtain ⟨u, hu, rfl⟩ := Tab.step_eq_some h
  obtain ⟨now, a⟩ := e
  cases a with
  | sendMessage content streaming =>
    obtain ⟨rfl, hidle⟩ := hg
    have hkept : Unanswered s u := unanswered_sendMessage ht hidle hu
    exact .inl hkept
  | complete id answer =>
    rcases unanswered_complete ht hg hu with hkept | haccepts
    · exact .inl hkept
    · exact .inr haccepts
  | _ => cases hg

/-- What is shown behind the messages: at most one question, in flight. -/
theorem Unanswered.asked {t : Tab} (h : Unanswered s t) :
    ∃ asked, t.store.messages = s.messages ++ asked ∧ asked.length = t.ops.length ∧
      ∀ msg ∈ asked, msg.role = .user := by
  rcases h with ⟨hops, hstore⟩ | ⟨p, op, question, hops, -, -, hstore, hrole⟩
  · exact ⟨[], hstore.messages, by rw [hops]; rfl, nofun⟩
  · refine ⟨[question], hstore.messages, by rw [hops]; rfl, ?_⟩
    intro msg hmsg
    rwa [List.mem_singleton.1 hmsg]

/-- A question remains unanswered unless the server accepts one behind the same messages. -/
theorem unanswered_of_run {t t' : Tab} {es : List Event}
    (h : Run Tab.step (Answers accepts) t es t') (hidle : t.ops = []) :
    Unanswered t.store t' ∨ ∃ question, accepts (asking t.store question) := by
  refine h.invariant (I := fun t' => Unanswered t.store t' ∨ _)
    (.inl (.inl ⟨hidle, (List.append_nil _).symm, rfl, rfl⟩)) ?_
  rintro u e u' (hu | haccepts) hg hst
  · exact unanswered_step hu hg hst
  · exact .inr haccepts

theorem errors_asking_iff (question : JsString) :
    (Http.ClientCall.chat (asking s question)).errors count = [] ↔
      count question ≤ 4000 ∧ ∀ msg ∈ s.messages, count msg.content ≤ 4000 := by
  refine (Http.chatErrors_eq_nil_iff _).trans (and_congr_right fun _ => ?_)
  exact List.forall_mem_map

/-- **A tab that shows a text that is too long gets no further answer**: what it shows are the
messages and at most one question that is in flight. -/
theorem messages_of_run {t t' : Tab} {es : List Event} (h : Run Tab.step (Checked count) t es t')
    (hidle : t.ops = []) (hlong : ∃ msg ∈ t.store.messages, 4000 < count msg.content) :
    ∃ asked, t'.store.messages = t.store.messages ++ asked ∧ asked.length = t'.ops.length ∧
      ∀ msg ∈ asked, msg.role = .user := by
  rcases unanswered_of_run h hidle with hunanswered | ⟨question, herrors⟩
  · exact hunanswered.asked
  · obtain ⟨msg, hmsg, hcount⟩ := hlong
    exact absurd ((errors_asking_iff question).1 herrors).2 fun hshort =>
      Nat.not_le.2 hcount (hshort msg hmsg)

/-- An answer of 4001 characters. -/
def longAnswer : Message := { role := .assistant, content := List.replicate 4001 97 }

/-- A tab that shows it. -/
def longTab : Tab := { store := { messages := [longAnswer] } }

/-- A message that is refused. -/
def refusedMessage : List Event :=
  [⟨0, .sendMessage (js "why?") false⟩, ⟨1, .complete 0 (.failed (.api [] 400))⟩]

theorem messages_of_run_refusedMessage :
    ∃ t', Run Tab.step (Checked List.length) longTab refusedMessage t' ∧
      ∃ asked, t'.store.messages = [longAnswer] ++ asked ∧ asked.length = t'.ops.length ∧
        ∀ msg ∈ asked, msg.role = .user := by
  have hrun : Run Tab.step (Checked List.length) longTab refusedMessage _ :=
    .cons ⟨rfl, rfl⟩ rfl (.cons trivial rfl (.nil _))
  have hlength : longAnswer.content.length = 4001 := List.length_replicate
  have hlong : 4000 < longAnswer.content.length := by omega
  exact ⟨_, hrun, messages_of_run hrun rfl ⟨longAnswer, List.mem_singleton_self _, hlong⟩⟩

theorem messages_replied (s : ChatStoreState) (request : ChatRequest) (data : ChatResponse) :
    ∃ answer, answer.role = .assistant ∧
      (s.replied request data).messages = s.messages ++ [answer] := by
  unfold ChatStoreState.replied
  split
  · exact ⟨_, rfl, rfl⟩
  · exact ⟨_, rfl, rfl⟩

/-- The reply to the only operation in flight. -/
theorem step_reply {t : Tab} {id conversation : ℕ} {op : SendOp}
    (hops : t.ops = [⟨id, conversation, .send op⟩]) (hphase : op.phase = .asking 0) (now : ℤ)
    (data : ChatResponse) :
    ∃ t', t.step ⟨now, .complete id (.reply data)⟩ = some t' ∧
      t'.store = t.store.replied op.request data := by
  have hfind : t.ops.find? (·.id = id) = some ⟨id, conversation, .send op⟩ := by
    simp [hops]
  have hreply : (Op.send op).complete now t.store (.reply data) =
      some (t.store.replied op.request data, none) := by
    rw [Op.complete, SendOp.complete, hphase]
    rfl
  exact ⟨_, Tab.step_complete hfind hreply, rfl⟩

/-- A reply. -/
def emptyReply : ChatResponse := { reply := [], hintLevel := .one, timestamp := 0 }

/-- A tab with nothing in flight **can get an answer** to a message that it does not stream, if and
only if every text that it shows is short enough, and some question that is short enough makes a
body that is small enough with them. -/
theorem answered_iff (engine : JsEngine) {t : Tab} (hidle : t.ops = []) :
    (∃ es t', Run Tab.step
        (Answers fun request => (Http.ClientCall.chat request).Accepted count engine) t es t' ∧
      ∃ asked, t'.store.messages = t.store.messages ++ asked ∧ ∃ msg ∈ asked, msg.role = .assistant)
      ↔ (∀ msg ∈ t.store.messages, count msg.content ≤ 4000) ∧
        ∃ question, count question ≤ 4000 ∧
          ((Http.ClientCall.chat (asking t.store question)).bodyBytes engine).length ≤
            Http.bodyLimit := by
  constructor
  · rintro ⟨es, t', hrun, asked, hasked, msg, hmsg, hrole⟩
    rcases unanswered_of_run hrun hidle with hunanswered | ⟨question, hbytes, herrors⟩
    · obtain ⟨asked', hasked', -, huser⟩ := hunanswered.asked
      obtain rfl := List.append_cancel_left (hasked.symm.trans hasked')
      rw [huser msg hmsg] at hrole
      cases hrole
    · obtain ⟨hquestion, htexts⟩ := (errors_asking_iff question).1 herrors
      exact ⟨htexts, question, hquestion, hbytes⟩
  · rintro ⟨htexts, content, hcontent, hbytes⟩
    let op : SendOp := (t.store.sendMessage 0 t.nextOp content false).2
    obtain ⟨t₁, question, hsend, hops, hmessages⟩ : ∃ t₁ question,
        t.step ⟨0, .sendMessage content false⟩ = some t₁ ∧
        t₁.ops = [⟨t.nextOp, t.shown, .send op⟩] ∧
        t₁.store.messages = t.store.messages ++ [question] :=
      ⟨_, _, rfl, congrArg (List.cons _) hidle, rfl⟩
    have haccepted : (Http.ClientCall.chat op.request).Accepted count engine :=
      ⟨hbytes, (errors_asking_iff content).2 ⟨hcontent, htexts⟩⟩
    have hchecked : Answers (fun request => (Http.ClientCall.chat request).Accepted count engine)
        t₁ ⟨1, .complete t.nextOp (.reply emptyReply)⟩ := by
      intro p hp hid op' hop'
      rw [hops, List.mem_singleton] at hp
      subst hp
      cases hop'
      exact haccepted
    obtain ⟨t₂, hreply, hstore⟩ := step_reply hops rfl 1 emptyReply
    have hasked : Answers (fun request => (Http.ClientCall.chat request).Accepted count engine) t
        ⟨0, .sendMessage content false⟩ := ⟨rfl, hidle⟩
    have hrun := Run.cons hasked hsend (.cons hchecked hreply (.nil t₂))
    obtain ⟨answer, hrole, hanswer⟩ := messages_replied t₁.store op.request emptyReply
    refine ⟨_, t₂, hrun, [question, answer], ?_, answer, by simp, hrole⟩
    rw [hstore, hanswer, hmessages, List.append_assoc]
    rfl

/-- An engine that writes every body as the same text. -/
def constEngine : JsEngine := .exact (fun _ => none) fun _ => js "\x7b\x7d"

/-- The tab with the long answer gets no further one; a tab without messages does. -/
theorem answered_iff_longTab :
    let gets (t : Tab) := ∃ es t', Run Tab.step (Answers fun request =>
        (Http.ClientCall.chat request).Accepted List.length constEngine) t es t' ∧
      ∃ asked, t'.store.messages = t.store.messages ++ asked ∧ ∃ msg ∈ asked, msg.role = .assistant
    ¬ gets longTab ∧ gets {} := by
  intro gets
  constructor
  · intro hgets
    have hlength : longAnswer.content.length = 4001 := List.length_replicate
    have hle := ((answered_iff constEngine rfl).1 hgets).1 longAnswer (List.mem_singleton_self _)
    omega
  · exact (answered_iff constEngine rfl).2 ⟨nofun, [], by decide, by decide⟩

end Client

end StudyOasis
