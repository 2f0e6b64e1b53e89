import StudyOasis.Chat.StreamRequest
import StudyOasis.Http.Routes

/-!
# The requests of the client

The client writes an id into the path of a request as it is, and the server undoes the digits of the
segments that it takes for parameters.

* `handlerOf_target_iff` : **every request of the client reaches the handler it is meant for**, and
  that gets its ids, unless the proof of a session has the id `content`.
-/

namespace StudyOasis

namespace Http

/-- The bytes of a part of a path, or nothing if an escape is malformed. -/
def percentDecode : List Char → Option (List UInt8)
  | [] => some []
  | '%' :: a :: b :: s => do
    let byte ← FormUrl.hexByte a b
    let bytes ← percentDecode s
    return byte :: bytes
  | c :: s => if c = '%' then none else (percentDecode s).map (.ofNat c.toNat :: ·)

/-- `decodeURIComponent`; the bytes must be those of a text. -/
def decodeURIComponent (s : List Char) : Option JsString := do
  let bytes ← percentDecode s
  let text := Utf8.decode bytes
  if Utf8.encode text = bytes then some (Utf16.encode text) else none

/-- The handler of a request, with the parameters that it gets. -/
def handlerOf (method : Method) (target : List Char) : Option (Handler × List JsString) := do
  let (h, params) ← route method target
  let params ← params.mapM decodeURIComponent
  return (h, params)

/-- A letter, a digit, or one of `-` and `_`. -/
def isIdChar (c : Char) : Bool := FormUrl.isAlphanumeric c.toNat || ['-', '_'].contains c

/-- An id that stands in a path as it is. -/
structure PathId where
  text : List Char
  ne_nil : text ≠ []
  plain : ∀ c ∈ text, isIdChar c = true

/-- The id. -/
def PathId.value (id : PathId) : JsString := Utf16.encode id.text

/-- What `FocusMode` passes to `updateSession`. -/
inductive UpdateData where
  | duration (activeDuration : ℤ)
  | abandoned (activeDuration : ℤ)
  | paused (pauseCount activeDuration : ℤ)
  | active (activeDuration : ℤ)

/-- The requests of the client, with what stands in their URLs and bodies. -/
inductive ClientCall where
  -- `ApiClient`
  | chat (request : Client.ChatRequest)
  | chatStream (request : Client.ChatRequest) (uploadId : Option JsString)
  | uploadFile
  | getOcrResult (documentId : PathId)
  -- `useFocusStore`
  | createSession (documentId conversationId : Option JsString)
  | updateSession (sessionId : PathId) (data : UpdateData)
  | logDistraction (sessionId : PathId)
  | completeSession (sessionId : PathId) (completionProofId : Option JsString)
  | getSession (sessionId : PathId)
  | getSessionAnalytics (sessionId : PathId)
  | getUserSessions (params : List (JsString × JsString))
  -- `NotificationBanner`, `CompleteWorkModal` and the report of a session
  | getBanners
  | uploadProof (userId : Option JsString)
  | getProof (completionProofId : PathId)

namespace ClientCall

/-- The method of the request. -/
def method : ClientCall → Method
  | chat _ | uploadFile => .post
  | createSession .. | logDistraction _ | completeSession .. | uploadProof _ => .post
  | updateSession .. => .put
  | chatStream .. | getOcrResult _ | getSession _ | getSessionAnalytics _ | getUserSessions _
  | getBanners | getProof _ => .get

/-- The URL of the request, behind the base and before the query. -/
def path : ClientCall → List Char
  | chat _ => "/chat".toList
  | chatStream .. => "/chat/stream".toList
  | uploadFile | uploadProof _ => "/upload".toList
  | getOcrResult id => "/upload/documents/".toList ++ id.text ++ "/ocr".toList
  | createSession .. | getUserSessions _ => "/focus/sessions".toList
  | updateSession id _ | getSession id => "/focus/sessions/".toList ++ id.text
  | logDistraction id => "/focus/sessions/".toList ++ id.text ++ "/distractions".toList
  | completeSession id _ => "/focus/sessions/".toList ++ id.text ++ "/complete".toList
  | getSessionAnalytics id => "/focus/sessions/".toList ++ id.text ++ "/analytics".toList
  | getBanners => "/notifications/banners".toList
  | getProof id => "/upload/documents/".toList ++ id.text

/-- The query, with its question mark. -/
def query : ClientCall → List Char
  | chatStream request uploadId => '?' :: ApiClient.chatStreamQuery request uploadId
  | getUserSessions params =>
    let text := FormUrl.serialize FormUrl.searchParams params
    if text = [] then [] else '?' :: text
  | uploadProof userId =>
    match Client.truthy userId with
    | some id => "?userId=".toList ++ FormUrl.escapeText FormUrl.uriComponent id
    | none => []
  | _ => []

/-- The target of the request. -/
def target (call : ClientCall) : List Char := call.path ++ call.query

/-- The handler that the request is meant for. -/
def handler : ClientCall → Handler
  | chat _ => .chat
  | chatStream .. => .chatStream
  | uploadFile | uploadProof _ => .uploadFile
  | getOcrResult _ => .getOcrResult
  | createSession .. => .createSession
  | updateSession .. => .updateSession
  | logDistraction _ => .logDistraction
  | completeSession .. => .completeSession
  | getSession _ => .getSession
  | getSessionAnalytics _ => .getSessionAnalytics
  | getUserSessions _ => .getUserSessions
  | getBanners => .getBanners
  | getProof _ => .getDocumentInfo

/-- The ids in the path. -/
def ids : ClientCall → List PathId
  | getOcrResult id | updateSession id _ | logDistraction id | completeSession id _ | getSession id
  | getSessionAnalytics id | getProof id => [id]
  | _ => []

end ClientCall

theorem percentDecode_cons {c : Char} (h : c ≠ '%') (s : List Char) :
    percentDecode (c :: s) = (percentDecode s).map (.ofNat c.toNat :: ·) := by
  cases s with
  | nil => simp [percentDecode, h]
  | cons a s => cases s <;> simp [percentDecode, h]

theorem percentDecode_plain {s : List Char} (h : '%' ∉ s) :
    percentDecode s = some (s.map fun c => .ofNat c.toNat) := by
  induction s with
  | nil => rfl
  | cons c s ih =>
    have hc : c ≠ '%' := (List.ne_of_not_mem_cons h).symm
    have hs : '%' ∉ s := List.not_mem_of_not_mem_cons h
    rw [percentDecode_cons hc, ih hs, Option.map_some, List.map_cons]

theorem decodeURIComponent_plain {s : List Char} (h : '%' ∉ s) (hs : ∀ c ∈ s, Utf8.IsAscii c) :
    decodeURIComponent s = some (Utf16.encode s) := by
  have hbytes : (s.map fun c => UInt8.ofNat c.toNat) = Utf8.encode s := by
    induction s with
    | nil => rfl
    | cons c s ih =>
      have hc := hs c List.mem_cons_self
      have hrest := ih (fun hmem => h (List.mem_cons_of_mem c hmem))
        fun d hd => hs d (List.mem_cons_of_mem c hd)
      rw [List.map_cons, hrest, Utf8.encode, Utf8.encode, List.flatMap_cons,
        Utf8.encodeChar_ascii hc, List.singleton_append]
  rw [decodeURIComponent, percentDecode_plain h, hbytes]
  simp

theorem isAscii_of_isIdChar {c : Char} (h : isIdChar c = true) : Utf8.IsAscii c := by
  rcases Bool.or_eq_true_iff.1 h with h | h
  · obtain ⟨hlow, hhigh, -⟩ := FormUrl.plain_of_isAlphanumeric h
    exact ⟨by omega, by omega⟩
  · obtain rfl | rfl : c = '-' ∨ c = '_' := by simpa using h
    · decide
    · decide

namespace PathId

variable (id : PathId)

theorem not_mem {c : Char} (h : isIdChar c = false) : c ∉ id.text := by
  intro hmem
  rw [id.plain c hmem] at h
  cases h

theorem pathText : PathText id.text :=
  ⟨id.ne_nil, id.not_mem (by decide), id.not_mem (by decide)⟩

/-- The server reads the id as it is. -/
theorem decode_text : decodeURIComponent id.text = some id.value :=
  decodeURIComponent_plain (id.not_mem (by decide)) fun c hc => isAscii_of_isIdChar (id.plain c hc)

end PathId

namespace ClientCall

variable (call : ClientCall)

theorem method_handler : call.handler.method = call.method := by
  cases call <;> rfl

/-- The path of a handler with a parameter at its end. -/
theorem pathOf_param (h : Handler) (a b : String)
    (hpattern : h.pattern = [.literal a.toList, .literal b.toList, .param]) (t : List Char) :
    pathOf h [t] = ('/' :: a.toList) ++ ('/' :: b.toList) ++ ('/' :: t) := by
  simp [pathOf, hpattern, Routing.fill, List.intercalate_cons_cons]

/-- The path of a handler with a parameter in front of a literal. -/
theorem pathOf_param_literal (h : Handler) (a b c : String)
    (hpattern : h.pattern = [.literal a.toList, .literal b.toList, .param, .literal c.toList])
    (t : List Char) :
    pathOf h [t] =
      ('/' :: a.toList) ++ ('/' :: b.toList) ++ ('/' :: t) ++ ('/' :: c.toList) := by
  simp [pathOf, hpattern, Routing.fill, List.intercalate_cons_cons]

theorem path_eq : call.path = pathOf call.handler (call.ids.map PathId.text) := by
  cases call with
  | getOcrResult id =>
    exact (pathOf_param_literal .getOcrResult "upload" "documents" "ocr" (by decide +kernel)
      id.text).symm
  | logDistraction id =>
    exact (pathOf_param_literal .logDistraction "focus" "sessions" "distractions"
      (by decide +kernel) id.text).symm
  | completeSession id proof =>
    exact (pathOf_param_literal .completeSession "focus" "sessions" "complete" (by decide +kernel)
      id.text).symm
  | getSessionAnalytics id =>
    exact (pathOf_param_literal .getSessionAnalytics "focus" "sessions" "analytics"
      (by decide +kernel) id.text).symm
  | updateSession id data =>
    exact (pathOf_param .updateSession "focus" "sessions" (by decide +kernel) id.text).symm
  | getSession id =>
    exact (pathOf_param .getSession "focus" "sessions" (by decide +kernel) id.text).symm
  | getProof id =>
    exact (pathOf_param .getDocumentInfo "upload" "documents" (by decide +kernel) id.text).symm
  | _ =>
    dsimp only [path, handler, ids, List.map_nil]
    decide +kernel

theorem head_query : call.query.head? = none ∨ call.query.head? = some '?' := by
  cases call with
  | chatStream request uploadId => exact .inr rfl
  | getUserSessions params =>
    simp only [query]
    split
    · exact .inl rfl
    · exact .inr rfl
  | uploadProof userId =>
    simp only [query]
    split
    · exact .inr rfl
    · exact .inl rfl
  | _ => exact .inl rfl

theorem length_ids : (call.ids.map PathId.text).length = Routing.holes call.handler.pattern := by
  rw [List.length_map]
  cases call <;> dsimp only [ids, handler, List.length_cons, List.length_nil] <;> decide +kernel

theorem pathText_ids : ∀ t ∈ call.ids.map PathId.text, PathText t := by
  intro t ht
  obtain ⟨id, -, rfl⟩ := List.mem_map.1 ht
  exact id.pathText

/-- Whatever parameters the handler gets, they are the ids. -/
theorem params_of_route {params : List (List Char)}
    (h : route call.method call.target = some (call.handler, params)) :
    params = call.ids.map PathId.text := by
  rw [route, target, path_eq, segments_pathOf _ call.pathText_ids call.head_query] at h
  obtain ⟨before, after, -, hfit, -⟩ := Routing.dispatch_eq_some_iff.1 h
  have hkeys : ∀ t ∈ call.ids.map PathId.text, comparison.key t ≠ comparison.blank :=
    fun t ht hkey => (call.pathText_ids t ht).1 (List.map_eq_nil_iff.1 hkey)
  exact Option.some.inj (hfit.symm.trans (Routing.fit_fill call.length_ids hkeys))

theorem route_target_iff :
    route call.method call.target = some (call.handler, call.ids.map PathId.text) ↔
      ∀ id, call = .getProof id → id.text.map Char.toLower ≠ contentWord := by
  rw [target, path_eq, ← method_handler,
    route_pathOf_iff call.handler call.length_ids call.pathText_ids call.head_query]
  constructor
  · rintro ⟨-, hinfo⟩ id rfl hword
    exact hinfo rfl (congrArg (fun word => [word]) hword)
  · intro hword
    constructor
    · cases call <;> simp [handler]
    · intro hhandler
      cases call with
      | getProof id => exact fun heq => hword id rfl (List.cons.inj heq).1
      | _ => cases hhandler

/-- **Every request of the client reaches the handler it is meant for**, and that gets its ids,
unless the proof of a session has the id `content`. -/
theorem handlerOf_target_iff :
    handlerOf call.method call.target = some (call.handler, call.ids.map PathId.value) ↔
      ∀ id, call = .getProof id → id.text.map Char.toLower ≠ contentWord := by
  rw [← route_target_iff]
  constructor
  · intro h
    obtain ⟨⟨handler, params⟩, hroute, h⟩ := Option.bind_eq_some_iff.1 h
    obtain ⟨values, -, h⟩ := Option.bind_eq_some_iff.1 h
    obtain rfl : handler = call.handler := congrArg Prod.fst (Option.some.inj h)
    rw [hroute, call.params_of_route hroute]
  · intro hroute
    have hvalues : (call.ids.map PathId.text).mapM decodeURIComponent =
        some (call.ids.map PathId.value) := by
      induction call.ids with
      | nil => rfl
      | cons id ids ih => simp [id.decode_text, ih]
    simp [handlerOf, hroute, hvalues]

end ClientCall

end Http

end StudyOasis
