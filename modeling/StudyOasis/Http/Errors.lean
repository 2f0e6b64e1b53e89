import StudyOasis.Chat.Retry
import StudyOasis.Text.Json

/-!
# From an exception to the error of the client

`AllExceptionsFilter` makes a response of whatever a handler throws, in the language of the request
if `I18N_ENABLED` says so.  The methods of `ApiClient` make an `ApiError` of a response that is not
`ok`, and the chat store decides by its status whether it posts the message again.

* `request_respond` : what a method of `ApiClient` makes of the response to an exception;
* `complete_chatThrown` : **what the chat store makes of an exception of the server**: it posts
  again exactly when the status that the client sees is at least 500, and shows no text of such an
  exception;
* `resolveErrorMessage_congr` : a translated error says nothing but its code;
* `chatThrown_ofService` : the answers of the retry model are the errors that arrive.
-/

namespace StudyOasis

/-! ### Languages -/

/-- The value of a code of the enumeration. -/
def ErrorCode.value : ErrorCode → String
  | documentNotFound => "DOCUMENT_NOT_FOUND"
  | documentTooLarge => "DOCUMENT_TOO_LARGE"
  | invalidFileType => "INVALID_FILE_TYPE"
  | fileValidationFailed => "FILE_VALIDATION_FAILED"
  | conversationNotFound => "CONVERSATION_NOT_FOUND"
  | unauthorizedAccess => "UNAUTHORIZED_ACCESS"
  | sessionNotFound => "SESSION_NOT_FOUND"
  | sessionAlreadyCompleted => "SESSION_ALREADY_COMPLETED"
  | ocrFailed => "OCR_FAILED"
  | ocrNotReady => "OCR_NOT_READY"
  | externalServiceError => "EXTERNAL_SERVICE_ERROR"
  | rateLimitExceeded => "RATE_LIMIT_EXCEEDED"

/-- `I18nConfig`; the type of a locale is not checked when it is read. -/
structure I18nConfig where
  enabled : Bool
  defaultLocale : String
  deriving DecidableEq

/-- `getI18nConfig`, for `configService.get`. -/
def getI18nConfig (get : String → Option String) : I18nConfig where
  enabled := get "I18N_ENABLED" = some "true"
  defaultLocale := ((get "I18N_DEFAULT_LOCALE").filter (· ≠ "")).getD "en"

/-- `ERROR_MESSAGES[locale]?.[code]`. -/
def errorMessages (locale : String) (code : ErrorCode) : Option String :=
  if locale = "en" then
    match code with
    | .documentNotFound => some "Document not found"
    | .documentTooLarge => some "File size exceeds limit"
    | .invalidFileType => some "Invalid or unsupported file type"
    | .fileValidationFailed => none
    | .conversationNotFound => some "Conversation not found"
    | .unauthorizedAccess => some "You do not have permission to perform this action"
    | .sessionNotFound => some "Focus session not found"
    | .sessionAlreadyCompleted => some "Focus session already completed"
    | .ocrFailed => some "OCR processing failed"
    | .ocrNotReady => some "OCR result is not ready yet"
    | .externalServiceError => some "External service error"
    | .rateLimitExceeded => some "Rate limit exceeded"
  else if locale = "zh-CN" then
    match code with
    | .documentNotFound => some "未找到文档"
    | .documentTooLarge => some "文件大小超过限制"
    | .invalidFileType => some "文件类型不受支持或不安全"
    | .fileValidationFailed => none
    | .conversationNotFound => some "会话不存在"
    | .unauthorizedAccess => some "没有执行该操作的权限"
    | .sessionNotFound => some "未找到专注会话"
    | .sessionAlreadyCompleted => some "专注会话已完成"
    | .ocrFailed => some "OCR 识别失败"
    | .ocrNotReady => some "OCR 结果尚未准备好"
    | .externalServiceError => some "外部服务异常"
    | .rateLimitExceeded => some "请求频率超出限制"
  else none

/-- `resolveErrorMessage`. -/
def resolveErrorMessage (code : ErrorCode) (fallback locale : String) : String :=
  ((errorMessages locale code).filter (· ≠ "")).getD fallback

/-- The locales that are translated, and the only code without a translation. -/
theorem isSome_errorMessages_iff {locale : String} {code : ErrorCode} :
    (errorMessages locale code).isSome = true ↔
      (locale = "en" ∨ locale = "zh-CN") ∧ code ≠ .fileValidationFailed := by
  unfold errorMessages
  split_ifs with hen hzh
  · cases code <;> simp [hen]
  · cases code <;> simp [hzh]
  · simp [hen, hzh]

theorem errorMessages_ne_empty {locale text : String} {code : ErrorCode}
    (h : errorMessages locale code = some text) : text ≠ "" := by
  unfold errorMessages at h
  split_ifs at h
  · cases code <;> cases h <;> decide
  · cases code <;> cases h <;> decide

theorem resolveErrorMessage_of_some {locale text : String} {code : ErrorCode}
    (h : errorMessages locale code = some text) (fallback : String) :
    resolveErrorMessage code fallback locale = text := by
  rw [resolveErrorMessage, h, Option.filter_some,
    if_pos (decide_eq_true (errorMessages_ne_empty h)), Option.getD_some]

/-- **A translated error says nothing but its code.** -/
theorem resolveErrorMessage_congr {locale : String} {code : ErrorCode}
    (hlocale : locale = "en" ∨ locale = "zh-CN") (hcode : code ≠ .fileValidationFailed)
    (fallback fallback' : String) :
    resolveErrorMessage code fallback locale = resolveErrorMessage code fallback' locale := by
  obtain ⟨text, htext⟩ := Option.isSome_iff_exists.1 (isSome_errorMessages_iff.2 ⟨hlocale, hcode⟩)
  rw [resolveErrorMessage_of_some htext, resolveErrorMessage_of_some htext]

namespace Http

/-- What the filter reads of the request. -/
structure RequestHead where
  url : JsString
  /-- `headers['accept-language']`. -/
  acceptLanguage : Option JsString := none

/-- `detectLocale`. -/
def detectLocale (req : RequestHead) (config : I18nConfig) : String :=
  if !config.enabled then config.defaultLocale
  else
    match req.acceptLanguage with
    | some header =>
      if js "zh" <:+: header then "zh-CN"
      else if js "en" <:+: header then "en"
      else config.defaultLocale
    | none => config.defaultLocale

/-! ### The filter -/

/-- What is thrown. -/
inductive Thrown where
  /-- A `BusinessException`, with its `details`. -/
  | business (e : BusinessException) (details : Option JsonValue)
  /-- Another `HttpException`: what `getResponse()` returns, and its own message. -/
  | http (status : ℕ) (payload : JsonValue) (message : JsString)
  /-- Another `Error`. -/
  | error (message : JsString)
  /-- A value that is not an `Error`. -/
  | other

/-- The variables of `AllExceptionsFilter.catch`. -/
structure Caught where
  status : ℕ := 500
  message : JsonValue := .str (js "Internal server error")
  code : String := "INTERNAL_SERVER_ERROR"
  details : Option JsonValue := none

/-- `(payload as any).message || message`, and the other forms of a payload. -/
def payloadMessage (payload : JsonValue) (message : JsString) : JsonValue :=
  match payload with
  | .str s => .str s
  | .obj fields =>
    (truthyValue (fields.lookup (js "message"))).getD (.str (js "Internal server error"))
  | .arr _ => .str (js "Internal server error")
  | _ => .str message

/-- `AllExceptionsFilter.catch`, up to the response; `httpStatus` is `HttpStatus[status]`. -/
def AllExceptionsFilter.catch (httpStatus : ℕ → Option String) (config : I18nConfig)
    (request : RequestHead) : Thrown → Caught
  | .business e details =>
    { status := e.statusCode
      code := e.code.value
      -- every code is in `ErrorCode`
      message := .str (js
        (if config.enabled then
          resolveErrorMessage e.code e.message (detectLocale request config)
        else e.message))
      details }
  | .http status payload message =>
    { status
      code := ((httpStatus status).filter (· ≠ "")).getD "INTERNAL_SERVER_ERROR"
      message := payloadMessage payload message }
  | .error message => { message := .str message }
  | .other => {}

/-- The object that is sent; a property that is `undefined` is left out. -/
def Caught.body (c : Caught) (timestamp url : JsString) : JsonValue :=
  .obj <|
    [(js "statusCode", .num (.finite c.status)), (js "code", .str (js c.code)),
      (js "message", c.message)] ++
    c.details.toList.map (fun details => (js "details", details)) ++
    [(js "timestamp", .str timestamp), (js "path", .str url)]

/-- A response, as `fetch` gives it. -/
structure Response where
  status : ℕ
  statusText : JsString
  /-- The text of the body. -/
  text : JsString

/-- `response.ok`. -/
def Response.ok (response : Response) : Bool := 200 ≤ response.status && response.status ≤ 299

/-- `response.status(status).json(...)`. -/
def respond (engine : JsEngine) (timestamp statusText url : JsString) (c : Caught) : Response where
  status := c.status
  statusText
  text := engine.stringify (c.body timestamp url)

end Http

/-! ### The client -/

/-- The text that is made of the value is parsed to the value. -/
def JsEngine.ReadsBack (engine : JsEngine) (value : JsonValue) : Prop :=
  engine.parse (engine.stringify value) = some value

/-- The engine of the client, with the texts of the errors that it throws. -/
structure Browser extends JsEngine where
  /-- The message of the `SyntaxError` for a text that is not JSON. -/
  syntaxMessage : JsString → JsString
  /-- The message of the `TypeError` for a value. -/
  typeMessage : JsonValue → JsString
  /-- The message of the `TypeError` for a body that has been read. -/
  usedMessage : JsString
  /-- The message of the `TypeError` for the value of a header. -/
  headerMessage : JsString → JsString

namespace ApiClient

open Client Http

/-- The error for a response that is not `ok`; `error.message` may be any value. -/
def errorOf (b : Browser) (failure : JsString) (response : Response) : JsError :=
  let error := (b.parse response.text).getD (.obj [])
  match error.get (js "message") with
  | .error _ => .error (js "TypeError") (b.typeMessage error)
  | .ok message =>
    match truthyValue message with
    | none => .api (failure ++ response.statusText) response.status
    | some value =>
      match value.toStr b.toJsEngine with
      | .error _ => .error (js "TypeError") (b.typeMessage value)
      | .ok text => .api text response.status

/-- The outer `catch` block. -/
def rethrow (fallback : JsString) : JsError → JsError
  | .api message statusCode => .api message statusCode
  | .error _ message => .api message 0
  | .other => .api fallback 0

/-- `response.json()`, which is not awaited in the `try` block. -/
def json (b : Browser) (response : Response) : Except JsError JsonValue :=
  match b.parse response.text with
  | some value => .ok value
  | none => .error (.error (js "SyntaxError") (b.syntaxMessage response.text))

/-- The common form of the methods: `failure` and `fallback` are their texts, and `fetched` is what
becomes of `fetch`. -/
def request (b : Browser) (failure fallback : JsString) (fetched : Except JsError Response) :
    Except JsError JsonValue :=
  match fetched with
  | .error err => .error (rethrow fallback err)
  | .ok response =>
    if response.ok then json b response
    else .error (rethrow fallback (errorOf b failure response))

/-- `ApiClient.chat`. -/
def chat (b : Browser) : Except JsError Response → Except JsError JsonValue :=
  request b (js "请求失败: ") (js "网络请求失败")

/-- `ApiClient.uploadFile`. -/
def uploadFile (b : Browser) : Except JsError Response → Except JsError JsonValue :=
  request b (js "上传失败: ") (js "文件上传失败")

/-- `ApiClient.getOcrResult`. -/
def getOcrResult (b : Browser) : Except JsError Response → Except JsError JsonValue :=
  request b (js "获取 OCR 结果失败: ") (js "获取 OCR 结果失败")

end ApiClient

/-! ### What arrives -/

open Client

namespace Http

/-- The status that an exception is answered with. -/
def Thrown.status : Thrown → ℕ
  | business e _ => e.statusCode
  | http status _ _ => status
  | error _ => 500
  | other => 500

/-- The exception of a service. -/
def Thrown.ofService : ServiceError → Thrown
  | .business e => .business e none
  | .error message => .error message

variable {httpStatus : ℕ → Option String} {config : I18nConfig} {head : RequestHead}

/-- A locale that is detected is translated, if the default one is. -/
theorem detectLocale_supported
    (hdefault : config.defaultLocale = "en" ∨ config.defaultLocale = "zh-CN") :
    detectLocale head config = "en" ∨ detectLocale head config = "zh-CN" := by
  unfold detectLocale
  split_ifs
  · exact hdefault
  · split
    · split_ifs
      · exact .inr rfl
      · exact .inl rfl
      · exact hdefault
    · exact hdefault

/-- With translations, the response does not depend on the message of a business exception. -/
theorem catch_business_congr (henabled : config.enabled = true)
    (hdefault : config.defaultLocale = "en" ∨ config.defaultLocale = "zh-CN") {code : ErrorCode}
    (hcode : code ≠ .fileValidationFailed) (message message' : String) (status : ℕ)
    (details : Option JsonValue) :
    AllExceptionsFilter.catch httpStatus config head (.business ⟨code, message, status⟩ details) =
      AllExceptionsFilter.catch httpStatus config head
        (.business ⟨code, message', status⟩ details) := by
  simp only [AllExceptionsFilter.catch, henabled, if_true,
    resolveErrorMessage_congr (detectLocale_supported hdefault) hcode message message']

@[simp] theorem status_catch (thrown : Thrown) :
    (AllExceptionsFilter.catch httpStatus config head thrown).status = thrown.status := by
  cases thrown <;> rfl

theorem status_ofService (e : ServiceError) :
    (Thrown.ofService e).status = StudyOasis.AllExceptionsFilter.status e := by
  cases e <;> rfl

/-- The message stands under its name, with and without `details`. -/
theorem Caught.get_message (c : Caught) (timestamp url : JsString) :
    (c.body timestamp url).get (js "message") = .ok (some c.message) := by
  have hstatus : (js "message" == js "statusCode") = false := by decide
  have hcode : (js "message" == js "code") = false := by decide
  have hself : (js "message" == js "message") = true := by decide
  show Except.ok (List.lookup (js "message") _) = _
  simp only [List.cons_append, List.lookup_cons, hstatus, hcode, hself]

/-- The text that the client reads: the message, or what it puts in its place. -/
def Caught.text (b : Browser) (failure statusText : JsString) (c : Caught) : Js JsString :=
  match truthyValue (some c.message) with
  | none => pure (failure ++ statusText)
  | some value => value.toStr b.toJsEngine

/-- A text has no need of a replacement, unless it is empty. -/
theorem Caught.text_str (b : Browser) {failure statusText s : JsString} {c : Caught}
    (hmessage : c.message = .str s) (hs : s ≠ []) : c.text b failure statusText = .ok s := by
  have htruthy : (JsonValue.str s).isTruthy = true := decide_eq_true hs
  rw [text, hmessage, truthyValue, Option.filter_some, if_pos htruthy]
  rfl

/-- A message that is replaced could be converted too. -/
theorem Caught.isOk_text (b : Browser) (failure statusText : JsString) (c : Caught) :
    (c.text b failure statusText).isOk = c.message.convertible := by
  unfold text truthyValue
  rw [Option.filter_some]
  split_ifs with htruthy
  · exact c.message.isOk_toStr b.toJsEngine
  · cases hmessage : c.message with
    | arr items => exact absurd (by rw [hmessage]; rfl) htruthy
    | obj fields => exact absurd (by rw [hmessage]; rfl) htruthy
    | _ => rfl

/-- The status that the client sees: an error is thrown in its place where the message cannot be
converted to a text. -/
def Caught.seenStatus (c : Caught) : ℕ := if c.message.convertible then c.status else 0

/-- The error that a method of `ApiClient` throws for the response. -/
def Caught.clientError (b : Browser) (failure statusText : JsString) (c : Caught) : JsError :=
  match c.text b failure statusText with
  | .ok text => .api text c.status
  | .error _ => .api (b.typeMessage c.message) 0

theorem Caught.clientError_eq (b : Browser) (failure statusText : JsString) (c : Caught) :
    ∃ text, c.clientError b failure statusText = .api text c.seenStatus ∧
      ∀ s, c.message = .str s → s ≠ [] → text = s := by
  have hok := c.isOk_text b failure statusText
  unfold clientError seenStatus
  cases htext : c.text b failure statusText with
  | ok text =>
    rw [htext] at hok
    rw [if_pos (show c.message.convertible = true from hok.symm)]
    refine ⟨text, rfl, fun s hmessage hs => ?_⟩
    rw [text_str b hmessage hs] at htext
    exact (Except.ok.inj htext).symm
  | error e =>
    rw [htext] at hok
    rw [if_neg (by rw [← hok]; exact Bool.false_ne_true)]
    refine ⟨_, rfl, fun s hmessage hs => ?_⟩
    rw [text_str b hmessage hs] at htext
    cases htext

end Http

namespace ApiClient

open Http

variable {b : Browser} {httpStatus : ℕ → Option String} {config : I18nConfig} {head : RequestHead}

/-- **What a method of `ApiClient` makes of the response to an exception.** -/
theorem request_respond {failure fallback statusText timestamp url : JsString} {c : Caught}
    (hparse : b.ReadsBack (c.body timestamp url)) :
    request b failure fallback (.ok (respond b.toJsEngine timestamp statusText url c)) =
      if 200 ≤ c.status ∧ c.status ≤ 299 then .ok (c.body timestamp url)
      else .error (c.clientError b failure statusText) := by
  have herror : rethrow fallback
      (errorOf b failure (respond b.toJsEngine timestamp statusText url c)) =
        c.clientError b failure statusText := by
    unfold errorOf respond Caught.clientError Caught.text
    simp only [show b.parse _ = _ from hparse, Option.getD_some, Caught.get_message]
    cases hvalue : truthyValue (some c.message) with
    | none => rfl
    | some value =>
      obtain rfl : c.message = value := (Option.filter_eq_some_iff.1 hvalue).1 |> Option.some.inj
      simp only
      cases c.message.toStr b.toJsEngine <;> rfl
  have hok : (respond b.toJsEngine timestamp statusText url c).ok = true ↔
      200 ≤ c.status ∧ c.status ≤ 299 := by
    rw [Response.ok, Bool.and_eq_true, decide_eq_true_iff, decide_eq_true_iff]
    rfl
  have hjson : json b (respond b.toJsEngine timestamp statusText url c) =
      .ok (c.body timestamp url) := by
    simp only [json, respond, show b.parse _ = _ from hparse]
  rw [request, hjson, herror]
  exact if_congr hok rfl rfl

/-- What `ApiClient.chat` answers when the handler throws. -/
def chatThrown (b : Browser) (httpStatus : ℕ → Option String) (config : I18nConfig)
    (head : RequestHead) (timestamp statusText : JsString) (thrown : Thrown) :
    Except JsError JsonValue :=
  chat b (.ok (respond b.toJsEngine timestamp statusText head.url
    (AllExceptionsFilter.catch httpStatus config head thrown)))

/-- An exception with an error status arrives as an error. -/
theorem chatThrown_eq {timestamp statusText : JsString} {thrown : Thrown}
    (hparse : b.ReadsBack
      ((AllExceptionsFilter.catch httpStatus config head thrown).body timestamp head.url))
    (hstatus : 400 ≤ thrown.status ∧ thrown.status ≤ 599) :
    chatThrown b httpStatus config head timestamp statusText thrown =
      .error ((AllExceptionsFilter.catch httpStatus config head thrown).clientError b
        (js "请求失败: ") statusText) := by
  have hfail : ¬ (200 ≤ thrown.status ∧ thrown.status ≤ 299) := by omega
  rw [chatThrown, chat, request_respond hparse, status_catch, if_neg hfail]

/-- The status that the client sees of an exception. -/
def seenStatus (httpStatus : ℕ → Option String) (config : I18nConfig) (head : RequestHead)
    (thrown : Thrown) : ℕ :=
  (AllExceptionsFilter.catch httpStatus config head thrown).seenStatus

/-- It is the status of the exception; only the payload of an `HttpException` can hide it. -/
theorem seenStatus_eq (thrown : Thrown) :
    seenStatus httpStatus config head thrown = thrown.status ∨
      seenStatus httpStatus config head thrown = 0 ∧
        ∃ status payload message, thrown = .http status payload message := by
  cases thrown with
  | http status payload message =>
    unfold seenStatus Caught.seenStatus
    split_ifs
    · exact .inl rfl
    · exact .inr ⟨rfl, _, _, _, rfl⟩
  | _ => exact .inl rfl

/-- **What the chat store makes of an exception of the server** with an error status.  It posts the
message again, at most three times, exactly when the status that the client sees is at least 500.
Otherwise it takes the message back and shows an error, in which there is a text of the server only
for a status below 500 other than 429; the text of a business exception is its message, or its
translation. -/
theorem complete_chatThrown {timestamp statusText : JsString} {thrown : Thrown}
    (hparse : b.ReadsBack
      ((AllExceptionsFilter.catch httpStatus config head thrown).body timestamp head.url))
    (hstatus : 400 ≤ thrown.status ∧ thrown.status ≤ 599) {op : SendOp} {attempt : ℕ}
    (hop : op.phase = .asking attempt) (now : ℤ) (s : ChatStoreState) :
    let seen := seenStatus httpStatus config head thrown
    ∃ err text, chatThrown b httpStatus config head timestamp statusText thrown = .error err ∧
      op.complete now s (.failed err) =
        (if attempt < maxRetries ∧ 500 ≤ seen then
          some (s, some { op with phase := .backoff attempt })
        else
          some (ChatStoreState.sendFinally
            { s with
              error := some <|
                if seen = 429 then js "Too many requests, please try again later"
                else if 500 ≤ seen then js "Server error, auto retrying"
                else js "Failed (" ++ js (toString seen) ++ js "): " ++ text
              messages := s.messages.dropLast }, none)) ∧
      ∀ e details, thrown = .business e details →
        let shown := if config.enabled then
          resolveErrorMessage e.code e.message (detectLocale head config) else e.message
        js shown ≠ [] → text = js shown := by
  intro seen
  obtain ⟨text, herr, htext⟩ := Caught.clientError_eq b (js "请求失败: ") statusText
    (AllExceptionsFilter.catch httpStatus config head thrown)
  refine ⟨.api text seen, text, (chatThrown_eq hparse hstatus).trans (congrArg _ herr), ?_, ?_⟩
  · have hretries : retries attempt (.api text seen) = true ↔
        attempt < maxRetries ∧ 500 ≤ seen := by
      simp only [retries, Bool.and_eq_true, decide_eq_true_iff, ge_iff_le]
    simp only [SendOp.complete, hop]
    exact if_congr hretries rfl rfl
  · rintro e details rfl shown hshown
    exact htext (js shown) rfl hshown

/-- A conversation that does not exist. -/
def notFound : Thrown := .business ⟨.conversationNotFound, "Conversation c not found", 404⟩ none

/-- What is sent for it. -/
def notFoundBody : JsonValue :=
  (AllExceptionsFilter.catch (fun _ => none) (getI18nConfig fun _ => none) { url := js "/chat" }
    notFound).body (js "2025-11-11T12:00:00.000Z") (js "/chat")

/-- The text of it. -/
def notFoundText : JsString :=
  js ("\x7b\"statusCode\":404,\"code\":\"CONVERSATION_NOT_FOUND\"," ++
    "\"message\":\"Conversation c not found\",\"timestamp\":\"2025-11-11T12:00:00.000Z\"," ++
    "\"path\":\"/chat\"\x7d")

/-- An engine that knows this value. -/
def notFoundBrowser : Browser where
  toJsEngine := .exact (fun text => if text = notFoundText then some notFoundBody else none)
    fun _ => notFoundText
  syntaxMessage _ := js "Unexpected token"
  typeMessage _ := js "Cannot convert object to primitive value"
  usedMessage := js "body stream already read"
  headerMessage _ := js "Invalid value"

theorem readsBack_of_known (text : JsString) (value : JsonValue) :
    (JsEngine.exact (fun t => if t = text then some value else none) fun _ => text).ReadsBack
      value := if_pos rfl

/-- The message is taken back, and its error is shown. -/
theorem complete_chatThrown_notFound :
    let asking : SendOp := { request := ⟨js "hi", [], none, none⟩, phase := .asking 0 }
    let s : ChatStoreState := { messages := [{ role := .user, content := js "hi" }] }
    ∃ err, chatThrown notFoundBrowser (fun _ => none) (getI18nConfig fun _ => none)
        { url := js "/chat" } (js "2025-11-11T12:00:00.000Z") (js "Not Found") notFound =
          .error err ∧
      asking.complete 0 s (.failed err) =
        some ({ error := some (js "Failed (404): Conversation c not found") }, none) := by
  intro asking s
  have hread : notFoundBrowser.ReadsBack notFoundBody := readsBack_of_known _ _
  have hasking : asking.phase = .asking 0 := rfl
  obtain ⟨err, text, herr, hcomplete, htext⟩ := @complete_chatThrown notFoundBrowser
    (fun _ => none) (getI18nConfig fun _ => none) { url := js "/chat" }
    (js "2025-11-11T12:00:00.000Z") (js "Not Found") notFound hread (by decide) _ _
    hasking 0 s
  have henabled : (getI18nConfig fun _ => none).enabled = false := rfl
  replace htext := htext _ _ rfl
  simp only [henabled, Bool.false_eq_true, if_false] at htext
  obtain rfl := htext (List.cons_ne_nil _ _)
  refine ⟨err, herr, hcomplete.trans ?_⟩
  rw [if_neg (by decide)]
  rfl

/-- **The answers of the retry model are the errors that arrive**, without translations. -/
theorem chatThrown_ofService {timestamp statusText : JsString} {e : ServiceError}
    (hconfig : config.enabled = false)
    (hparse : b.ReadsBack ((AllExceptionsFilter.catch httpStatus config head
      (.ofService e)).body timestamp head.url))
    (hstatus : 400 ≤ (Thrown.ofService e).status ∧ (Thrown.ofService e).status ≤ 599)
    (hmessage : e.message ≠ []) (now : ℤ) :
    ∃ err, chatThrown b httpStatus config head timestamp statusText (.ofService e) = .error err ∧
      ChatService.answerOf now (.error e) = .failed err := by
  have hstr : (AllExceptionsFilter.catch httpStatus config head (.ofService e)).message =
      .str e.message := by
    cases e with
    | business e =>
      simp only [Thrown.ofService, AllExceptionsFilter.catch, hconfig, Bool.false_eq_true, if_false,
        ServiceError.message]
    | error message => rfl
  obtain ⟨text, herr, htext⟩ := Caught.clientError_eq b (js "请求失败: ") statusText
    (AllExceptionsFilter.catch httpStatus config head (.ofService e))
  obtain rfl := htext e.message hstr hmessage
  have hseen : (AllExceptionsFilter.catch httpStatus config head (.ofService e)).seenStatus =
      StudyOasis.AllExceptionsFilter.status e := by
    have htext : (JsonValue.str e.message).convertible = true := rfl
    rw [Caught.seenStatus, hstr, if_pos htext, status_catch, status_ofService]
  refine ⟨_, (chatThrown_eq hparse hstatus).trans (congrArg _ herr), ?_⟩
  rw [ChatService.answerOf, hseen]

end ApiClient

end StudyOasis
