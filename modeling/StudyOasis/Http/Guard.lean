import StudyOasis.Http.Cache
import StudyOasis.Http.Errors

/-!
# The authentication guard

`apiFetch` sends the access token of the session in the `Authorization` header;
`SupabaseAuthGuard` takes it out of the header, asks Supabase whose token it is, and puts the user
into the request.  Supabase is a parameter.  Behind the guard comes the cache of `Http.Cache`, which
does not ask for the user.

* `canActivate_ok_iff` : which requests get past the guard, and as whom;
* `canActivate_error` : every other one is answered with the status 401 and one of three texts;
* `extractTokenFromHeader_set` : which tokens survive the header;
* `apiFetch_guarded` : **a call of a guarded route fails with the text of the guard, or receives
  what the handler returns for the user of the token, or else a live entry of the cache, which the
  handler has returned before for the user the entry belongs to**.
-/

namespace StudyOasis

namespace Http

open Client

/-! ### The guard -/

section Split

variable {α : Type*} [DecidableEq α] {sep : α} {xs : List α}

/-- A list without the separator, or the part in front of the first one and the rest. -/
theorem splitOn_cases (sep : α) (xs : List α) :
    (sep ∉ xs ∧ xs.splitOn sep = [xs]) ∨
      ∃ a b, sep ∉ a ∧ xs = a ++ sep :: b ∧ xs.splitOn sep = a :: b.splitOn sep := by
  by_cases h : sep ∈ xs
  · obtain ⟨a, b, rfl, ha⟩ := List.eq_append_cons_of_mem h
    exact .inr ⟨a, b, ha, rfl, List.splitOn_append_cons_self_of_not_mem ha _⟩
  · exact .inl ⟨h, List.splitOn_eq_singleton h⟩

theorem splitOn_eq_pair_iff {a b : List α} :
    xs.splitOn sep = [a, b] ↔ xs = a ++ sep :: b ∧ sep ∉ a ∧ sep ∉ b := by
  constructor
  · intro h
    rcases splitOn_cases sep xs with ⟨-, hs⟩ | ⟨a', b', ha, rfl, hs⟩
    · rw [hs] at h
      cases h
    · rw [hs] at h
      obtain ⟨rfl, hb⟩ := List.cons.inj h
      -- the rest is one part, so there is no separator in it
      rcases splitOn_cases sep b' with ⟨hb', hs'⟩ | ⟨c, d, -, -, hs'⟩
      · obtain ⟨rfl, -⟩ := List.cons.inj (hs'.symm.trans hb)
        exact ⟨rfl, ha, hb'⟩
      · rw [hs'] at hb
        exact absurd (List.cons.inj hb).2 (List.splitOn_ne_nil _ _)
  · rintro ⟨rfl, ha, hb⟩
    rw [List.splitOn_append_cons_self_of_not_mem ha, List.splitOn_eq_singleton hb]

end Split

/-- What `supabase.auth.getUser` does with a token. -/
inductive GetUser (User : Type) where
  /-- `data.user`, without an error. -/
  | user (u : User)
  /-- An error, or no user. -/
  | failed
  /-- The promise is rejected. -/
  | thrown

/-- `new UnauthorizedException(message)`. -/
def unauthorizedException (message : JsString) : Thrown :=
  .http 401
    (.obj [(js "message", .str message), (js "error", .str (js "Unauthorized")),
      (js "statusCode", .num (.finite 401))])
    message

namespace SupabaseAuthGuard

/-- `extractTokenFromHeader`. -/
def extractTokenFromHeader (authorization : Option JsString) : Option JsString :=
  match Client.truthy authorization with
  | none => none
  | some authHeader =>
    match authHeader.splitOn 32 with
    | [scheme, token] => if scheme = js "Bearer" then some token else none
    | _ => none

/-- `canActivate`: the user that is put into the request.  Without credentials there is no client of
Supabase; an exception that is thrown in the `try` block is caught there. -/
def canActivate {User : Type} (supabase : Option (JsString → GetUser User))
    (authorization : Option JsString) : Except Thrown User :=
  match Client.truthy (extractTokenFromHeader authorization) with
  | none => .error (unauthorizedException (js "Missing authorization token"))
  | some token =>
    match supabase with
    | none => .error (unauthorizedException (js "Authentication service not available"))
    | some getUser =>
      match getUser token with
      | .user u => .ok u
      | .failed => .error (unauthorizedException (js "Failed to authenticate"))
      | .thrown => .error (unauthorizedException (js "Failed to authenticate"))

end SupabaseAuthGuard

/-- A text that is not empty is kept by `||`. -/
theorem truthy_of_ne_nil {s : JsString} (h : s ≠ []) : Client.truthy (some s) = some s :=
  if_pos (decide_eq_true h)

/-! ### The header -/

/-- The characters that are dropped at both ends of the value of a header. -/
def isHeaderSpace (c : UInt16) : Bool := c = 9 || c = 10 || c = 13 || c = 32

/-- The characters that no header may have. -/
def isForbidden (c : UInt16) : Bool := c = 0 || c = 10 || c = 13 || 255 < c

/-- `headers.set`: the value that is kept, unless there is a `TypeError`. -/
def headerValue (value : JsString) : Option JsString :=
  let value := (value.dropWhile isHeaderSpace).rdropWhile isHeaderSpace
  if value.any isForbidden then none else some value

/-! ### The client -/

/-- A response with its `content-type`. -/
structure TypedResponse extends Response where
  contentType : JsString

/-- What `apiFetch` returns. -/
inductive Fetched where
  | undefined
  | json (value : JsonValue)
  | text (text : JsString)

/-- What `apiFetch` throws for a response that is not `ok`.  The body of a response that is not JSON
has been read when its text is asked for. -/
def fetchError (b : Browser) (response : TypedResponse) : JsError :=
  match b.parse response.text with
  | none => .error (js "TypeError") b.usedMessage
  | some errorPayload =>
    match errorPayload.get (js "message") with
    | .error _ => .error (js "TypeError") (b.typeMessage errorPayload)
    | .ok message =>
      match truthyValue message with
      | none => .error (js "Error") (js "API error: " ++ js (toString response.status))
      | some value =>
        match value.toStr b.toJsEngine with
        | .error _ => .error (js "TypeError") (b.typeMessage value)
        | .ok text => .error (js "Error") text

/-- `apiFetch` after the response has arrived. -/
def receive (b : Browser) (response : TypedResponse) : Except JsError Fetched :=
  if !response.ok then .error (fetchError b response)
  else if response.status = 204 then .ok .undefined
  else if js "application/json" <:+: response.contentType then
    (ApiClient.json b response.toResponse).map .json
  else .ok (.text response.text)

/-- `apiFetch`, for the token of the session and the `Authorization` that the caller gives. -/
def apiFetch (b : Browser) (token given : Option JsString)
    (fetch : JsString → Except JsError TypedResponse) : Except JsError Fetched :=
  match Client.truthy token with
  | none => .error (.error (js "Error") (js "Not authenticated"))
  | some token =>
    match given with
    | some authorization => fetch authorization >>= receive b
    | none =>
      match headerValue (js "Bearer" ++ 32 :: token) with
      | none => .error (.error (js "TypeError") (b.headerMessage token))
      | some authorization => fetch authorization >>= receive b

/-! ### A guarded route -/

/-- The server that a guarded route belongs to. -/
structure Backend (User : Type) where
  engine : JsEngine
  httpStatus : ℕ → Option String
  config : I18nConfig
  /-- The client of Supabase, if there are credentials. -/
  supabase : Option (JsString → GetUser User)

/-- The response to a result of the handler. -/
def Backend.answer {User : Type} (server : Backend User) (head : RequestHead)
    (timestamp statusText : JsString) (statusCode : ℕ) (result : Except Thrown JsonValue) :
    TypedResponse where
  toResponse :=
    match result with
    | .ok value => { status := statusCode, statusText, text := server.engine.stringify value }
    | .error thrown =>
      respond server.engine timestamp statusText head.url
        (AllExceptionsFilter.catch server.httpStatus server.config head thrown)
  contentType := js "application/json; charset=utf-8"

/-- What the filter reads of a request. -/
def Request.head {R : Type*} (request : Request R) (acceptLanguage : Option JsString) :
    RequestHead where
  url := js request.url
  acceptLanguage

/-- What `HttpCacheInterceptor` returns for a request: the entry that it finds, or else the result
of the handler. -/
def Server.response {U R D B X : Type*} (s : Server U R D B X) (request : Request R)
    (result : Except X B) : Except X B :=
  match s.cached request with
  | some entry => .ok entry.value
  | none => result

/-- A request to the route: the guard, the interceptor, which looks into the cache in the state `s`,
and then the handler, which runs in the state `t`. -/
def Backend.serve {User : Type} {R D : Type*} (server : Backend User)
    (api : Api User R D JsonValue Thrown) (s t : Server User R D JsonValue Thrown)
    (request : Request R) (acceptLanguage : Option JsString) (timestamp statusText : JsString)
    (statusCode : ℕ) (authorization : Option JsString) : TypedResponse :=
  server.answer (request.head acceptLanguage) timestamp statusText statusCode
    (SupabaseAuthGuard.canActivate server.supabase authorization >>= fun user =>
      s.response request (api.handle request.route user t.now t.data))

/-! ### Who gets past the guard -/

namespace SupabaseAuthGuard

variable {User : Type} {supabase : Option (JsString → GetUser User)}
  {authorization : Option JsString} {token : JsString} {u : User}

/-- A token is what stands behind `Bearer` and one blank. -/
theorem extractTokenFromHeader_eq_some_iff :
    extractTokenFromHeader authorization = some token ↔
      authorization = some (js "Bearer" ++ 32 :: token) ∧ 32 ∉ token := by
  have hscheme : (32 : UInt16) ∉ js "Bearer" := by decide
  constructor
  · intro h
    unfold extractTokenFromHeader at h
    split at h
    · cases h
    · rename_i header hheader
      split at h
      · rename_i scheme rest hsplit
        split_ifs at h with hs
        obtain rfl := Option.some.inj h
        obtain ⟨hcut, -, hrest⟩ := splitOn_eq_pair_iff.1 hsplit
        rw [← hs, ← hcut]
        exact ⟨(Option.filter_eq_some_iff.1 hheader).1, hrest⟩
      · cases h
  · rintro ⟨rfl, htoken⟩
    have hsplit := splitOn_eq_pair_iff.2 ⟨rfl, hscheme, htoken⟩
    simp only [extractTokenFromHeader, truthy_of_ne_nil (List.append_ne_nil_of_right_ne_nil _
      (List.cons_ne_nil _ _)), hsplit, if_true]

/-- **Who gets past the guard**: a request with a token that belongs to a user, as that user. -/
theorem canActivate_ok_iff :
    canActivate supabase authorization = .ok u ↔
      ∃ getUser token, supabase = some getUser ∧ token ≠ [] ∧ 32 ∉ token ∧
        authorization = some (js "Bearer" ++ 32 :: token) ∧ getUser token = .user u := by
  unfold canActivate
  constructor
  · intro h
    split at h
    · cases h
    · rename_i token htoken
      obtain ⟨hextract, hne⟩ := Option.filter_eq_some_iff.1 htoken
      obtain ⟨hauth, hblank⟩ := extractTokenFromHeader_eq_some_iff.1 hextract
      split at h
      · cases h
      · rename_i getUser
        split at h
        · rename_i v hv
          obtain rfl := Except.ok.inj h
          exact ⟨getUser, token, rfl, of_decide_eq_true hne, hblank, hauth, hv⟩
        · cases h
        · cases h
  · rintro ⟨getUser, token, rfl, hne, hblank, rfl, hu⟩
    simp only [extractTokenFromHeader_eq_some_iff.2 ⟨rfl, hblank⟩, truthy_of_ne_nil hne, hu]

/-- The texts of the guard. -/
def texts : List JsString :=
  [js "Missing authorization token", js "Authentication service not available",
    js "Failed to authenticate"]

/-- **Everyone else is answered with the status 401**, and never with the text that the guard
throws for a token of nobody. -/
theorem canActivate_error {thrown : Thrown}
    (h : canActivate supabase authorization = .error thrown) :
    ∃ text ∈ texts, thrown = unauthorizedException text := by
  unfold canActivate at h
  split at h
  · exact ⟨_, .head _, (Except.error.inj h).symm⟩
  · split at h
    · exact ⟨_, .tail _ (.head _), (Except.error.inj h).symm⟩
    · split at h
      · cases h
      · exact ⟨_, .tail _ (.tail _ (.head _)), (Except.error.inj h).symm⟩
      · exact ⟨_, .tail _ (.tail _ (.head _)), (Except.error.inj h).symm⟩

end SupabaseAuthGuard

/-! ### Tokens in the header -/

/-- A token that a header can carry. -/
structure Transparent (token : JsString) : Prop where
  ne_nil : token ≠ []
  no_blank : 32 ∉ token
  last : isHeaderSpace (token.getLast ne_nil) = false
  allowed : ∀ c ∈ token, isForbidden c = false

theorem headerValue_bearer (token : JsString) :
    headerValue (js "Bearer" ++ 32 :: token) =
      let value := (js "Bearer" ++ 32 :: token).rdropWhile isHeaderSpace
      if value.any isForbidden then none else some value := rfl

/-- **Which tokens the guard finds in the header that is sent.** -/
theorem extractTokenFromHeader_set (token : JsString) :
    (token ≠ [] ∧ SupabaseAuthGuard.extractTokenFromHeader
      (headerValue (js "Bearer" ++ 32 :: token)) = some token) ↔ Transparent token := by
  have hne : js "Bearer" ++ 32 :: token ≠ [] := List.append_ne_nil_of_right_ne_nil _ nofun
  have hlast (h : token ≠ []) :
      (js "Bearer" ++ 32 :: token).getLast hne = token.getLast h := by
    rw [List.getLast_append_of_ne_nil _ (List.cons_ne_nil _ _), List.getLast_cons h]
  rw [headerValue_bearer, SupabaseAuthGuard.extractTokenFromHeader_eq_some_iff]
  constructor
  · rintro ⟨htoken, hvalue, hblank⟩
    dsimp only at hvalue
    split_ifs at hvalue with hany
    have hkept := Option.some.inj hvalue
    rw [hkept, Bool.not_eq_true, List.any_eq_false] at hany
    refine ⟨htoken, hblank, ?_, ?_⟩
    · have hends := List.rdropWhile_eq_self_iff.1 hkept hne
      rw [hlast htoken] at hends
      exact Bool.eq_false_iff.2 hends
    · intro c hc
      exact Bool.eq_false_iff.2 (hany c (List.mem_append_right _ (List.mem_cons_of_mem _ hc)))
  · intro h
    refine ⟨h.ne_nil, ?_, h.no_blank⟩
    have hkept : (js "Bearer" ++ 32 :: token).rdropWhile isHeaderSpace =
        js "Bearer" ++ 32 :: token := by
      rw [List.rdropWhile_eq_self_iff]
      intro hne'
      rw [hlast h.ne_nil, h.last]
      exact Bool.false_ne_true
    have hfront : (js "Bearer" ++ [32]).any isForbidden = false := by decide
    have hany : (js "Bearer" ++ 32 :: token).any isForbidden = false := by
      rw [List.any_eq_false]
      intro c hc
      rw [List.append_cons, List.mem_append] at hc
      rcases hc with hc | hc
      · exact List.any_eq_false.1 hfront c hc
      · exact Bool.eq_false_iff.1 (h.allowed c hc)
    dsimp only
    rw [hkept, hany, if_neg Bool.false_ne_true]

/-! ### A call of a guarded route -/

section Call

variable {User : Type} {b : Browser} {server : Backend User} {head : RequestHead}
  {timestamp statusText : JsString}

/-- What is sent when the guard refuses a request. -/
def Backend.refusal (server : Backend User) (head : RequestHead) (text : JsString) : Caught :=
  AllExceptionsFilter.catch server.httpStatus server.config head (unauthorizedException text)

theorem message_refusal {text : JsString} (htext : text ≠ []) :
    (server.refusal head text).message = .str text := by
  have htruthy : truthyValue (some (JsonValue.str text)) = some (.str text) :=
    if_pos (decide_eq_true htext)
  have hlookup (rest : List (JsString × JsonValue)) :
      List.lookup (js "message") ((js "message", JsonValue.str text) :: rest) =
        some (.str text) := by
    rw [List.lookup_cons, beq_self_eq_true]
  show payloadMessage (.obj _) text = _
  rw [payloadMessage, hlookup, htruthy, Option.getD_some]

/-- The client throws the text of the guard. -/
theorem receive_refusal {text : JsString} (htext : text ≠ []) (statusCode : ℕ)
    (hparse : let body := (server.refusal head text).body timestamp head.url;
      b.parse (server.engine.stringify body) = some body) :
    receive b (server.answer head timestamp statusText statusCode
      (.error (unauthorizedException text))) = .error (.error (js "Error") text) := by
  have htruthy : truthyValue (some (JsonValue.str text)) = some (.str text) :=
    if_pos (decide_eq_true htext)
  have hmessage := (server.refusal head text).get_message timestamp head.url
  rw [message_refusal htext] at hmessage
  have herror : fetchError b (server.answer head timestamp statusText statusCode
      (.error (unauthorizedException text))) = .error (js "Error") text := by
    have hbody : (server.answer head timestamp statusText statusCode
        (.error (unauthorizedException text))).text = server.engine.stringify
          ((server.refusal head text).body timestamp head.url) := rfl
    simp only [fetchError, hbody, show b.parse _ = _ from hparse, hmessage, htruthy,
      JsonValue.toStr]
    rfl
  have hok : (server.answer head timestamp statusText statusCode
      (.error (unauthorizedException text))).ok = false := rfl
  rw [receive, hok, herror]
  rfl

theorem texts_ne_nil : ∀ text ∈ SupabaseAuthGuard.texts, text ≠ [] := by decide

/-- What is returned is what the server delivers: at once, or when the handler of the call that
begins has run. -/
theorem deliveries_response {U R D B X : Type*} {api : Api U R D B X} {s t : Server U R D B X}
    {user : U} {request : Request R}
    (hcall : t.calls s.nextCall = some (.handling user request)) :
    let d : Delivery U R B X := ⟨user, request,
      s.response request (api.handle request.route user t.now t.data)⟩
    match s.cached request with
    | some _ => (s.next api (.request user request)).deliveries = s.deliveries ++ [d]
    | none =>
      (s.next api (.request user request)).calls s.nextCall = some (.handling user request) ∧
        (t.next api (.handle s.nextCall)).deliveries = t.deliveries ++ [d] := by
  unfold Server.response
  cases h : s.cached request with
  | some entry =>
    rw [Server.next, Server.intercept_of_cached h]
    rfl
  | none =>
    constructor
    · rw [Server.next, Server.intercept_of_not_cached h]
      exact Function.update_self _ _ _
    · simp only [Server.next, Server.handle, hcall]
      rfl

/-- **A call of a guarded route** with a token that a header can carry fails with the text of the
guard, unless Supabase returns a user for it.  For a user it receives what the handler returns for
that user, or a live entry under the URL and the query, whatever user that belongs to. -/
theorem apiFetch_guarded {R D : Type*} {api : Api User R D JsonValue Thrown} {data : D}
    {es : List (Event User R D)} {s : Server User R D JsonValue Thrown} {token : JsString}
    (htoken : Transparent token) (hrun : AnyRun (Server.step api) (.started data) es s)
    (t : Server User R D JsonValue Thrown) (request : Request R) (acceptLanguage : Option JsString)
    (statusCode : ℕ)
    (hparse : ∀ text ∈ SupabaseAuthGuard.texts,
      let head := request.head acceptLanguage;
      let body := (server.refusal head text).body timestamp head.url;
      b.parse (server.engine.stringify body) = some body) :
    (apiFetch b (some token) none (fun authorization =>
        .ok (server.serve api s t request acceptLanguage timestamp statusText statusCode
          (some authorization))) =
      match server.supabase with
      | none => .error (.error (js "Error") (js "Authentication service not available"))
      | some getUser =>
        match getUser token with
        | .user u =>
          receive b (server.answer (request.head acceptLanguage) timestamp statusText statusCode
            (match s.cached request with
            | some entry => .ok entry.value
            | none => api.handle request.route u t.now t.data))
        | _ => .error (.error (js "Error") (js "Failed to authenticate"))) ∧
    ∀ entry, s.cached request = some entry →
      ∃ es₁ es₂ w, es = es₁ ++ es₂ ∧ AnyRun (Server.step api) (.started data) es₁ w ∧
        Computes api w (entry.owner, request.generateCacheKey, entry.value) := by
  constructor
  · obtain ⟨hne, hextract⟩ := (extractTokenFromHeader_set token).2 htoken
    have hrefused {text : JsString} (htext : text ∈ SupabaseAuthGuard.texts) :
        receive b (server.answer (request.head acceptLanguage) timestamp statusText statusCode
          (.error (unauthorizedException text))) = .error (.error (js "Error") text) :=
      receive_refusal (texts_ne_nil text htext) statusCode (hparse text htext)
    cases hheader : headerValue (js "Bearer" ++ 32 :: token) with
    | none =>
      rw [hheader] at hextract
      cases hextract
    | some authorization =>
      rw [hheader] at hextract
      simp only [apiFetch, truthy_of_ne_nil hne, hheader]
      show receive b (server.answer (request.head acceptLanguage) timestamp statusText statusCode
        (SupabaseAuthGuard.canActivate server.supabase (some authorization) >>= fun user =>
          s.response request (api.handle request.route user t.now t.data))) = _
      simp only [SupabaseAuthGuard.canActivate, hextract, truthy_of_ne_nil hne]
      cases server.supabase with
      | none => exact hrefused (.tail _ (.head _))
      | some getUser =>
        dsimp only
        cases getUser token with
        | user u =>
          unfold Server.response
          cases s.cached request with
          | none => rfl
          | some entry => rfl
        | failed => exact hrefused (.tail _ (.tail _ (.head _)))
        | thrown => exact hrefused (.tail _ (.tail _ (.head _)))
  · intro entry hentry
    unfold Server.cached at hentry
    split_ifs at hentry with hget
    exact entry_computed hrun hentry

end Call

/-- `HttpStatus`, as far as it is needed. -/
def statusName (status : ℕ) : Option String := if status = 401 then some "UNAUTHORIZED" else none

/-- A server that knows two tokens. -/
def twoUsers (engine : JsEngine) : Backend JsString where
  engine
  httpStatus := statusName
  config := getI18nConfig fun _ => none
  supabase := some fun token =>
    if token = js "a.b.c" then .user (js "u")
    else if token = js "d.e.f" then .user (js "v")
    else .failed

/-- What a user is told. -/
def ownPage (user : JsString) : JsonValue := .obj [(js "userId", .str user)]

/-- Its JSON. -/
def ownPageText (user : JsString) : JsString := js "\x7b\"userId\":\"" ++ (user ++ js "\"\x7d")

/-- An application with one guarded route. -/
def ownPages : Api JsString Unit Unit JsonValue Thrown where
  cacheTtl := 60000
  handle _ user _ _ := .ok (ownPage user)
  isObject _ := true

/-- A `GET` of it. -/
def getOwnPage : Request Unit :=
  { method := "GET", url := "/focus/sessions", query := "\x7b\x7d", route := () }

/-- The object that is sent with a text of the guard. -/
def refusalBody (text : JsString) : JsonValue :=
  (AllExceptionsFilter.catch statusName (getI18nConfig fun _ => none) (getOwnPage.head none)
    (unauthorizedException text)).body (js "2025-11-11T12:00:00.000Z") (getOwnPage.head none).url

/-- Its JSON. -/
def refusalText (text : JsString) : JsString :=
  js "\x7b\"statusCode\":401,\"code\":\"UNAUTHORIZED\",\"message\":\"" ++ (text ++
    js "\",\"timestamp\":\"2025-11-11T12:00:00.000Z\",\"path\":\"/focus/sessions\"\x7d")

/-- An engine that writes and reads the page of a user and the texts of the guard. -/
def refusalBrowser : Browser where
  toJsEngine := .exact
    (fun s =>
      if s = ownPageText (js "u") then some (ownPage (js "u"))
      else (SupabaseAuthGuard.texts.find? fun text => refusalText text = s).map refusalBody)
    fun value =>
      match value.property (js "userId"), value.property (js "message") with
      | some (.str user), _ => ownPageText user
      | _, some (.str text) => refusalText text
      | _, _ => js "null"
  syntaxMessage _ := js "Unexpected token"
  typeMessage _ := js "Cannot convert object to primitive value"
  usedMessage := js "body stream already read"
  headerMessage _ := js "Invalid value"

theorem refusalText_injective : Function.Injective refusalText := fun _ _ h =>
  List.append_cancel_right (List.append_cancel_left h)

theorem refusalText_ne_ownPageText (text user : JsString) :
    refusalText text ≠ ownPageText user := by
  intro h
  -- the names of the first fields begin with different letters
  have hfirst : (refusalText text)[2]? = some 115 := rfl
  have hfirst' : (ownPageText user)[2]? = some 117 := rfl
  rw [h, hfirst'] at hfirst
  cases hfirst

theorem parse_refusalText {text : JsString} (htext : text ∈ SupabaseAuthGuard.texts) :
    refusalBrowser.parse (refusalText text) = some (refusalBody text) := by
  have hfind : (SupabaseAuthGuard.texts.find? fun t => refusalText t = refusalText text) =
      some text := by
    cases h : SupabaseAuthGuard.texts.find? fun t => refusalText t = refusalText text with
    | none =>
      have hself := List.find?_eq_none.1 h text htext
      rw [decide_eq_true rfl] at hself
      exact absurd rfl hself
    | some t =>
      have ht := List.find?_some h
      rw [refusalText_injective (of_decide_eq_true ht)]
  show (if refusalText text = ownPageText (js "u") then some (ownPage (js "u"))
    else Option.map refusalBody _) = _
  rw [if_neg (refusalText_ne_ownPageText _ _), hfind, Option.map_some]

theorem stringify_refusalBody {text : JsString} (htext : text ≠ []) :
    refusalBrowser.stringify (refusalBody text) = refusalText text := by
  have hmessage := ((twoUsers refusalBrowser.toJsEngine).refusal
    (getOwnPage.head none) text).get_message (js "2025-11-11T12:00:00.000Z")
    (getOwnPage.head none).url
  rw [message_refusal htext] at hmessage
  have hproperty : (refusalBody text).property (js "message") = some (.str text) :=
    Except.ok.inj hmessage
  have huser : (refusalBody text).property (js "userId") = none := rfl
  show (match (refusalBody text).property (js "userId"),
      (refusalBody text).property (js "message") with
    | some (.str user), _ => ownPageText user
    | _, some (.str text) => refusalText text
    | _, _ => js "null") = _
  rw [hproperty, huser]

/-- The second user asks while the entry of the first one is alive, and gets the page of the first
one. -/
theorem apiFetch_guarded_shared : ∃ s,
    AnyRun (Server.step ownPages) (.started ())
        [.request (js "u") getOwnPage, .handle 0, .store 0] s ∧
      apiFetch refusalBrowser (some (js "d.e.f")) none (fun authorization =>
          .ok ((twoUsers refusalBrowser.toJsEngine).serve ownPages s s getOwnPage none
            (js "2025-11-11T12:00:00.000Z") (js "OK") 200 (some authorization))) =
        .ok (.json (ownPage (js "u"))) := by
  have hrun : AnyRun (Server.step ownPages) (.started ())
      [.request (js "u") getOwnPage, .handle 0, .store 0] _ := .of_foldlM rfl
  have hallowed : (js "d.e.f").any isForbidden = false := by decide
  have htoken : Transparent (js "d.e.f") :=
    ⟨List.cons_ne_nil _ _, by decide, by decide, fun c hc =>
      Bool.eq_false_iff.2 (List.any_eq_false.1 hallowed c hc)⟩
  refine ⟨_, hrun, (apiFetch_guarded htoken hrun _ getOwnPage none 200 fun text htext => ?_).1.trans
    ?_⟩
  · show refusalBrowser.parse (refusalBrowser.stringify (refusalBody text)) =
      some (refusalBody text)
    rw [stringify_refusalBody (texts_ne_nil text htext), parse_refusalText htext]
  · rfl

end Http

end StudyOasis
