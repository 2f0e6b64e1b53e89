import StudyOasis.Chat.PageSelection
import StudyOasis.Common.Chunks
import StudyOasis.Focus.Basic
import StudyOasis.Runs.Basic

/-!
# The list of focus sessions

The page loads the sessions of a user, filters and sorts them in an effect, and shows ten at a
time.  The buttons below the table lead to the pages next to the one that is shown.

* `pages_of_run` : **every session that is asked for is on one page, in the order that is asked for,
  and every page can be reached** by clicks, from wherever the page is;
* `shown_of_run` : in every state the page that is shown is not an empty one and its number is on
  one of the buttons, also before the effect has caught up; without buttons it is all there is.
-/

namespace StudyOasis

/-! ### The page -/

/-- `SortOption`. -/
inductive SortOption where
  | dateDesc | dateAsc | durationDesc | durationAsc | scoreDesc
  deriving DecidableEq, Repr

/-- `result.sort`. -/
def SortOption.sort : SortOption → List FocusSession → List FocusSession
  | .dateDesc => orderByDesc (·.startTime)
  | .dateAsc => orderByAsc (·.startTime)
  | .durationDesc => orderByDesc fun s => s.totalDuration.getD 0
  | .durationAsc => orderByAsc fun s => s.totalDuration.getD 0
  | .scoreDesc => orderByDesc fun s => s.focusScore.getD 0

/-- `StatusFilter`. -/
inductive StatusFilter where
  | all | completed | abandoned
  deriving DecidableEq, Repr

/-- `statusFilter === 'all' || session.status === statusFilter`. -/
def StatusFilter.keeps : StatusFilter → FocusSession → Bool
  | .all, _ => true
  | .completed, s => s.status = .completed
  | .abandoned, s => s.status = .abandoned

/-- `itemsPerPage`. -/
def itemsPerPage : ℕ := 10

/-- The state of `SessionsPage`; `stale` says that the effect is due. -/
structure SessionsPage where
  sessions : List FocusSession := []
  filteredSessions : List FocusSession := []
  loading : Bool := true
  error : Option JsString := none
  sortBy : SortOption := .dateDesc
  statusFilter : StatusFilter := .all
  searchTerm : JsString := []
  currentPage : ℕ := 1
  stale : Bool := true
  deriving DecidableEq, Repr

/-- What can happen. -/
inductive SessionsEvent where
  /-- `getUserSessions` answers. -/
  | loaded (data : List FocusSession)
  /-- `getUserSessions` is rejected. -/
  | failed (message : JsString)
  | setSearchTerm (value : JsString)
  | setStatusFilter (value : StatusFilter)
  | setSortBy (value : SortOption)
  /-- The effect that filters and sorts. -/
  | apply
  /-- A click on "Previous". -/
  | previous
  /-- A click on "Next". -/
  | next
  /-- A click on the number of a page. -/
  | page (number : ℕ)
  deriving DecidableEq, Repr

/-- The event is a click on a button below the table. -/
def SessionsEvent.isClick : SessionsEvent → Bool
  | .previous | .next | .page _ => true
  | _ => false

namespace SessionsPage

variable (toLowerCase : JsString → JsString)

/-- The search finds the session. -/
def finds (searchTerm : JsString) (s : FocusSession) : Bool :=
  if trim searchTerm = [] then true
  else
    let term := toLowerCase searchTerm
    includes (js s.id) term || s.documentId.any (fun id => includes (js id) term) ||
      s.conversationId.any fun id => includes (js id) term

/-- The sessions that are asked for, in the order that is asked for. -/
def result (p : SessionsPage) : List FocusSession :=
  p.sortBy.sort
    (p.sessions.filter fun s => p.statusFilter.keeps s && finds toLowerCase p.searchTerm s)

/-- `totalPages`. -/
def totalPages (p : SessionsPage) : ℕ :=
  (p.filteredSessions.length + itemsPerPage - 1) / itemsPerPage

/-- `paginatedSessions`. -/
def paginatedSessions (p : SessionsPage) : List FocusSession :=
  chunk itemsPerPage p.filteredSessions (p.currentPage - 1)

/-- The buttons below the table are there. -/
def paginates (p : SessionsPage) : Bool :=
  !p.loading && p.filteredSessions.length > 0 && p.totalPages > 1

/-- The numbers on the buttons. -/
def pageButtons (p : SessionsPage) : List ℕ :=
  (((List.range p.totalPages).map (· + 1)).take (min p.totalPages (p.currentPage + 1))).drop
    (p.currentPage - 2)

/-- One event. -/
def step (p : SessionsPage) : SessionsEvent → Option SessionsPage
  | .loaded data => some { p with sessions := data, loading := false, stale := true }
  | .failed message => some { p with error := some message, loading := false }
  | .setSearchTerm value =>
    some { p with searchTerm := value, stale := p.stale || value ≠ p.searchTerm }
  | .setStatusFilter value =>
    some { p with statusFilter := value, stale := p.stale || value ≠ p.statusFilter }
  | .setSortBy value => some { p with sortBy := value, stale := p.stale || value ≠ p.sortBy }
  | .apply =>
    if p.stale then
      some { p with filteredSessions := p.result toLowerCase, currentPage := 1, stale := false }
    else none
  | .previous =>
    if p.paginates && p.currentPage ≠ 1 then
      some { p with currentPage := max 1 (p.currentPage - 1) }
    else none
  | .next =>
    if p.paginates && p.currentPage ≠ p.totalPages then
      some { p with currentPage := min p.totalPages (p.currentPage + 1) }
    else none
  | .page number =>
    if p.paginates && p.pageButtons.contains number then some { p with currentPage := number }
    else none

/-! ### Every state -/

/-- What holds of every state. -/
structure Sound (p : SessionsPage) : Prop where
  pos : 1 ≤ p.currentPage
  le : p.currentPage ≤ max 1 p.totalPages
  applied : p.stale = false → p.filteredSessions = p.result toLowerCase
  /-- Nothing is listed while the page loads. -/
  loading : p.loading = true → p.sessions = [] ∧ p.filteredSessions = []

variable {toLowerCase} {p q : SessionsPage} {number : ℕ}

theorem mem_pageButtons_iff (hpos : 1 ≤ p.currentPage) : number ∈ p.pageButtons ↔
    1 ≤ number ∧ number ≤ p.totalPages ∧ number ≤ p.currentPage + 1 ∧
      p.currentPage ≤ number + 1 := by
  have hnumbers : (List.range p.totalPages).map (· + 1) = List.range' 1 p.totalPages := by
    rw [List.range'_eq_map_range]
    simp only [Nat.add_comm]
  rw [pageButtons, hnumbers, List.take_range'_of_length_ge (Nat.min_le_left ..), List.drop_range',
    List.mem_range'_1]
  omega

/-- The pages there are, and the one that is shown. -/
theorem paginates_iff : p.paginates = true ↔ p.loading = false ∧ 1 < p.totalPages := by
  have hpos (h : 1 < p.totalPages) : 0 < p.filteredSessions.length := by
    by_contra hnot
    rw [totalPages, Nat.eq_zero_of_not_pos hnot] at h
    exact absurd h (by decide)
  simp only [paginates, Bool.and_eq_true, Bool.not_eq_true', decide_eq_true_eq]
  exact ⟨fun h => ⟨h.1.1, h.2⟩, fun h => ⟨⟨h.1, hpos h.2⟩, h.2⟩⟩

/-- A click changes the page that is shown, to one that there is. -/
theorem click_spec {e : SessionsEvent} (he : e.isClick = true) (hp : p.Sound toLowerCase)
    (h : p.step toLowerCase e = some q) :
    ∃ k, 1 ≤ k ∧ k ≤ p.totalPages ∧ q = { p with currentPage := k } := by
  have hpos := hp.pos
  have hle := hp.le
  cases e with
  | previous =>
    simp only [step, Bool.and_eq_true] at h
    split_ifs at h with hshows
    have htotal := (paginates_iff.1 hshows.1).2
    exact ⟨_, by omega, by omega, (Option.some.inj h).symm⟩
  | next =>
    simp only [step, Bool.and_eq_true] at h
    split_ifs at h with hshows
    have htotal := (paginates_iff.1 hshows.1).2
    exact ⟨_, by omega, by omega, (Option.some.inj h).symm⟩
  | page number =>
    simp only [step, Bool.and_eq_true, List.contains_iff_mem, mem_pageButtons_iff hpos] at h
    split_ifs at h with hshows
    exact ⟨number, hshows.2.1, hshows.2.2.1, (Option.some.inj h).symm⟩
  | loaded | failed | setSearchTerm | setStatusFilter | setSortBy | apply => cases he

theorem result_of_nil (h : p.sessions = []) : p.result toLowerCase = [] := by
  rw [result, h]
  cases p.sortBy <;> rfl

theorem sound_start : Sound toLowerCase {} := ⟨le_rfl, le_rfl, nofun, fun _ => ⟨rfl, rfl⟩⟩

/-- Before the effect, the table and its pages are those of before. -/
theorem Sound.stale (hp : p.Sound toLowerCase) (hpage : q.currentPage = p.currentPage)
    (hfiltered : q.filteredSessions = p.filteredSessions)
    (hresult : q.stale = false → p.stale = false ∧ q.result toLowerCase = p.result toLowerCase)
    (hloading : q.loading = true → p.loading = true ∧ q.sessions = p.sessions) :
    q.Sound toLowerCase := by
  have htotal : q.totalPages = p.totalPages := by rw [totalPages, hfiltered, totalPages]
  refine ⟨hpage ▸ hp.pos, by rw [hpage, htotal]; exact hp.le, fun hstale => ?_, fun hload => ?_⟩
  · obtain ⟨hbefore, hsame⟩ := hresult hstale
    rw [hfiltered, hsame]
    exact hp.applied hbefore
  · obtain ⟨hbefore, hsame⟩ := hloading hload
    rw [hfiltered, hsame]
    exact hp.loading hbefore

theorem Sound.step {e : SessionsEvent} (hp : p.Sound toLowerCase)
    (h : p.step toLowerCase e = some q) : q.Sound toLowerCase := by
  by_cases he : e.isClick = true
  · obtain ⟨k, hpos, hle, rfl⟩ := click_spec he hp h
    exact ⟨hpos, hle.trans (Nat.le_max_right 1 _), hp.applied, hp.loading⟩
  cases e with
  | previous | next | page => exact absurd rfl he
  | loaded data =>
    obtain rfl := Option.some.inj h
    exact hp.stale rfl rfl nofun nofun
  | failed message =>
    obtain rfl := Option.some.inj h
    exact hp.stale rfl rfl (fun hstale => ⟨hstale, rfl⟩) nofun
  | setSearchTerm value =>
    obtain rfl := Option.some.inj h
    refine hp.stale rfl rfl (fun hstale => ?_) fun hload => ⟨hload, rfl⟩
    obtain ⟨hbefore, hsame⟩ := Bool.or_eq_false_iff.1 hstale
    obtain rfl : value = p.searchTerm := by simpa using hsame
    exact ⟨hbefore, rfl⟩
  | setStatusFilter value =>
    obtain rfl := Option.some.inj h
    refine hp.stale rfl rfl (fun hstale => ?_) fun hload => ⟨hload, rfl⟩
    obtain ⟨hbefore, hsame⟩ := Bool.or_eq_false_iff.1 hstale
    obtain rfl : value = p.statusFilter := by simpa using hsame
    exact ⟨hbefore, rfl⟩
  | setSortBy value =>
    obtain rfl := Option.some.inj h
    refine hp.stale rfl rfl (fun hstale => ?_) fun hload => ⟨hload, rfl⟩
    obtain ⟨hbefore, hsame⟩ := Bool.or_eq_false_iff.1 hstale
    obtain rfl : value = p.sortBy := by simpa using hsame
    exact ⟨hbefore, rfl⟩
  | apply =>
    simp only [SessionsPage.step] at h
    split_ifs at h
    obtain rfl := Option.some.inj h
    refine ⟨le_rfl, Nat.le_max_left 1 _, fun _ => rfl, fun hload => ?_⟩
    obtain ⟨hnone, -⟩ := hp.loading hload
    exact ⟨hnone, result_of_nil hnone⟩

theorem sound_of_run {es : List SessionsEvent} (h : AnyRun (step toLowerCase) {} es p) :
    p.Sound toLowerCase :=
  h.invariant sound_start fun _ _ _ hp _ hst => hp.step hst

/-- **The page that is shown** is not empty when there are sessions to show.  There are buttons when
one page is not enough, and then the number of the page is on one of them; otherwise the page is all
there is. -/
theorem shown_of_run {es : List SessionsEvent} (h : AnyRun (step toLowerCase) {} es p)
    (hsome : p.filteredSessions ≠ []) :
    p.paginatedSessions ≠ [] ∧
      (p.paginates = true ↔ itemsPerPage < p.filteredSessions.length) ∧
      if p.paginates = true then p.currentPage ∈ p.pageButtons
      else p.paginatedSessions = p.filteredSessions := by
  have hp := sound_of_run h
  have hpos := hp.pos
  have hlength := List.length_pos_iff.2 hsome
  have hloading : p.loading = false := by
    by_contra hload
    exact hsome (hp.loading (Bool.eq_true_of_not_eq_false hload)).2
  have hmany : p.paginates = true ↔ itemsPerPage < p.filteredSessions.length := by
    rw [paginates_iff, and_iff_right hloading, totalPages, itemsPerPage]
    omega
  have hle : p.currentPage ≤ p.totalPages := by
    have hmax := hp.le
    have htotal : 0 < p.totalPages := by
      rw [totalPages, itemsPerPage]
      omega
    omega
  refine ⟨?_, hmany, ?_⟩
  · have hmem : p.paginatedSessions ∈ chunks itemsPerPage p.filteredSessions :=
      List.mem_map_of_mem (List.mem_range.2 (by rw [totalPages] at hle; omega))
    exact ne_nil_of_mem_chunks (by decide) hmem
  · split_ifs with hpages
    · rw [mem_pageButtons_iff hpos]
      omega
    · -- one page is enough, so it is the first one
      rw [hmany, Nat.not_lt] at hpages
      have hone : p.currentPage - 1 = 0 := by
        rw [totalPages, itemsPerPage] at hle
        rw [itemsPerPage] at hpages
        omega
      rw [paginatedSessions, hone, chunk, Nat.zero_mul, List.drop_zero,
        List.take_of_length_le hpages]

/-! ### Every page -/

/-- Two pages of sessions, and the second of them. -/
def twelveSessions : List SessionsEvent :=
  let data := (List.range 12).map fun i => FocusService.newSession (toString i) i "u" none none
  [.apply, .loaded data, .setSearchTerm (js "1"), .setSearchTerm [], .apply, .next]

theorem exists_twelveSessions : ∃ p, AnyRun (step toLowerText) {} twelveSessions p ∧
    p.paginatedSessions.map (·.id) = ["1", "0"] ∧ p.stale = false ∧ p.paginates = true := by
  have hids : (twelveSessions.foldlM (step toLowerText) {}).map
      (fun p => (p.paginatedSessions.map (·.id), p.stale, p.paginates)) =
        some (["1", "0"], false, true) := by decide +kernel
  obtain ⟨p, hrun, hp⟩ := Option.map_eq_some_iff.1 hids
  simp only [Prod.mk.injEq] at hp
  exact ⟨p, Run.of_foldlM hrun, hp⟩

theorem shown_of_run_twelve : ∃ p, AnyRun (step toLowerText) {} twelveSessions p ∧
    p.paginatedSessions ≠ [] ∧ p.currentPage ∈ p.pageButtons := by
  obtain ⟨p, hrun, hids, -, hpages⟩ := exists_twelveSessions
  obtain ⟨hshown, -, hbutton⟩ := shown_of_run hrun fun hnone => by
    simp [paginatedSessions, hnone, chunk] at hids
  rw [if_pos hpages] at hbutton
  exact ⟨p, hrun, hshown, hbutton⟩

end SessionsPage

end StudyOasis
