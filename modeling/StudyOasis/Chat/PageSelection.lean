import Mathlib.Data.List.Infix
import StudyOasis.Common.OrderBy
import StudyOasis.Ocr.Vision
import StudyOasis.Upload.Filename

/-!
# The pages that reach the prompt

`DocumentContextHelper.selectRelevantPages` chooses the pages of a document that go into the
prompt: those around the pages the message names, the first ones when it asks for the whole
document, those that score best for its keywords, or the first ones again.

* `selectRelevantPages_spec` : what is chosen are different pages of the document, at least one
  and not too many, and by keywords the best ones;
* `mentions_selected_iff` : **when every page named in the message is chosen**.  The pages named
  and their neighbours are cut off behind the sixth, in the order of the document, and the last
  page named may be behind it.
-/

namespace StudyOasis

/-! ### Texts -/

/-- `includes`. -/
def includes (s t : JsString) : Bool := t <:+: s

/-- `toLowerCase()` of a text: the capital dotted I becomes two code units, the first of them the
small i. -/
def toLowerText (s : JsString) : JsString :=
  s.flatMap fun c => if c = 0x130 then [105, 0x307] else [toLowerUnit c]

/-- `\d`. -/
def isDigit (c : UInt16) : Bool := 48 ≤ c && c ≤ 57

/-- `\w`. -/
def isWord (c : UInt16) : Bool := isAlnum c || c = underscore

/-- `[\u4e00-\u9fa5]`. -/
def isHan (c : UInt16) : Bool := 0x4E00 ≤ c && c ≤ 0x9FA5

/-- `Number` of digits. -/
def digitsValue (digits : JsString) : ℕ := digits.foldl (fun n c => 10 * n + (c.toNat - 48)) 0

/-! ### Regular expressions with a group of digits -/

/-- A regular expression at one place of a text: from the code unit in front of the place and the
text behind it, the digits of its group and what is left behind the match. -/
abbrev DigitRegex := Option UInt16 → JsString → Option (JsString × JsString)

/-- The letters of a literal, in either case. -/
def matchLiteral (literal s : JsString) : Option JsString :=
  if toLowerCase (s.take literal.length) = literal then some (s.drop literal.length) else none

/-- `\s*(\d+)`.  No space is a digit and what follows in the expressions is none, so nothing is
ever given back. -/
def matchDigits (s : JsString) : Option (JsString × JsString) :=
  let s := s.dropWhile isSpace
  if s.takeWhile isDigit = [] then none else some (s.takeWhile isDigit, s.dropWhile isDigit)

/-- `\b` between two places. -/
def wordBoundary (before after : Option UInt16) : Bool := before.any isWord != after.any isWord

/-- `/第\s*(\d+)\s*页/gi`. -/
def numberedPageRegex : DigitRegex := fun _ s => do
  let m ← matchDigits (← matchLiteral (js "第") s)
  let rest ← matchLiteral (js "页") (m.2.dropWhile isSpace)
  pure (m.1, rest)

/-- `/page\s*(\d+)/gi`. -/
def pageRegex : DigitRegex := fun _ s => do matchDigits (← matchLiteral (js "page") s)

/-- `/\bp\s*(\d+)\b/gi`. -/
def pRegex : DigitRegex := fun before s => do
  let m ← matchDigits (← matchLiteral (js "p") s)
  if wordBoundary before s.head? && wordBoundary m.1.getLast? m.2.head? then some m else none

/-- `/页\s*(\d+)/gi`. -/
def pageOfRegex : DigitRegex := fun _ s => do matchDigits (← matchLiteral (js "页") s)

/-- `while ((match = regex.exec(message)))` : the groups of all matches, where `skip` code units
still belong to the last one. -/
def execAll (regex : DigitRegex) : Option UInt16 → ℕ → JsString → List JsString
  | _, _, [] => []
  | _, skip + 1, c :: s => execAll regex (some c) skip s
  | before, 0, c :: s =>
    match regex before (c :: s) with
    | some m => m.1 :: execAll regex (some c) (s.length - m.2.length) s
    | none => execAll regex (some c) 0 s

/-! ### The helper -/

/-- `PageSnippet`. -/
abbrev PageSnippet := PageContent

namespace DocumentContextHelper

/-- `MAX_PAGE_SNIPPETS`. -/
def MAX_PAGE_SNIPPETS : ℕ := 6

/-- `MAX_FULLDOC_SNIPPETS`. -/
def MAX_FULLDOC_SNIPPETS : ℕ := 12

/-- `FULL_DOC_KEYWORDS`. -/
def FULL_DOC_KEYWORDS : List JsString :=
  ["全文", "全篇", "全部", "整篇", "entire document", "whole document", "full document",
    "all pages", "translate all", "translate the whole", "translate entire"].map js

/-- `DocumentContextHelper.scorePage`. -/
def scorePage (content : JsString) (keywords : List JsString) : ℕ :=
  keywords.foldl
    (fun score keyword =>
      if includes (toLowerText content) (toLowerText keyword) then score + 1 else score) 0

/-- `.replace(/[^a-z0-9\s]/g, ' ')`. -/
def spaceOut (s : JsString) : JsString :=
  s.map fun c => if (97 ≤ c && c ≤ 122) || isDigit c || isSpace c then c else 32

/-- `DocumentContextHelper.extractKeywords`.  Empty parts of a split are too short to be kept. -/
def extractKeywords (message : JsString) : List JsString :=
  if message = [] then []
  else
    let normalized := trim message
    let englishParts := ((spaceOut (toLowerText normalized)).splitOnP isSpace).filter (2 < ·.length)
    let chineseParts := (normalized.splitOnP (!isHan ·)).filter (2 ≤ ·.length)
    (englishParts ++ chineseParts).eraseDups

/-- The expressions of `extractPageNumbers`. -/
def pageRegexes : List DigitRegex := [numberedPageRegex, pageRegex, pRegex, pageOfRegex]

/-- `DocumentContextHelper.extractPageNumbers`. -/
def extractPageNumbers (message : JsString) (maxPage : ℕ) : List ℕ :=
  if message = [] then []
  else
    let values := pageRegexes.flatMap fun regex => (execAll regex none 0 message).map digitsValue
    orderByAsc id (values.filter fun value => 1 ≤ value ∧ value ≤ maxPage).eraseDups

/-- `DocumentContextHelper.shouldUseFullDocument`. -/
def shouldUseFullDocument (message : JsString) : Bool :=
  message ≠ [] && FULL_DOC_KEYWORDS.any fun keyword => includes (toLowerText message) keyword

/-- The set `expanded` of `selectRelevantPages`. -/
def expand (pageMentions : List ℕ) (totalPages : ℕ) : List ℕ :=
  pageMentions.flatMap fun pageNumber =>
    pageNumber :: (if 1 < pageNumber then [pageNumber - 1] else []) ++
      (if pageNumber < totalPages then [pageNumber + 1] else [])

/-- The pages with their scores, the best ones first. -/
def scoredPages (pages : List PageSnippet) (keywords : List JsString) : List (PageSnippet × ℕ) :=
  orderByDesc Prod.snd (pages.map fun page => (page, scorePage page.content keywords))

/-- `DocumentContextHelper.selectRelevantPages`. -/
def selectRelevantPages (pages : List PageSnippet) (message : JsString) : List PageSnippet :=
  let pageMentions := extractPageNumbers message pages.length
  if pageMentions ≠ [] then
    let expanded := expand pageMentions pages.length
    (pages.filter fun page => expanded.contains page.pageNumber).take MAX_PAGE_SNIPPETS
  else if shouldUseFullDocument message then pages.take MAX_FULLDOC_SNIPPETS
  else
    let keywords := extractKeywords message
    if keywords = [] then pages.take MAX_PAGE_SNIPPETS
    else
      let meaningful := (scoredPages pages keywords).filter fun entry => 0 < entry.2
      if meaningful = [] then pages.take MAX_PAGE_SNIPPETS
      else (meaningful.take MAX_PAGE_SNIPPETS).map Prod.fst

end DocumentContextHelper

/-! ### Numbered pages -/

/-- The pages of a document, numbered from 1 on. -/
structure NumberedPages where
  pages : List PageSnippet
  numbered : pages.map (·.pageNumber) = List.range' 1 pages.length

namespace NumberedPages

variable (doc : NumberedPages)

theorem pairwise_lt : doc.pages.Pairwise fun a b => a.pageNumber < b.pageNumber := by
  have h := List.pairwise_lt_range' (s := 1) (n := doc.pages.length)
  rwa [← doc.numbered, List.pairwise_map] at h

theorem nodup_pageNumbers : (doc.pages.map (·.pageNumber)).Nodup := by
  rw [doc.numbered]
  exact List.nodup_range'

variable {doc}

theorem mem_pageNumbers {n : ℕ} :
    n ∈ doc.pages.map (·.pageNumber) ↔ 1 ≤ n ∧ n ≤ doc.pages.length := by
  rw [doc.numbered, List.mem_range'_1]
  omega

theorem eq_of_pageNumber {a b : PageSnippet} (ha : a ∈ doc.pages) (hb : b ∈ doc.pages)
    (h : a.pageNumber = b.pageNumber) : a = b :=
  List.inj_on_of_nodup_map doc.nodup_pageNumbers ha hb h

end NumberedPages

namespace DocumentContextHelper

variable {doc : NumberedPages} {message : JsString}

/-! ### The pages named -/

theorem mem_extractPageNumbers {maxPage n : ℕ} (h : n ∈ extractPageNumbers message maxPage) :
    1 ≤ n ∧ n ≤ maxPage := by
  unfold extractPageNumbers at h
  split_ifs at h
  · cases h
  · have hmem := List.mem_eraseDups.1 (orderByAsc_perm.mem_iff.1 h)
    simpa using (List.mem_filter.1 hmem).2

/-- A page is in the expanded set when it or a page next to it is named. -/
theorem mem_expand {mentions : List ℕ} {n p : ℕ} (hp : 1 ≤ p) (hn : p ≤ n) :
    p ∈ expand mentions n ↔ mentions.any (fun q => p ≤ q + 1 && q ≤ p + 1) = true := by
  simp only [expand, List.mem_flatMap, List.any_eq_true, List.mem_append, List.mem_cons,
    Bool.and_eq_true, decide_eq_true_eq]
  refine exists_congr fun q => and_congr_right fun _ => ?_
  split_ifs <;> simp only [List.mem_singleton, List.not_mem_nil, or_false] <;> omega

/-- How many pages up to page `m` are named or next to a page that is. -/
def pagesUpTo (mentions : List ℕ) (m : ℕ) : ℕ :=
  (List.range' 1 m).countP fun p => mentions.any fun q => p ≤ q + 1 && q ≤ p + 1

/-- The pages that the expanded set lets through. -/
def mentionedPages (pages : List PageSnippet) (mentions : List ℕ) : List PageSnippet :=
  pages.filter fun page => (expand mentions pages.length).contains page.pageNumber

/-- A page that is named is in its own neighbourhood. -/
theorem mem_mentionedPages {mentions : List ℕ} {page : PageSnippet} (hpage : page ∈ doc.pages)
    (hm : page.pageNumber ∈ mentions) : page ∈ mentionedPages doc.pages mentions := by
  obtain ⟨h1, hn⟩ := NumberedPages.mem_pageNumbers.1 (List.mem_map_of_mem hpage)
  rw [mentionedPages, List.mem_filter, List.contains_iff_mem, mem_expand h1 hn, List.any_eq_true]
  exact ⟨hpage, page.pageNumber, hm, by simp⟩

theorem selectRelevantPages_of_mentions {pages : List PageSnippet}
    (h : extractPageNumbers message pages.length ≠ []) :
    selectRelevantPages pages message =
      (mentionedPages pages (extractPageNumbers message pages.length)).take MAX_PAGE_SNIPPETS :=
  if_pos h

/-- The pages in front of page `m` that the expanded set lets through. -/
theorem countP_mentionedPages {mentions : List ℕ} {m : ℕ} (hm : m ∈ mentions) (h1 : 1 ≤ m)
    (hn : m ≤ doc.pages.length) :
    (mentionedPages doc.pages mentions).countP (fun page => page.pageNumber < m) + 1 =
      pagesUpTo mentions m := by
  obtain ⟨k, rfl⟩ : ∃ k, m = k + 1 := ⟨m - 1, by omega⟩
  obtain ⟨d, hd⟩ : ∃ d, doc.pages.length = k + d := ⟨doc.pages.length - k, by omega⟩
  have hmap : (mentionedPages doc.pages mentions).countP (fun page => page.pageNumber < k + 1) =
      (List.range' 1 doc.pages.length).countP fun p =>
        p < k + 1 && (expand mentions doc.pages.length).contains p := by
    rw [mentionedPages, ← doc.numbered, List.countP_map, List.countP_filter]
    rfl
  rw [hmap, pagesUpTo, List.range'_concat, List.countP_append, List.countP_singleton]
  -- page `m` is named itself, the pages behind it do not count
  have hself : (mentions.any fun q => 1 + 1 * k ≤ q + 1 && q ≤ 1 + 1 * k + 1) = true := by
    rw [List.any_eq_true]
    exact ⟨k + 1, hm, by simp; omega⟩
  rw [if_pos hself, hd, ← List.range'_append_1, List.countP_append, ← hd]
  have hbehind : (List.range' (1 + k) d).countP (fun p =>
      p < k + 1 && (expand mentions doc.pages.length).contains p) = 0 := by
    rw [List.countP_eq_zero]
    intro p hp
    rw [List.mem_range'_1] at hp
    simp
    omega
  rw [hbehind, Nat.add_zero]
  congr 1
  refine List.countP_congr fun p hp => ?_
  rw [List.mem_range'_1] at hp
  rw [Bool.and_eq_true, decide_eq_true_eq, List.contains_iff_mem,
    mem_expand (by omega) (by omega)]
  exact and_iff_right (by omega)

/-- A page that is named is chosen unless too many pages come first. -/
theorem mem_selectRelevantPages_iff {page : PageSnippet} (hpage : page ∈ doc.pages)
    (hm : page.pageNumber ∈ extractPageNumbers message doc.pages.length) :
    page ∈ selectRelevantPages doc.pages message ↔
      pagesUpTo (extractPageNumbers message doc.pages.length) page.pageNumber ≤
        MAX_PAGE_SNIPPETS := by
  obtain ⟨h1, hn⟩ := mem_extractPageNumbers hm
  rw [selectRelevantPages_of_mentions (List.ne_nil_of_mem hm)]
  have hsorted : doc.pages.Pairwise fun a b =>
      OrderDual.toDual b.pageNumber ≤ OrderDual.toDual a.pageNumber :=
    doc.pairwise_lt.imp fun hlt => hlt.le
  have hmentioned : (mentionedPages doc.pages
      (extractPageNumbers message doc.pages.length)).Pairwise _ := hsorted.filter _
  have hiff := mem_map_take_iff hmentioned MAX_PAGE_SNIPPETS (OrderDual.toDual page.pageNumber)
  simp only [OrderDual.toDual_lt_toDual] at hiff
  rw [← countP_mentionedPages hm h1 hn, Nat.succ_le_iff]
  constructor
  · intro h
    exact (hiff.1 (List.mem_map_of_mem h)).2
  · intro h
    obtain ⟨page', hpage', heq⟩ :=
      List.mem_map.1 (hiff.2 ⟨List.mem_map_of_mem (mem_mentionedPages hpage hm), h⟩)
    have hmem' := (List.mem_filter.1 (List.mem_of_mem_take hpage')).1
    rwa [← NumberedPages.eq_of_pageNumber hmem' hpage (OrderDual.toDual_inj.1 heq)]

/-- **When every page the message names is chosen**: up to each of them, no more than six pages
are named or next to a page that is. -/
theorem mentions_selected_iff (doc : NumberedPages) (message : JsString) :
    (∀ page ∈ doc.pages, page.pageNumber ∈ extractPageNumbers message doc.pages.length →
      page ∈ selectRelevantPages doc.pages message) ↔
    ∀ m ∈ extractPageNumbers message doc.pages.length,
      pagesUpTo (extractPageNumbers message doc.pages.length) m ≤ MAX_PAGE_SNIPPETS := by
  constructor
  · intro h m hm
    obtain ⟨page, hpage, rfl⟩ :=
      List.mem_map.1 (NumberedPages.mem_pageNumbers.2 (mem_extractPageNumbers hm))
    exact (mem_selectRelevantPages_iff hpage hm).1 (h page hpage hm)
  · intro h page hpage hm
    exact (mem_selectRelevantPages_iff hpage hm).2 (h _ hm)

/-- Three pages named far apart: the last of them is cut off. -/
theorem mentioned_page_left_out : ∃ (doc : NumberedPages) (message : JsString),
    (extractPageNumbers message doc.pages.length).length ≤ MAX_PAGE_SNIPPETS ∧
      ∃ page ∈ doc.pages, page.pageNumber ∈ extractPageNumbers message doc.pages.length ∧
        page ∉ selectRelevantPages doc.pages message := by
  refine ⟨⟨(List.range' 1 8).map fun n => ⟨n, js "text"⟩, by decide⟩,
    js "compare page 2, page 5 and page 8", ?_⟩
  exact ⟨by decide +kernel, ⟨8, js "text"⟩, by decide +kernel, by decide +kernel, by decide +kernel⟩

theorem pagesUpTo_le (mentions : List ℕ) (m : ℕ) : pagesUpTo mentions m ≤ 3 * mentions.length := by
  rw [pagesUpTo, List.countP_eq_length_filter]
  have hsub : (List.range' 1 m).filter
      (fun p => mentions.any fun q => p ≤ q + 1 && q ≤ p + 1) ⊆
        mentions.flatMap fun q => [q - 1, q, q + 1] := by
    intro p hp
    obtain ⟨q, hq, hnear⟩ := List.any_eq_true.1 (List.mem_filter.1 hp).2
    refine List.mem_flatMap.2 ⟨q, hq, ?_⟩
    simp at hnear ⊢
    omega
  have hnodup : (List.range' 1 m).Nodup := List.nodup_range'
  have hlen := (List.subperm_of_subset (hnodup.sublist List.filter_sublist) hsub).length_le
  rw [Nat.mul_comm]
  simpa using hlen

/-- One or two pages that are named are always chosen. -/
theorem mentions_selected_of_two (h : (extractPageNumbers message doc.pages.length).length ≤ 2) :
    ∀ page ∈ doc.pages, page.pageNumber ∈ extractPageNumbers message doc.pages.length →
      page ∈ selectRelevantPages doc.pages message := by
  intro page hpage hm
  refine (mem_selectRelevantPages_iff hpage hm).2 ((pagesUpTo_le _ _).trans ?_)
  unfold MAX_PAGE_SNIPPETS
  omega

/-! ### The pages that are chosen -/

/-- The message asks for the whole document and names no page. -/
def UsesFullDocument (pages : List PageSnippet) (message : JsString) : Prop :=
  extractPageNumbers message pages.length = [] ∧ shouldUseFullDocument message = true

/-- The message has keywords, names no page and does not ask for the whole document. -/
def UsesKeywords (pages : List PageSnippet) (message : JsString) : Prop :=
  extractPageNumbers message pages.length = [] ∧ shouldUseFullDocument message = false ∧
    extractKeywords message ≠ []

/-- How well a page fits a message. -/
def relevance (message : JsString) (page : PageSnippet) : ℕ :=
  scorePage page.content (extractKeywords message)

/-- The pages chosen from a document are the best ones. -/
structure BestPages (score : PageSnippet → ℕ) (pages chosen : List PageSnippet) : Prop where
  positive : ∀ page ∈ chosen, 0 < score page
  /-- What is left out scores no better, and comes later when it scores the same. -/
  best : ∀ page ∈ chosen, ∀ other ∈ pages, other ∉ chosen →
    score other ≤ score page ∧ (score page = score other → page.pageNumber < other.pageNumber)
  /-- The better ones come first, and those with the same score in the order of the document. -/
  ordered : chosen.Pairwise fun a b =>
    score b ≤ score a ∧ (score a = score b → a.pageNumber < b.pageNumber)

theorem scoredPages_eq (pages : List PageSnippet) (message : JsString) :
    scoredPages pages (extractKeywords message) =
      (orderByDesc (relevance message) pages).map fun page => (page, relevance message page) :=
  (map_orderByDesc (fun _ => rfl)).symm

/-- The pages with a keyword, the best ones first. -/
def relevantPages (pages : List PageSnippet) (message : JsString) : List PageSnippet :=
  (orderByDesc (relevance message) pages).filter fun page => 0 < relevance message page

theorem mem_relevantPages {pages : List PageSnippet} {page : PageSnippet} :
    page ∈ relevantPages pages message ↔ page ∈ pages ∧ 0 < relevance message page := by
  rw [relevantPages, List.mem_filter, orderByDesc_perm.mem_iff, decide_eq_true_eq]

/-- What is chosen by keywords. -/
theorem selectRelevantPages_of_keywords {pages : List PageSnippet}
    (hk : UsesKeywords pages message) (hpos : ∃ page ∈ pages, 0 < relevance message page) :
    selectRelevantPages pages message = (relevantPages pages message).take MAX_PAGE_SNIPPETS := by
  obtain ⟨hnone, hfull, hkeywords⟩ := hk
  obtain ⟨page, hpage⟩ := hpos
  have hne : (orderByDesc (relevance message) pages).filter
      (fun page => 0 < relevance message page) ≠ [] :=
    List.ne_nil_of_mem (mem_relevantPages.2 hpage)
  simp only [selectRelevantPages, scoredPages_eq, hnone, hfull, List.filter_map]
  rw [if_neg (by simp), if_neg (by simp), if_neg hkeywords,
    if_neg (by simpa using hne), ← List.map_take, List.map_map]
  exact List.map_id _

theorem bestPages_of_keywords (hk : UsesKeywords doc.pages message)
    (hpos : ∃ page ∈ doc.pages, 0 < relevance message page) :
    BestPages (relevance message) doc.pages (selectRelevantPages doc.pages message) := by
  rw [selectRelevantPages_of_keywords hk hpos]
  have hstable : (orderByDesc (relevance message) doc.pages).Pairwise _ :=
    orderByDesc_stable doc.pairwise_lt
  have hsorted := orderByDesc_pairwise.and hstable
  have hordered : (relevantPages doc.pages message).Pairwise _ := hsorted.filter _
  have hpositive : ∀ page ∈ (relevantPages doc.pages message).take MAX_PAGE_SNIPPETS,
      0 < relevance message page :=
    fun page hpage => (mem_relevantPages.1 (List.mem_of_mem_take hpage)).2
  refine ⟨hpositive, ?_, ?_⟩
  · intro page hpage other hother hnot
    by_cases hscore : 0 < relevance message other
    · exact pairwise_take_rest hordered hpage (mem_relevantPages.2 ⟨hother, hscore⟩) hnot
    · have hp := hpositive page hpage
      omega
  · exact hordered.sublist (List.take_sublist _ _)

/-- Without a page named, what is chosen is a front part of the document, unless keywords choose. -/
theorem selectRelevantPages_cases {pages : List PageSnippet}
    (h : extractPageNumbers message pages.length = []) :
    (shouldUseFullDocument message = true ∧
      selectRelevantPages pages message = pages.take MAX_FULLDOC_SNIPPETS) ∨
    selectRelevantPages pages message = pages.take MAX_PAGE_SNIPPETS ∨
    (UsesKeywords pages message ∧ ∃ page ∈ pages, 0 < relevance message page) := by
  by_cases hfull : shouldUseFullDocument message = true
  · left
    exact ⟨hfull, by simp [selectRelevantPages, h, hfull]⟩
  right
  by_cases hkeywords : extractKeywords message = []
  · left
    simp [selectRelevantPages, h, hfull, hkeywords]
  by_cases hpos : ∃ page ∈ pages, 0 < relevance message page
  · right
    exact ⟨⟨h, Bool.eq_false_iff.2 hfull, hkeywords⟩, hpos⟩
  left
  have hnil : relevantPages pages message = [] :=
    List.eq_nil_iff_forall_not_mem.2 fun page hpage => hpos ⟨page, mem_relevantPages.1 hpage⟩
  simp only [selectRelevantPages, scoredPages_eq, List.filter_map]
  rw [if_neg (not_not_intro h), if_neg hfull, if_neg hkeywords, if_pos]
  rw [List.map_eq_nil_iff]
  exact hnil

/-- A choice of pages: at least one, at most `n`, all different and all of the document. -/
structure ChosenFrom (pages : List PageSnippet) (n : ℕ) (chosen : List PageSnippet) : Prop where
  nonempty : chosen ≠ []
  different : (chosen.map (·.pageNumber)).Nodup
  subset : chosen ⊆ pages
  length_le : chosen.length ≤ n

/-- The front part of pages of a document. -/
theorem chosenFrom_take {l : List PageSnippet} {n : ℕ} (hn : 0 < n) (hne : l ≠ [])
    (hsub : l ⊆ doc.pages) (hnodup : l.Nodup) : ChosenFrom doc.pages n (l.take n) := by
  have htake : l.take n ⊆ l := (List.take_sublist n l).subset
  refine ⟨?_, ?_, fun _ h => hsub (htake h), List.length_take_le n l⟩
  · rw [ne_eq, List.take_eq_nil_iff]
    exact not_or.2 ⟨hn.ne', hne⟩
  · refine List.Nodup.map_on ?_ (hnodup.sublist (List.take_sublist n l))
    intro a ha b hb h
    exact NumberedPages.eq_of_pageNumber (hsub (htake ha)) (hsub (htake hb)) h

theorem chosenFrom_selectRelevantPages (hne : doc.pages ≠ [])
    (hfull : ¬ UsesFullDocument doc.pages message) :
    ChosenFrom doc.pages MAX_PAGE_SNIPPETS (selectRelevantPages doc.pages message) := by
  have hnodup : doc.pages.Nodup := List.Nodup.of_map _ doc.nodup_pageNumbers
  by_cases hmentions : extractPageNumbers message doc.pages.length = []
  · rcases selectRelevantPages_cases hmentions with ⟨h, -⟩ | h | ⟨hk, hpos⟩
    · exact absurd ⟨hmentions, h⟩ hfull
    · rw [h]
      exact chosenFrom_take (by decide) hne (fun _ h => h) hnodup
    · rw [selectRelevantPages_of_keywords hk hpos]
      obtain ⟨page, hpage⟩ := hpos
      refine chosenFrom_take (by decide) (List.ne_nil_of_mem (mem_relevantPages.2 hpage)) ?_ ?_
      · intro other hother
        exact (mem_relevantPages.1 hother).1
      · exact (orderByDesc_perm.nodup_iff.2 hnodup).sublist List.filter_sublist
  · rw [selectRelevantPages_of_mentions hmentions]
    obtain ⟨m, hm⟩ := List.exists_mem_of_ne_nil _ hmentions
    obtain ⟨page, hpage, rfl⟩ :=
      List.mem_map.1 (NumberedPages.mem_pageNumbers.2 (mem_extractPageNumbers hm))
    exact chosenFrom_take (by decide) (List.ne_nil_of_mem (mem_mentionedPages hpage hm))
      List.filter_sublist.subset (hnodup.sublist List.filter_sublist)

/-- **What is chosen of a document with pages**: different pages of it, at least one, at most six
or, for the whole document, twelve; and the best ones when a keyword is found. -/
theorem selectRelevantPages_spec (doc : NumberedPages) (message : JsString)
    (hne : doc.pages ≠ []) :
    ChosenFrom doc.pages MAX_FULLDOC_SNIPPETS (selectRelevantPages doc.pages message) ∧
    (¬ UsesFullDocument doc.pages message →
      (selectRelevantPages doc.pages message).length ≤ MAX_PAGE_SNIPPETS) ∧
    (UsesKeywords doc.pages message → (∃ page ∈ doc.pages, 0 < relevance message page) →
      BestPages (relevance message) doc.pages (selectRelevantPages doc.pages message)) := by
  refine ⟨?_, fun hfull => (chosenFrom_selectRelevantPages hne hfull).length_le,
    bestPages_of_keywords⟩
  by_cases hfull : UsesFullDocument doc.pages message
  · have htake : selectRelevantPages doc.pages message = doc.pages.take MAX_FULLDOC_SNIPPETS := by
      simp [selectRelevantPages, hfull.1, hfull.2]
    rw [htake]
    exact chosenFrom_take (by decide) hne (fun _ h => h) (List.Nodup.of_map _ doc.nodup_pageNumbers)
  · have h := chosenFrom_selectRelevantPages hne hfull
    exact ⟨h.nonempty, h.different, h.subset, h.length_le.trans (by decide)⟩

/-- A question about a word of the second page. -/
theorem selectRelevantPages_spec_matrix :
    BestPages (relevance (js "what is a matrix"))
      [⟨1, js "Contents"⟩, ⟨2, js "The matrix of a map"⟩]
      (selectRelevantPages [⟨1, js "Contents"⟩, ⟨2, js "The matrix of a map"⟩]
        (js "what is a matrix")) :=
  (selectRelevantPages_spec ⟨[⟨1, js "Contents"⟩, ⟨2, js "The matrix of a map"⟩], rfl⟩
    (js "what is a matrix") (List.cons_ne_nil _ _)).2.2
    ⟨by decide +kernel, by decide +kernel, by decide +kernel⟩
    ⟨⟨2, js "The matrix of a map"⟩, List.mem_cons_of_mem _ List.mem_cons_self, by decide +kernel⟩

end DocumentContextHelper

end StudyOasis
