import StudyOasis.Chat.Context
import StudyOasis.Chat.PageSelection
import StudyOasis.Ocr.Insights
import StudyOasis.Ocr.PageText

/-!
# From a picture to the prompt

`DocumentContextHelper.buildContext` puts the summary, the questions and the pages that are chosen
for a message under headings, and `appendDocumentContext` sends that in chunks.

* `visible_buildContext` : the context shows its sections, one after another;
* `recognized_in_prompt` : **what the recognition has read on the chosen pages is what the model is
  shown**, up to whitespace, if a page has no more than 1200 code units, exactly when the context
  has no more than 20000.
-/

namespace StudyOasis

namespace DocumentContextHelper

variable (engine : JsEngine)

/-! ### The context -/

/-- `MAX_SNIPPET_LENGTH`. -/
def MAX_SNIPPET_LENGTH : ℕ := 1200

/-- An item of `formatFaq`. -/
def formatFaqItem (index : ℕ) (item : DocumentFaqItem) : JsString :=
  let pages := item.pages.getD []
  let pageHint :=
    if pages = [] then []
    else js "（页码：" ++ List.intercalate (js ", ") (pages.map engine.numberToString) ++ js "）"
  js (toString (index + 1)) ++ js ". Q: " ++ item.question ++ js "\n   A: " ++ item.answer ++
    pageHint

/-- `DocumentContextHelper.formatFaq`. -/
def formatFaq (faq : List DocumentFaqItem) : JsString :=
  js "【常见问题】\n" ++
    List.intercalate (js "\n") ((faq.take 5).mapIdx (formatFaqItem engine))

/-- The heading of a page. -/
def pageHeading (pageNumber : ℕ) : JsString := js ("【第" ++ toString pageNumber ++ "页】\n")

/-- What stands under the heading of a page without text. -/
def noTextNote : JsString := js "(该页未检测到可读文本)"

/-- What stands under the heading of a page. -/
def pageSnippet (page : PageSnippet) : JsString :=
  let trimmed := trim page.content
  let snippet :=
    if trimmed.length > MAX_SNIPPET_LENGTH then trimmed.take MAX_SNIPPET_LENGTH ++ js "…"
    else trimmed
  if snippet ≠ [] then snippet else noTextNote

/-- `DocumentContextHelper.buildPageSections`. -/
def buildPageSections (pages : List PageSnippet) (message : JsString) : List JsString :=
  if pages = [] then []
  else (selectRelevantPages pages message).map fun page =>
    pageHeading page.pageNumber ++ pageSnippet page

/-- The sections in front of the pages. -/
def frontSections (payload : DocumentContextRecord) : List JsString :=
  (match payload.summary.filter (· ≠ []) with
    | some summary => [js "【文档概要】\n" ++ trim summary]
    | none => []) ++
  if payload.faq = [] then [] else [formatFaq engine payload.faq]

/-- `DocumentContextHelper.buildContext`. -/
def buildContext (payload : Option DocumentContextRecord) (message : JsString) : Option JsString :=
  match payload with
  | none => none
  | some payload =>
    let sections := frontSections engine payload ++ buildPageSections payload.pages message
    if sections ≠ [] then some (List.intercalate (js "\n\n") sections) else none

/-! ### What it shows -/

variable {engine} {payload : DocumentContextRecord} {message : JsString}

/-- **The context shows its sections**, one after another. -/
theorem visible_buildContext :
    visible ((buildContext engine (some payload) message).getD []) =
      (frontSections engine payload ++
        buildPageSections payload.pages message).flatMap visible := by
  rw [buildContext]
  split_ifs with h
  · exact visible_intercalate rfl _
  · rw [not_not.1 h]
    rfl

/-- Normalizing a context leaves what it shows. -/
theorem visible_dropBeforeBreak (s : JsString) : visible (dropBeforeBreak s) = visible s := by
  induction s with
  | nil => rfl
  | cons c s ih =>
    rw [dropBeforeBreak]
    split_ifs with h
    · rw [ih, visible_cons_of_space h.1]
    · rw [← List.singleton_append, visible_append, ih, ← visible_append, List.singleton_append]

theorem visible_normalizeContext (s : JsString) :
    visible (normalizeContext s) = visible s := by
  rw [normalizeContext_eq, visible_trim, visible_dropBeforeBreak]

/-- Cutting off a trimmed text cuts off something that is shown. -/
theorem visible_take_eq_iff {s : JsString} (hs : trim s = s) (n : ℕ) :
    visible (s.take n) = visible s ↔ s.length ≤ n := by
  constructor
  · intro h
    by_contra hlt
    have hdrop : s.drop n ≠ [] := fun hnil => hlt (List.drop_eq_nil_iff.1 hnil)
    have hnone : visible (s.drop n) = [] := by
      have hall : visible (s.take n) ++ visible (s.drop n) = visible (s.take n) := by
        rw [← visible_append, List.take_append_drop, h]
      exact List.append_right_eq_self.1 hall
    -- but a trimmed text does not end with whitespace
    have hne : trim s ≠ [] := fun hnil => hdrop (by rw [← hs, hnil, List.drop_nil])
    have hlast := isSpace_getLast_trim hne
    have hmem : (trim s).getLast hne ∈ s.drop n := by
      have hsame : (trim s).getLast hne = (s.drop n).getLast hdrop := by
        rw [List.getLast_drop]
        simp only [hs]
      rw [hsame]
      exact List.getLast_mem hdrop
    exact absurd (visible_eq_nil_iff.1 hnone _ hmem) (by rw [hlast]; exact Bool.false_ne_true)
  · intro h
    rw [List.take_of_length_le h]

/-! ### The pages -/

/-- Only pages of the document are chosen. -/
theorem selectRelevantPages_subset (pages : List PageSnippet) (message : JsString) :
    selectRelevantPages pages message ⊆ pages := by
  intro page hpage
  by_cases hmentions : extractPageNumbers message pages.length = []
  · rcases selectRelevantPages_cases hmentions with ⟨-, h⟩ | h | ⟨hk, hpos⟩
    · exact List.mem_of_mem_take (h ▸ hpage)
    · exact List.mem_of_mem_take (h ▸ hpage)
    · rw [selectRelevantPages_of_keywords hk hpos] at hpage
      exact (mem_relevantPages.1 (List.mem_of_mem_take hpage)).1
  · rw [selectRelevantPages_of_mentions hmentions] at hpage
    exact List.mem_of_mem_filter (List.mem_of_mem_take hpage)

/-- What is shown of a page that has been recognized: its symbols, if there are not too many. -/
def recognizedText (page : VisionPage) : JsString :=
  let text := VisionService.extractPageText page
  if visible page.glyphs = [] then visible noTextNote
  else if (trim text).length ≤ MAX_SNIPPET_LENGTH then visible page.glyphs
  else visible ((trim text).take MAX_SNIPPET_LENGTH) ++ js "…"

theorem visible_pageSnippet (pageNumber : ℕ) (page : VisionPage) :
    visible (pageSnippet ⟨pageNumber, VisionService.extractPageText page⟩) =
      recognizedText page := by
  simp only [pageSnippet, recognizedText]
  by_cases hnone : visible page.glyphs = []
  · rw [if_pos hnone, (VisionService.trim_extractPageText_eq_nil_iff page).2 hnone]
    rfl
  have hne : trim (VisionService.extractPageText page) ≠ [] := fun hnil =>
    hnone ((VisionService.trim_extractPageText_eq_nil_iff page).1 hnil)
  rw [if_neg hnone]
  by_cases hlong : (trim (VisionService.extractPageText page)).length > MAX_SNIPPET_LENGTH
  · have hdots : (trim (VisionService.extractPageText page)).take MAX_SNIPPET_LENGTH ++ js "…" ≠
        [] := fun hnil => nomatch (List.append_eq_nil_iff.1 hnil).2
    rw [if_pos hlong, if_neg (Nat.not_le_of_gt hlong), if_pos hdots, visible_append]
    rfl
  · rw [if_neg hlong, if_pos (Nat.le_of_not_gt hlong), if_pos hne, visible_trim,
      VisionService.visible_extractPageText]

/-- The page with a number. -/
def pageAt (pages : List VisionPage) (pageNumber : ℕ) : VisionPage :=
  (pages[pageNumber - 1]?).getD {}

theorem eq_of_mem_buildPageContents {pages : List VisionPage} {page : PageSnippet}
    (h : page ∈ VisionService.buildPageContents pages) :
    page = ⟨page.pageNumber,
      VisionService.extractPageText (pageAt pages page.pageNumber)⟩ := by
  obtain ⟨⟨vision, k⟩, hmem, rfl⟩ := List.mem_map.1 h
  obtain ⟨hpos, hk, hget⟩ := List.mem_zipIdx hmem
  have hat : pageAt pages k = vision := by
    rw [pageAt, List.getElem?_eq_getElem (by omega), Option.getD_some]
    exact hget.symm
  rw [hat]

/-- What is promised to the model: the summary and the questions, and the chosen pages under their
headings. -/
def promised (engine : JsEngine) (payload : DocumentContextRecord) (pages : List VisionPage)
    (message : JsString) : JsString :=
  (frontSections engine payload).flatMap visible ++
    (selectRelevantPages (VisionService.buildPageContents pages) message).flatMap fun page =>
      visible (pageHeading page.pageNumber) ++ recognizedText (pageAt pages page.pageNumber)

theorem flatMap_buildPageSections (pages : List VisionPage) (message : JsString) :
    (buildPageSections (VisionService.buildPageContents pages) message).flatMap visible =
      (selectRelevantPages (VisionService.buildPageContents pages) message).flatMap fun page =>
        visible (pageHeading page.pageNumber) ++ recognizedText (pageAt pages page.pageNumber) := by
  set contents := VisionService.buildPageContents pages with hcontents
  have hsections : buildPageSections contents message =
      (selectRelevantPages contents message).map fun page =>
        pageHeading page.pageNumber ++ pageSnippet page := by
    rw [buildPageSections]
    split_ifs with hnil
    · have hnone := selectRelevantPages_subset contents message
      rw [hnil, List.subset_nil] at hnone
      rw [hnil, hnone, List.map_nil]
    · rfl
  rw [hsections, List.flatMap_map, List.flatMap_def, List.flatMap_def]
  congr 1
  refine List.map_congr_left fun page hpage => ?_
  have hpage := eq_of_mem_buildPageContents (selectRelevantPages_subset contents message hpage)
  rw [visible_append]
  congr 1
  rw [← visible_pageSnippet page.pageNumber, ← hpage]

/-! ### From the recognition to the prompt -/

/-- The pages of a document that has been recognized are those of the picture. -/
theorem pages_of_getDocumentContext {db : OcrDb} {insights : List DocumentInsight}
    {documentId : String} {result : OcrResult} {pages : List VisionPage}
    {payload : DocumentContextRecord}
    (h : VisionService.getDocumentContext engine (VisionService.persistOcrArtifacts db documentId
      result (VisionService.buildPageContents pages)) insights documentId = .ok (some payload)) :
    payload.pages = VisionService.buildPageContents pages := by
  have hrows := (VisionService.rows_persistOcrArtifacts db documentId documentId result
    (VisionService.buildPageContents pages)).1
  rw [if_pos rfl] at hrows
  have hsorted : orderByAsc PageContent.pageNumber (VisionService.buildPageContents pages) =
      VisionService.buildPageContents pages := by
    refine orderByAsc_eq_self ?_
    have hnumbered := VisionService.numbered_buildPageContents pages
    have hpairwise := List.pairwise_lt_range' (s := 1)
      (n := (VisionService.buildPageContents pages).length)
    rw [← hnumbered, List.pairwise_map] at hpairwise
    exact hpairwise.imp le_of_lt
  simp only [VisionService.getDocumentContext, hrows, hsorted] at h
  split_ifs at h
  · cases h
  · cases hfaq : VisionService.normalizeFaq engine ((insights.find?
        (·.documentId = documentId)).map (·.faq)) with
    | error e => rw [hfaq] at h; cases h
    | ok faq =>
      rw [hfaq] at h
      obtain rfl := Option.some.inj (Except.ok.inj h)
      rfl

/-- **From a picture to the prompt.** -/
theorem recognized_in_prompt {db : OcrDb} {insights : List DocumentInsight} {documentId : String}
    {result : OcrResult} {pages : List VisionPage} {payload : DocumentContextRecord}
    (h : VisionService.getDocumentContext engine (VisionService.persistOcrArtifacts db documentId
      result (VisionService.buildPageContents pages)) insights documentId = .ok (some payload))
    (message : JsString) (dbMessages : List DbMessage) (hintLevel : HintLevel) :
    let context := buildContext engine (some payload) message
    let normalized := normalizeContext (context.getD [])
    ∃ chunks : List JsString,
      ChatMessageHelper.buildMessageHistory dbMessages context hintLevel =
        [⟨.system, ChatPromptBuilder.buildSystemPrompt hintLevel (context.getD [] ≠ [])⟩] ++
        chunks.mapIdx (ChatMessageHelper.chunkMessage chunks.length) ++
        (if 20000 < normalized.length then [ChatMessageHelper.truncationWarning] else []) ++
        (dbMessages.drop (dbMessages.length - 10)).map DbMessage.toDeepSeek ∧
      visible chunks.flatten <+: promised engine payload pages message ∧
      (visible chunks.flatten = promised engine payload pages message ↔
        normalized.length ≤ 20000) := by
  intro context normalized
  have hpromised : promised engine payload pages message = visible normalized := by
    rw [visible_normalizeContext, visible_buildContext, List.flatMap_append,
      pages_of_getDocumentContext h, flatMap_buildPageSections, promised]
  have hchunks := (ChatMessageHelper.contextChunks_spec (context.getD [])).flatten
  rw [← List.take_eq_take_min] at hchunks
  refine ⟨ChatMessageHelper.contextChunks (context.getD []), ?_, ?_, ?_⟩
  · simp only [ChatMessageHelper.buildMessageHistory]
    rw [ChatMessageHelper.getD_map_filter, ChatMessageHelper.isSome_filter,
      ChatMessageHelper.documentContextMessages_eq, ← List.append_assoc]
    rfl
  · rw [hpromised, hchunks]
    exact visible_take normalized 20000
  · rw [hpromised, hchunks]
    exact visible_take_eq_iff (trim_trim _) 20000

/-- A page with two words, and a message that names no page. -/
theorem recognized_in_prompt_twoWords :
    ∃ (payload : DocumentContextRecord) (chunks : List JsString),
      payload.pages = [⟨1, js "Hello world"⟩] ∧ visible chunks.flatten =
        promised (.exact (fun _ => none) fun _ => []) payload [VisionService.twoWords]
          (js "hi") := by
  have hrecord : VisionService.getDocumentContext (.exact (fun _ => none) fun _ => [])
      (VisionService.persistOcrArtifacts ⟨[], []⟩ "d" ⟨js "Hello", 1, "en", 1⟩
        (VisionService.buildPageContents [VisionService.twoWords])) [] "d" = .ok (some _) := rfl
  obtain ⟨chunks, -, -, hall⟩ := recognized_in_prompt hrecord (js "hi") [] .one
  have hshort : (normalizeContext ((buildContext (.exact (fun _ => none) fun _ => [])
      (some { fullText := some (js "Hello"), summary := none, faq := [],
              pages := [⟨1, js "Hello world"⟩] }) (js "hi")).getD [])).length ≤ 20000 := by
    decide +kernel
  exact ⟨_, chunks, rfl, hall.2 hshort⟩

end DocumentContextHelper

end StudyOasis
