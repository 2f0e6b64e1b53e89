import Mathlib.Data.List.ReduceOption
import StudyOasis.Common.OrderBy
import StudyOasis.Ocr.Artifacts
import StudyOasis.Text.Json
import StudyOasis.Upload.Filename

/-!
# Document insights

A model reads a document and answers with a summary and questions about it.
`parseInsightResponse` takes them out of its answer, they are stored as JSON, and
`getDocumentContext` reads them back with a loop of its own, which cuts an answer at 800 code units
where the first one cuts it at 1200.

* `readFaqItem_faqItemJson` : what the second loop makes of a stored item;
* `faq_kept_iff` : **exactly when the context has the items that were parsed**.
-/

namespace StudyOasis

/-- `DocumentFaqItem`. -/
structure DocumentFaqItem where
  question : JsString
  answer : JsString
  pages : Option (List JsNumber)
  deriving DecidableEq

/-- A row of `document_insights`. -/
structure DocumentInsight where
  documentId : String
  summary : Option JsString
  faq : JsonValue

/-- `DocumentContextRecord`. -/
structure DocumentContextRecord where
  fullText : Option JsString
  summary : Option JsString
  faq : List DocumentFaqItem
  pages : List PageContent

namespace VisionService

variable (engine : JsEngine)

/-! ### One item -/

/-- `String(value || '').trim()`. -/
def faqText (value : JsonValue) : Js JsString :=
  trim <$> if value.isTruthy then value.toStr engine else pure []

/-- The trimmed question and answer of an object that has both. -/
def faqTexts : JsonValue → Js (Option (JsString × JsString))
  | .obj fields =>
    match fields.lookup (js "question"), fields.lookup (js "answer") with
    | some question, some answer => do
      let question ← faqText engine question
      let answer ← faqText engine answer
      pure (some (question, answer))
    | _, _ => pure none
  | _ => pure none

/-- `raw.pages`. -/
def rawPages (raw : JsonValue) : Option JsonValue := raw.property (js "pages")

/-- The page numbers, `undefined` if there are none. -/
def positivePages (numbers : List JsNumber) : Option (List JsNumber) :=
  let pages := numbers.filter JsNumber.isPositiveInteger
  if pages = [] then none else some pages

/-- The page numbers among the items of `raw.pages`. -/
def faqPages : Option JsonValue → Js (Option (List JsNumber))
  | some (.arr items) => positivePages <$> items.mapM fun page => page.toNumber engine
  | _ => pure none

/-- The body of the loop over a `faq`: the item, unless it is skipped. -/
def readFaqItem (answerLimit : ℕ) (raw : JsonValue) : Js (Option DocumentFaqItem) := do
  match ← faqTexts engine raw with
  | none => pure none
  | some texts =>
    let question := texts.1.take 300
    let answer := texts.2.take answerLimit
    if question = [] ∨ answer = [] then pure none
    else do
      let pages ← faqPages engine (rawPages raw)
      pure (some ⟨question, answer, pages⟩)

/-- The loop over a `faq`; what is no array has no items. -/
def readFaq (answerLimit : ℕ) : Option JsonValue → Js (List DocumentFaqItem)
  | some (.arr raws) => List.reduceOption <$> raws.mapM (readFaqItem engine answerLimit)
  | _ => pure []

/-! ### The answer of the model -/

/-- The text matches `/```json/i` at its start. -/
def opensBlock (text : JsString) : Bool := toLowerCase (text.take 7) = js "\x60\x60\x60json"

/-- What stands before the first three backticks. -/
def untilFence : JsString → Option JsString
  | [] => none
  | c :: text =>
    if (js "\x60\x60\x60").isPrefixOf (c :: text) then some []
    else (c :: ·) <$> untilFence text

/-- What `/```json([\s\S]*?)```/i` captures: a later opening has no fence behind it that the first
one does not have. -/
def codeBlock : JsString → Option JsString
  | [] => none
  | c :: text => if opensBlock (c :: text) then untilFence ((c :: text).drop 7) else codeBlock text

/-- The text that is parsed. -/
def insightJson (content : JsString) : JsString :=
  let normalized := trim content
  (codeBlock normalized).getD normalized

/-- `parsed.summary`, if it is a string. -/
def insightSummary : Option JsonValue → Option JsString
  | some (.str s) => some ((trim s).take 1200)
  | _ => none

/-- `VisionService.parseInsightResponse`: an error is logged. -/
def parseInsightResponse (content : JsString) : Option JsString × List DocumentFaqItem :=
  match engine.parse (insightJson content) with
  | none => (none, [])
  | some parsed =>
    let read : Js (Option JsString × List DocumentFaqItem) := do
      let summary ← parsed.get (js "summary")
      let faq ← parsed.get (js "faq")
      let items ← readFaq engine 1200 faq
      pure (insightSummary summary, items)
    match read with
    | .ok insight => insight
    | .error _ => (none, [])

/-! ### The row -/

/-- An item as it is stored: a property that is `undefined` is dropped. -/
def faqItemJson (item : DocumentFaqItem) : JsonValue :=
  .obj ([(js "question", .str item.question), (js "answer", .str item.answer)] ++
    match item.pages with
    | some pages => [(js "pages", .arr (pages.map .num))]
    | none => [])

/-- `faqPayload`; `Prisma.JsonNull` is the JSON value `null`. -/
def faqPayload (faq : List DocumentFaqItem) : JsonValue :=
  if faq = [] then .null else .arr (faq.map faqItemJson)

/-- What `generateDocumentInsights` does with a parsed answer. -/
def saveInsight (insights : List DocumentInsight) (documentId : String)
    (insight : Option JsString × List DocumentFaqItem) : List DocumentInsight :=
  if (insight.1.filter (· ≠ [])).isNone ∧ insight.2 = [] then insights
  else insights.filter (·.documentId ≠ documentId) ++
    [⟨documentId, insight.1, faqPayload insight.2⟩]

/-- `VisionService.normalizeFaq`. -/
def normalizeFaq (faqValue : Option JsonValue) : Js (List DocumentFaqItem) :=
  readFaq engine 800 faqValue

/-- `VisionService.getDocumentContext`. -/
def getDocumentContext (db : OcrDb) (insights : List DocumentInsight) (documentId : String) :
    Js (Option DocumentContextRecord) :=
  let ocrResult := db.resultOf documentId
  let pages := orderByAsc PageContent.pageNumber (db.pagesOf documentId)
  let insight := insights.find? (·.documentId = documentId)
  if ocrResult.isNone ∧ pages = [] ∧ insight.isNone then pure none
  else do
    let faq ← normalizeFaq engine (insight.map (·.faq))
    pure (some
      { fullText := ocrResult.map (·.fullText)
        summary := insight.bind (·.summary)
        faq
        pages })

/-! ### Reading an item -/

section

variable {engine : JsEngine} {raw value : JsonValue} {found : Option JsonValue}
  {item : DocumentFaqItem} {limit : ℕ}

/-- The texts of an entry are trimmed. -/
theorem faqText_trimmed {text : JsString} (h : faqText engine value = .ok text) :
    trim text = text := by
  obtain ⟨t, -, rfl⟩ := map_eq_ok.1 h
  exact trim_trim t

theorem faqText_str {text : JsString} (h : text ≠ []) :
    faqText engine (.str text) = .ok (trim text) := by
  have htruthy : (JsonValue.str text).isTruthy = true := decide_eq_true h
  rw [faqText, if_pos htruthy]
  rfl

theorem faqTexts_trimmed {texts : JsString × JsString}
    (h : faqTexts engine raw = .ok (some texts)) :
    trim texts.1 = texts.1 ∧ trim texts.2 = texts.2 := by
  cases raw with
  | obj fields =>
    simp only [faqTexts] at h
    split at h
    · rename_i question answer _ _
      obtain ⟨q, hq, h⟩ := bind_eq_ok.1 h
      obtain ⟨a, ha, h⟩ := bind_eq_ok.1 h
      cases h
      exact ⟨faqText_trimmed hq, faqText_trimmed ha⟩
    · cases h
  | _ => cases h

/-- An entry whose texts are not empty. -/
theorem readFaqItem_of_texts {texts : JsString × JsString}
    (h : faqTexts engine raw = .ok (some texts)) (hq : texts.1.take 300 ≠ [])
    (ha : texts.2.take limit ≠ []) :
    readFaqItem engine limit raw =
      (fun pages => some ⟨texts.1.take 300, texts.2.take limit, pages⟩) <$>
        faqPages engine (rawPages raw) := by
  unfold readFaqItem
  rw [h]
  change (if texts.1.take 300 = [] ∨ texts.2.take limit = [] then _ else _) = _
  rw [if_neg (not_or.2 ⟨hq, ha⟩)]
  cases faqPages engine (rawPages raw) <;> rfl

/-- **What the loop takes of an entry.** -/
theorem readFaqItem_eq_some (h : readFaqItem engine limit raw = .ok (some item)) :
    ∃ texts, faqTexts engine raw = .ok (some texts) ∧ texts.1.take 300 ≠ [] ∧
      texts.2.take limit ≠ [] ∧ ∃ pages, faqPages engine (rawPages raw) = .ok pages ∧
      item = ⟨texts.1.take 300, texts.2.take limit, pages⟩ := by
  obtain ⟨found, htexts, h⟩ := bind_eq_ok.1 h
  cases found with
  | none => cases h
  | some texts =>
    simp only at h
    split_ifs at h with hempty
    · cases h
    · obtain ⟨hq, ha⟩ := not_or.1 hempty
      obtain ⟨pages, hpages, h⟩ := bind_eq_ok.1 h
      cases h
      exact ⟨texts, htexts, hq, ha, pages, hpages, rfl⟩

theorem positivePages_self {numbers pages : List JsNumber}
    (h : positivePages numbers = some pages) : positivePages pages = some pages := by
  simp only [positivePages] at h
  split_ifs at h with hnil
  obtain rfl := Option.some.inj h
  have hself : (numbers.filter JsNumber.isPositiveInteger).filter JsNumber.isPositiveInteger =
      numbers.filter JsNumber.isPositiveInteger := by
    rw [List.filter_filter]
    simp
  simp only [positivePages, hself, if_neg hnil]

/-- The stored pages are read as they are. -/
theorem faqPages_stored {pages : Option (List JsNumber)} (h : faqPages engine found = .ok pages) :
    faqPages engine (pages.map fun pages => .arr (pages.map .num)) = .ok pages := by
  cases pages with
  | none => rfl
  | some pages =>
    have hself : positivePages pages = some pages := by
      unfold faqPages at h
      split at h
      · obtain ⟨numbers, -, hpages⟩ := map_eq_ok.1 h
        exact positivePages_self hpages
      · cases h
    have hread : (pages.map JsonValue.num).mapM (fun page => page.toNumber engine) =
        .ok pages := by
      rw [List.mapM_map]
      exact (mapM_of_forall fun _ _ => rfl).trans (by rw [List.map_id'])
    rw [Option.map_some, faqPages, hread, ← hself]
    rfl

theorem rawPages_faqItemJson (item : DocumentFaqItem) :
    rawPages (faqItemJson item) = item.pages.map fun pages => .arr (pages.map .num) := by
  cases h : item.pages with
  | none =>
    rw [faqItemJson, h]
    rfl
  | some pages =>
    rw [faqItemJson, h]
    rfl

theorem faqTexts_faqItemJson (hq : item.question ≠ []) (ha : item.answer ≠ []) :
    faqTexts engine (faqItemJson item) = .ok (some (trim item.question, trim item.answer)) := by
  have hquestion : faqText engine (.str item.question) = .ok (trim item.question) := faqText_str hq
  have hanswer : faqText engine (.str item.answer) = .ok (trim item.answer) := faqText_str ha
  have htexts : faqTexts engine (faqItemJson item) = (do
      let question ← faqText engine (.str item.question)
      let answer ← faqText engine (.str item.answer)
      pure (some (question, answer))) := rfl
  rw [htexts, hquestion, hanswer]
  rfl

/-- An item as it is read back. -/
def reread (item : DocumentFaqItem) : DocumentFaqItem :=
  { item with
    question := (trim item.question).take 300
    answer := (trim item.answer).take 800 }

/-- **A stored item is read** as its texts are trimmed and cut once more. -/
theorem readFaqItem_faqItemJson (hq : trim item.question ≠ []) (ha : trim item.answer ≠ [])
    (hpages : faqPages engine found = .ok item.pages) :
    readFaqItem engine 800 (faqItemJson item) = .ok (some (reread item)) := by
  have hne (t : JsString) (ht : trim t ≠ []) : t ≠ [] := by
    rintro rfl
    exact ht rfl
  have htake (t : JsString) (n : ℕ) (ht : trim t ≠ []) : (trim t).take (n + 1) ≠ [] := by
    simpa using ht
  rw [readFaqItem_of_texts (faqTexts_faqItemJson (hne _ hq) (hne _ ha)) (htake _ 299 hq)
    (htake _ 799 ha), rawPages_faqItemJson, faqPages_stored hpages]
  rfl

end

/-! ### Both loops -/

/-- The entries of the `faq` of an answer. -/
def faqEntries (engine : JsEngine) (content : JsString) : List JsonValue :=
  match engine.parse (insightJson content) with
  | some (.obj fields) =>
    match fields.lookup (js "faq") with
    | some (.arr raws) => raws
    | _ => []
  | _ => []

/-- The texts of an entry survive both cuts: whitespace is not the 300th code unit of the question,
and the answer has at most 800. -/
def Survives (texts : JsString × JsString) : Prop :=
  (∀ c ∈ texts.1[299]?, isSpace c = false) ∧ texts.2.length ≤ 800

section

variable {engine : JsEngine} {content : JsString}

/-- What an answer gives whose entries are read without an error. -/
theorem parsed_of_readFaq {fields : List (JsString × JsonValue)} {items : List DocumentFaqItem}
    (hparse : engine.parse (insightJson content) = some (.obj fields))
    (hread : readFaq engine 1200 (fields.lookup (js "faq")) = .ok items) :
    (parseInsightResponse engine content).2 = items := by
  unfold parseInsightResponse
  rw [hparse]
  simp only [JsonValue.get, JsonValue.property, pure_bind, hread]
  rfl

/-- The items of an answer are those of the loop over its entries. -/
theorem parsed_cases (hne : (parseInsightResponse engine content).2 ≠ []) :
    ∃ items, (faqEntries engine content).mapM (readFaqItem engine 1200) = .ok items ∧
      (parseInsightResponse engine content).2 = items.reduceOption := by
  cases hparse : engine.parse (insightJson content) with
  | none =>
    rw [parseInsightResponse, hparse] at hne
    exact absurd rfl hne
  | some parsed =>
    cases parsed with
    | obj fields =>
      cases hread : readFaq engine 1200 (fields.lookup (js "faq")) with
      | error e =>
        rw [parseInsightResponse, hparse] at hne
        simp only [JsonValue.get, JsonValue.property, pure_bind, hread] at hne
        exact absurd rfl hne
      | ok found =>
        have hfound := parsed_of_readFaq hparse hread
        rw [hfound] at hne ⊢
        rw [faqEntries, hparse]
        unfold readFaq at hread
        split at hread
        · rename_i raws hfaq
          simp only [hfaq]
          obtain ⟨items, hmap, hitems⟩ := map_eq_ok.1 hread
          exact ⟨items, hmap, hitems.symm⟩
        · exact absurd (Except.ok.inj hread).symm hne
    | _ =>
      rw [parseInsightResponse, hparse] at hne
      exact absurd rfl hne

/-- What the loop over the entries of the answer has found. -/
theorem mem_parsed (hne : (parseInsightResponse engine content).2 ≠ []) (item : DocumentFaqItem) :
    item ∈ (parseInsightResponse engine content).2 ↔
      ∃ raw ∈ faqEntries engine content, readFaqItem engine 1200 raw = .ok (some item) := by
  obtain ⟨items, hmap, hparsed⟩ := parsed_cases hne
  rw [hparsed, List.reduceOption_mem_iff, mem_mapM_iff hmap]

theorem head_take_trimmed {s : JsString} (hs : trim s = s) {n : ℕ} (hne : s.take n ≠ []) :
    isSpace ((s.take n).head hne) = false := by
  have htrim : trim s ≠ [] := by
    rw [hs]
    rintro rfl
    exact hne List.take_nil
  rw [List.head_take hne]
  simpa only [hs] using isSpace_head_trim htrim

/-- The front of a trimmed text is not blank. -/
theorem trim_take_ne_nil {s : JsString} (hs : trim s = s) (hne : s ≠ []) (n : ℕ) :
    trim (s.take (n + 1)) ≠ [] :=
  trim_ne_nil_of_head (by simpa using hne) (head_take_trimmed hs (by simpa using hne))

/-- Cutting a trimmed question again leaves it as it is exactly when the cut is not behind
whitespace. -/
theorem question_kept_iff {Q : JsString} (hQ : trim Q = Q) (hq : Q ≠ []) :
    (trim (Q.take 300)).take 300 = Q.take 300 ↔ ∀ c ∈ Q[299]?, isSpace c = false := by
  have hne : Q.take 300 ≠ [] := by simpa using hq
  have htrim : trim Q ≠ [] := by rwa [hQ]
  have hhead := head_take_trimmed hQ hne
  have hcut : (trim (Q.take 300)).take 300 = trim (Q.take 300) := by
    refine List.take_of_length_le ?_
    rw [trim_of_head hne hhead]
    exact ((List.rdropWhile_prefix isSpace _).length_le).trans (List.length_take_le 300 Q)
  rw [hcut, trim_eq_self_iff hne hhead]
  have hlast : (Q.take 300).getLast? = Q[299]?.or Q.getLast? := by
    rw [List.getLast?_take]
    rfl
  rw [List.getLast?_eq_some_getLast hne] at hlast
  cases hc : Q[299]? with
  | some c =>
    rw [hc, Option.some_or, Option.some_inj] at hlast
    rw [hlast]
    simp
  | none =>
    rw [hc, Option.none_or, List.getLast?_eq_some_getLast hq, Option.some_inj] at hlast
    have hend : isSpace (Q.getLast hq) = false := by
      simpa only [hQ] using isSpace_getLast_trim htrim
    rw [hlast, hend]
    simp

theorem answer_kept_iff {A : JsString} (hA : trim A = A) :
    (trim (A.take 1200)).take 800 = A.take 1200 ↔ A.length ≤ 800 := by
  constructor
  · intro h
    have hlen : (A.take 1200).length ≤ 800 := h ▸ List.length_take_le 800 _
    rw [List.length_take] at hlen
    omega
  · intro h
    have hall : A.take 1200 = A := List.take_of_length_le (by omega)
    rw [hall, hA, List.take_of_length_le h]

theorem reread_eq_self_iff {texts : JsString × JsString} {pages : Option (List JsNumber)}
    (hQ : trim texts.1 = texts.1) (hA : trim texts.2 = texts.2) (hq : texts.1 ≠ []) :
    reread ⟨texts.1.take 300, texts.2.take 1200, pages⟩ =
      ⟨texts.1.take 300, texts.2.take 1200, pages⟩ ↔ Survives texts := by
  rw [Survives, ← question_kept_iff hQ hq, ← answer_kept_iff hA]
  simp only [reread, DocumentFaqItem.mk.injEq, and_true]

/-- What is found of an item in its entry. -/
theorem entry_of_mem_parsed (hne : (parseInsightResponse engine content).2 ≠ [])
    {item : DocumentFaqItem} (hitem : item ∈ (parseInsightResponse engine content).2) :
    ∃ raw ∈ faqEntries engine content, ∃ texts, faqTexts engine raw = .ok (some texts) ∧
      texts.1 ≠ [] ∧ texts.2 ≠ [] ∧ ∃ pages, faqPages engine (rawPages raw) = .ok pages ∧
      item = ⟨texts.1.take 300, texts.2.take 1200, pages⟩ := by
  obtain ⟨raw, hraw, hread⟩ := (mem_parsed hne item).1 hitem
  obtain ⟨texts, htexts, hq, ha, pages, hpages, rfl⟩ := readFaqItem_eq_some hread
  refine ⟨raw, hraw, texts, htexts, ?_, ?_, pages, hpages, rfl⟩
  · simpa using hq
  · simpa using ha

/-- An entry with a question and an answer has given an item. -/
theorem parsed_item_of_entry (hne : (parseInsightResponse engine content).2 ≠ [])
    {raw : JsonValue} (hraw : raw ∈ faqEntries engine content) {texts : JsString × JsString}
    (htexts : faqTexts engine raw = .ok (some texts)) (hq : texts.1 ≠ []) (ha : texts.2 ≠ []) :
    ∃ pages, ⟨texts.1.take 300, texts.2.take 1200, pages⟩ ∈
      (parseInsightResponse engine content).2 := by
  obtain ⟨items, hmap, -⟩ := parsed_cases hne
  have hok : (readFaqItem engine 1200 raw).isOk = true :=
    isOk_mapM.1 (congrArg Except.isOk hmap) raw hraw
  have hread : readFaqItem engine 1200 raw = _ :=
    readFaqItem_of_texts htexts (by simpa using hq) (by simpa using ha)
  rw [hread, isOk_map, isOk_iff] at hok
  obtain ⟨pages, hpages⟩ := hok
  refine ⟨pages, (mem_parsed hne _).2 ⟨raw, hraw, ?_⟩⟩
  rw [hread, hpages]
  rfl

/-- The items as they come back. -/
theorem normalizeFaq_faqPayload (hne : (parseInsightResponse engine content).2 ≠ []) :
    normalizeFaq engine (some (faqPayload (parseInsightResponse engine content).2)) =
      .ok ((parseInsightResponse engine content).2.map reread) := by
  have hread : ∀ item ∈ (parseInsightResponse engine content).2,
      readFaqItem engine 800 (faqItemJson item) = .ok (some (reread item)) := by
    intro item hitem
    obtain ⟨raw, -, texts, htexts, hq, ha, pages, hpages, rfl⟩ := entry_of_mem_parsed hne hitem
    obtain ⟨hQ, hA⟩ := faqTexts_trimmed htexts
    exact readFaqItem_faqItemJson (trim_take_ne_nil hQ hq 299) (trim_take_ne_nil hA ha 1199) hpages
  have hmap := (List.mapM_map.trans (mapM_of_forall hread) :
    ((parseInsightResponse engine content).2.map faqItemJson).mapM (readFaqItem engine 800) = _)
  rw [normalizeFaq, faqPayload, if_neg hne, readFaq, hmap]
  refine congrArg Except.ok ?_
  rw [List.reduceOption, List.filterMap_map]
  exact congrFun List.filterMap_eq_map _

/-- The context of a document whose insight has just been stored. -/
theorem getDocumentContext_saveInsight (db : OcrDb) (insights : List DocumentInsight)
    (documentId : String) {insight : Option JsString × List DocumentFaqItem}
    (hne : insight.2 ≠ []) {faq : List DocumentFaqItem}
    (hfaq : normalizeFaq engine (some (faqPayload insight.2)) = .ok faq) :
    ∃ record, getDocumentContext engine db (saveInsight insights documentId insight) documentId =
      .ok (some record) ∧ record.faq = faq := by
  have hfind : (saveInsight insights documentId insight).find? (·.documentId = documentId) =
      some ⟨documentId, insight.1, faqPayload insight.2⟩ := by
    rw [saveInsight, if_neg fun h => hne h.2, List.find?_append, List.find?_eq_none.2]
    · simp
    · intro row hrow
      simpa using (List.mem_filter.1 hrow).2
  simp only [getDocumentContext, hfind, Option.map_some, hfaq]
  simp

/-- **The context has the items of the answer** exactly when every entry with a question and an
answer survives both cuts. -/
theorem faq_kept_iff (engine : JsEngine) (db : OcrDb) (insights : List DocumentInsight)
    (documentId : String) (content : JsString)
    (hne : (parseInsightResponse engine content).2 ≠ []) :
    (∃ record, getDocumentContext engine db
        (saveInsight insights documentId (parseInsightResponse engine content)) documentId =
          .ok (some record) ∧ record.faq = (parseInsightResponse engine content).2) ↔
      ∀ raw ∈ faqEntries engine content, ∀ texts, faqTexts engine raw = .ok (some texts) →
        texts.1 ≠ [] → texts.2 ≠ [] → Survives texts := by
  obtain ⟨record, hrecord, hfaq⟩ := getDocumentContext_saveInsight db insights documentId hne
    (normalizeFaq_faqPayload hne)
  have hleft : (∃ record, getDocumentContext engine db
      (saveInsight insights documentId (parseInsightResponse engine content)) documentId =
        .ok (some record) ∧ record.faq = (parseInsightResponse engine content).2) ↔
      ∀ item ∈ (parseInsightResponse engine content).2, reread item = item := by
    rw [hrecord]
    have hself : (parseInsightResponse engine content).2.map reread =
        (parseInsightResponse engine content).2 ↔
        ∀ item ∈ (parseInsightResponse engine content).2, reread item = item := by
      simpa using List.map_inj_left (l := (parseInsightResponse engine content).2) (f := reread)
        (g := id)
    constructor
    · rintro ⟨_, heq, hkept⟩
      cases heq
      exact hself.1 (hfaq.symm.trans hkept)
    · intro hall
      exact ⟨record, rfl, hfaq.trans (hself.2 hall)⟩
  rw [hleft]
  constructor
  · intro hall raw hraw texts htexts hq ha
    obtain ⟨pages, hitem⟩ := parsed_item_of_entry hne hraw htexts hq ha
    obtain ⟨hQ, hA⟩ := faqTexts_trimmed htexts
    exact (reread_eq_self_iff hQ hA hq).1 (hall _ hitem)
  · intro hall item hitem
    obtain ⟨raw, hraw, texts, htexts, hq, ha, pages, -, rfl⟩ := entry_of_mem_parsed hne hitem
    obtain ⟨hQ, hA⟩ := faqTexts_trimmed htexts
    exact (reread_eq_self_iff hQ hA hq).2 (hall raw hraw texts htexts hq ha)

end

/-! ### An answer of one question -/

/-- An answer with one question, and `n` letters as what is said to it. -/
def oneQuestion (n : ℕ) : JsString :=
  js "\x7b\"faq\":[\x7b\"question\":\"Why?\",\"answer\":\"" ++ List.replicate n 97 ++
    js "\"\x7d]\x7d"

/-- What is parsed of it. -/
def oneQuestionFaq (n : ℕ) : JsonValue :=
  .obj [(js "faq", .arr [.obj [(js "question", .str (js "Why?")),
    (js "answer", .str (List.replicate n 97))]])]

/-- An engine that reads this text. -/
def oneQuestionEngine (n : ℕ) : JsEngine :=
  .exact (fun text => if text = oneQuestion n then some (oneQuestionFaq n) else none)
    fun _ => oneQuestion n

theorem faqEntries_oneQuestion {n : ℕ} (hjson : insightJson (oneQuestion n) = oneQuestion n) :
    faqEntries (oneQuestionEngine n) (oneQuestion n) =
      [faqItemJson ⟨js "Why?", List.replicate n 97, none⟩] := by
  have hparse : (oneQuestionEngine n).parse (oneQuestion n) = some (oneQuestionFaq n) :=
    if_pos rfl
  rw [faqEntries, hjson, hparse]
  rfl

/-- 800 letters. -/
theorem faq_kept_iff_one_question :
    ∃ record, getDocumentContext (oneQuestionEngine 800) ⟨[], []⟩
      (saveInsight [] "doc" (parseInsightResponse (oneQuestionEngine 800) (oneQuestion 800)))
        "doc" = .ok (some record) ∧
      record.faq = (parseInsightResponse (oneQuestionEngine 800) (oneQuestion 800)).2 := by
  refine (faq_kept_iff _ _ _ _ _ (by decide +kernel)).2 ?_
  have hquestion : trim (js "Why?") = js "Why?" := by decide
  have hanswer : trim (List.replicate 800 97) = List.replicate 800 97 := by decide +kernel
  rw [faqEntries_oneQuestion (by decide +kernel)]
  intro raw hraw texts htexts _ _
  rw [List.mem_singleton.1 hraw, faqTexts_faqItemJson (by decide) (by decide +kernel), hquestion,
    hanswer] at htexts
  cases htexts
  have hshort : (js "Why?")[299]? = none := List.getElem?_eq_none (by decide)
  refine ⟨fun c hc => ?_, List.length_replicate.le⟩
  cases hshort.symm.trans hc

/-- 801 letters: the last one is missing in the context. -/
theorem answer_shortened :
    (parseInsightResponse (oneQuestionEngine 801) (oneQuestion 801)).2 ≠ [] ∧
      ¬ ∃ record, getDocumentContext (oneQuestionEngine 801) ⟨[], []⟩
        (saveInsight [] "doc" (parseInsightResponse (oneQuestionEngine 801) (oneQuestion 801)))
          "doc" = .ok (some record) ∧
        record.faq = (parseInsightResponse (oneQuestionEngine 801) (oneQuestion 801)).2 := by
  have hne : (parseInsightResponse (oneQuestionEngine 801) (oneQuestion 801)).2 ≠ [] := by
    decide +kernel
  obtain ⟨record, hrecord, hfaq⟩ := getDocumentContext_saveInsight ⟨[], []⟩ [] "doc" hne
    (normalizeFaq_faqPayload hne)
  refine ⟨hne, ?_⟩
  rw [hrecord]
  rintro ⟨_, heq, hkept⟩
  cases heq
  exact absurd (hfaq.symm.trans hkept) (by decide +kernel)

end VisionService

end StudyOasis
