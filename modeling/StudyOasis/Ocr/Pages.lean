import StudyOasis.Ocr.Vision

/-!
# Page numbers

The pages of a PDF, the output files the recognition writes for them (one for each page, named
after its number), and the rows that `extractPdfFromGcs` saves.  The rows are numbered in the
order of the file names, and pages without text are not counted.  So the numbers are those of the
PDF exactly when the pages with text come first, and putting them in the order of the file names
changes nothing (`saved_pages_iff`); up to nine pages it never does (`inNameOrder_eq_self`).
-/

namespace StudyOasis

/-- A page of a PDF as the recognition sees it: nothing, or a text that is not blank and the page
with its blocks. -/
structure PdfPage where
  recognized : Option (JsString × VisionPage)
  not_blank : ∀ r ∈ recognized, trim r.1 ≠ []

namespace PdfPage

/-- The response for the page; a page without text has no `fullTextAnnotation`. -/
def response (page : PdfPage) : AnnotateImageResponse :=
  { fullTextAnnotation := page.recognized.map fun r => { text := some r.1, pages := some [r.2] } }

/-- The page has text. -/
def hasText (page : PdfPage) : Bool := page.recognized.isSome

/-- The text of the page: its blocks, or else the text of the whole response. -/
def content (page : PdfPage) : JsString :=
  match page.recognized with
  | none => []
  | some (text, visionPage) =>
    let pageText := VisionService.extractPageText visionPage
    if pageText ≠ [] then pageText else text

/-- What the page adds to the full text. -/
def line (page : PdfPage) : JsString :=
  match page.recognized with
  | none => []
  | some (text, _) => trim text ++ js "\n"

end PdfPage

/-- The name of the output file of page `i`. -/
def outputName (documentId : String) (i : ℕ) : List Char :=
  ("ocr-output/" ++ documentId ++ "/output-").toList ++
    (Nat.toDigits 10 i ++ ("-to-".toList ++ (Nat.toDigits 10 i ++ ".json".toList)))

/-- The pages under the names of their output files. -/
def named (documentId : String) (pages : List PdfPage) : List (List Char × PdfPage) :=
  (pages.zipIdx 1).map fun p => (outputName documentId p.2, p.1)

/-- The output file of a page. -/
def outputFile (p : List Char × PdfPage) : OutputFile := ⟨p.1, some [p.2.response]⟩

/-- The output files of a PDF. -/
def outputFiles (documentId : String) (pdf : List PdfPage) : List OutputFile :=
  (named documentId pdf).map outputFile

/-- The pages in the order of their file names. -/
def inNameOrder (documentId : String) (pages : List PdfPage) : List PdfPage :=
  (orderByAsc (·.1) (named documentId pages)).map (·.2)

/-! ### Names -/

theorem dash_not_mem_digits (i : ℕ) : '-' ∉ Nat.toDigits 10 i := by
  intro h
  have := Nat.isDigit_of_mem_toDigits (by decide) (by decide) h
  revert this
  decide

theorem eq_of_append_dash {a b s t : List Char} (ha : '-' ∉ a) (hb : '-' ∉ b)
    (h : a ++ '-' :: s = b ++ '-' :: t) : a = b := by
  rcases List.append_eq_append_iff.1 h with ⟨c, rfl, hc⟩ | ⟨c, rfl, hc⟩
  · cases c with
    | nil => simp
    | cons x c =>
      obtain rfl := (List.cons.inj hc).1
      exact absurd (by simp) hb
  · cases c with
    | nil => simp
    | cons x c =>
      obtain rfl := (List.cons.inj hc).1
      exact absurd (by simp) ha

theorem outputName_injective (documentId : String) :
    Function.Injective (outputName documentId) := by
  intro i j h
  have hdigits : Nat.toDigits 10 i = Nat.toDigits 10 j :=
    eq_of_append_dash (dash_not_mem_digits i) (dash_not_mem_digits j)
      (List.append_cancel_left h)
  exact toDigits_injective hdigits

theorem distinct_named (documentId : String) (pages : List PdfPage) :
    DistinctKeys (·.1) (named documentId pages) := by
  rintro _ ha _ hb h
  obtain ⟨⟨p, i⟩, hp, rfl⟩ := List.mem_map.1 ha
  obtain ⟨⟨q, j⟩, hq, rfl⟩ := List.mem_map.1 hb
  obtain rfl : i = j := outputName_injective documentId h
  rw [List.mem_zipIdx_iff_le_and_getElem?_sub] at hp hq
  obtain rfl : p = q := Option.some.inj (hp.2.symm.trans hq.2)
  rfl

theorem append_le_append_left (p : List Char) {a b : List Char} (h : a ≤ b) : p ++ a ≤ p ++ b := by
  induction p with
  | nil => exact h
  | cons c p ih => exact List.cons_le_cons c ih

theorem outputName_le {documentId : String} {i j : ℕ} (hij : i ≤ j) (hj : j ≤ 9) :
    outputName documentId i ≤ outputName documentId j := by
  refine append_le_append_left _ ?_
  have hdigits : ∀ i < 10, ∀ j < 10, i ≤ j →
      Nat.toDigits 10 i ++ ("-to-".toList ++ (Nat.toDigits 10 i ++ ".json".toList)) ≤
        Nat.toDigits 10 j ++ ("-to-".toList ++ (Nat.toDigits 10 j ++ ".json".toList)) := by
    decide
  exact hdigits i (by omega) j (by omega) hij

theorem map_snd_named (documentId : String) (pages : List PdfPage) :
    (named documentId pages).map (·.2) = pages := by
  rw [named, List.map_map]
  exact List.zipIdx_map_fst 1 pages

/-- Up to nine pages the order of the names is the order of the pages. -/
theorem inNameOrder_eq_self (documentId : String) {pages : List PdfPage} (h : pages.length ≤ 9) :
    inNameOrder documentId pages = pages := by
  have hsorted : (named documentId pages).Pairwise fun a b => a.1 ≤ b.1 := by
    rw [List.pairwise_iff_getElem]
    intro i j hi hj hij
    simp only [named, List.length_map, List.length_zipIdx] at hi hj
    simp only [named, List.getElem_map, List.getElem_zipIdx]
    exact outputName_le (by omega) (by omega)
  rw [inNameOrder, orderByAsc_eq_self hsorted, map_snd_named]

theorem inNameOrder_perm (documentId : String) (pages : List PdfPage) :
    (inNameOrder documentId pages).Perm pages := by
  have h : (orderByAsc (·.1) (named documentId pages)).Perm (named documentId pages) :=
    orderByAsc_perm
  have hsnd := h.map (·.2)
  rwa [map_snd_named] at hsnd

/-! ### What is saved -/

/-- The page contents that are saved for the pages in the order they are read. -/
def numberedContents (k : ℕ) (pages : List PdfPage) : List PageContent :=
  (((pages.filter PdfPage.hasText).map PdfPage.content).zipIdx k).map fun p => ⟨p.2, p.1⟩

theorem numberedContents_append (k : ℕ) (ps qs : List PdfPage) :
    numberedContents k (ps ++ qs) =
      numberedContents k ps ++ numberedContents (k + (ps.filter PdfPage.hasText).length) qs := by
  simp [numberedContents, List.zipIdx_append]

namespace VisionService

theorem readPage_eq (ann : FullTextAnnotation) (st : Extraction) (page : VisionPage) :
    (readPage ann st page).fullText = st.fullText ∧
      (readPage ann st page).pageContents = st.pageContents ++ [⟨st.nextPageNumber,
        if extractPageText page ≠ [] then extractPageText page else ann.text.getD []⟩] ∧
      (readPage ann st page).nextPageNumber = st.nextPageNumber + 1 := by
  unfold readPage
  cases page.confidence with
  | none => exact ⟨rfl, rfl, rfl⟩
  | some c =>
    by_cases hc : c = 0
    · simp [hc]
    · simp [hc]

/-- One page, as the loop over the files reads it. -/
theorem readFile_outputFile (st : Extraction) (name : List Char) (page : PdfPage) :
    (readFile st (outputFile (name, page))).fullText = st.fullText ++ page.line ∧
      (readFile st (outputFile (name, page))).pageContents =
        st.pageContents ++ numberedContents st.nextPageNumber [page] ∧
      (readFile st (outputFile (name, page))).nextPageNumber =
        st.nextPageNumber + ([page].filter PdfPage.hasText).length := by
  obtain ⟨recognized, hblank⟩ := page
  cases recognized with
  | none => simp [readFile, outputFile, PdfPage.response, readResponse, PdfPage.line,
      numberedContents, PdfPage.hasText]
  | some r =>
    obtain ⟨text, visionPage⟩ := r
    have htext : text ≠ [] := by
      rintro rfl
      exact hblank ([], visionPage) rfl rfl
    obtain ⟨h1, h2, h3⟩ := readPage_eq { text := some text, pages := some [visionPage] }
      { st with
        fullText := st.fullText ++ trim text ++ js "\n"
        totalPages := st.totalPages + 1 } visionPage
    simp only [readFile, outputFile, PdfPage.response, Option.map_some, Option.getD_some,
      List.foldl_cons, List.foldl_nil, readResponse, htext, ne_eq, not_false_eq_true, if_true,
      List.length_cons, List.length_nil]
    refine ⟨?_, ?_, ?_⟩
    · rw [h1, PdfPage.line, List.append_assoc]
    · exact h2
    · exact h3

/-- All pages, in the order they are read. -/
theorem foldl_readFile (st : Extraction) (ps : List (List Char × PdfPage)) :
    ((ps.map outputFile).foldl readFile st).fullText =
        st.fullText ++ (ps.map (·.2)).flatMap PdfPage.line ∧
      ((ps.map outputFile).foldl readFile st).pageContents =
        st.pageContents ++ numberedContents st.nextPageNumber (ps.map (·.2)) := by
  induction ps generalizing st with
  | nil => simp [numberedContents]
  | cons p ps ih =>
    obtain ⟨h1, h2, h3⟩ := readFile_outputFile st p.1 p.2
    obtain ⟨k1, k2⟩ := ih (readFile st (outputFile p))
    rw [List.map_cons, List.foldl_cons, k1, k2, h1, h2, h3]
    refine ⟨by simp, ?_⟩
    rw [List.append_assoc, List.map_cons, ← List.singleton_append (l := ps.map (·.2)),
      numberedContents_append]

/-- The sorted files are the files of the pages in the order of the names. -/
theorem orderByAsc_files {documentId : String} {pdf : List PdfPage} {files : List OutputFile}
    (h : files.Perm (outputFiles documentId pdf)) :
    orderByAsc (·.name) files = (orderByAsc (·.1) (named documentId pdf)).map outputFile := by
  have hd : DistinctKeys (·.name) (outputFiles documentId pdf) := by
    rintro _ ha _ hb heq
    obtain ⟨a, ha', rfl⟩ := List.mem_map.1 ha
    obtain ⟨b, hb', rfl⟩ := List.mem_map.1 hb
    rw [distinct_named documentId pdf a ha' b hb' heq]
  rw [orderByAsc_eq_of_perm hd h, outputFiles]
  exact (map_orderByAsc fun _ => rfl).symm

/-- **What a successful extraction gives.** -/
theorem extractPdfFromGcs_ok {db db' : OcrDb} {documentId : String} {pdf : List PdfPage}
    {files : List OutputFile} {r : OcrResult} (hf : files.Perm (outputFiles documentId pdf))
    (h : extractPdfFromGcs db documentId files = .ok (r, db')) :
    r.fullText = trim ((inNameOrder documentId pdf).flatMap PdfPage.line) ∧
      db'.ocrPage = db.ocrPage.filter (·.documentId ≠ documentId) ++
        (numberedContents 1 (inNameOrder documentId pdf)).map fun page =>
          ⟨documentId, page.pageNumber, page.content⟩ := by
  obtain ⟨htext, hpages⟩ := foldl_readFile {} (orderByAsc (·.1) (named documentId pdf))
  unfold extractPdfFromGcs at h
  rw [orderByAsc_files hf] at h
  split at h
  · cases h
  simp only at h
  split at h
  · cases h
  obtain ⟨rfl, rfl⟩ := Prod.mk.inj (Except.ok.inj h)
  simp only [htext, persistOcrArtifacts, saveOcrPages, saveOcrResult, hpages, List.nil_append]
  exact ⟨rfl, rfl⟩

/-- The extraction succeeds when a page has text. -/
theorem exists_extractPdfFromGcs {documentId : String} {pdf : List PdfPage}
    {files : List OutputFile} (hf : files.Perm (outputFiles documentId pdf)) (db : OcrDb)
    (htext : ∃ page ∈ pdf, page.hasText = true) :
    ∃ r db', extractPdfFromGcs db documentId files = .ok (r, db') := by
  obtain ⟨page, hpage, hhas⟩ := htext
  -- there is a file for the page, and its text is not blank
  have hfiles : files ≠ [] := by
    rintro rfl
    have hnil : outputFiles documentId pdf = [] := List.nil_perm.1 hf
    rw [outputFiles, named, List.map_map, List.map_eq_nil_iff] at hnil
    have hlen := congrArg List.length hnil
    rw [List.length_zipIdx, List.length_nil] at hlen
    rw [List.eq_nil_of_length_eq_zero hlen] at hpage
    cases hpage
  have hline : ¬ ∀ c ∈ page.line, isSpace c = true := by
    obtain ⟨recognized, hblank⟩ := page
    cases recognized with
    | none => cases hhas
    | some r =>
      intro hall
      exact trim_trim_ne_nil (hblank r rfl) fun c hc => hall c (List.mem_append_left _ hc)
  have htrim : trim ((inNameOrder documentId pdf).flatMap PdfPage.line) ≠ [] := by
    rw [ne_eq, trim_eq_nil_iff]
    intro hall
    refine hline fun c hc => hall c (List.mem_flatMap.2 ⟨page, ?_, hc⟩)
    exact (inNameOrder_perm documentId pdf).mem_iff.2 hpage
  obtain ⟨hfull, -⟩ := foldl_readFile {} (orderByAsc (·.1) (named documentId pdf))
  rw [List.nil_append] at hfull
  rw [inNameOrder] at htrim
  unfold extractPdfFromGcs
  rw [if_neg hfiles, orderByAsc_files hf]
  simp only
  rw [hfull, if_neg htrim]
  exact ⟨_, _, rfl⟩

end VisionService

/-! ### When the numbers are right -/

/-- The rows saved for the document carry the texts of the pages with their numbers, and the full
text lists the texts in page order. -/
def PagesMatch (documentId : String) (pdf : List PdfPage) (r : OcrResult) (db : OcrDb) : Prop :=
  (∀ row ∈ db.ocrPage, row.documentId = documentId →
    1 ≤ row.pageNumber ∧
      ∃ page, pdf[row.pageNumber - 1]? = some page ∧ row.content = page.content) ∧
    r.fullText = trim (pdf.flatMap PdfPage.line)

theorem PdfPage.content_ne_nil {page : PdfPage} (h : page.hasText = true) : page.content ≠ [] := by
  obtain ⟨recognized, hblank⟩ := page
  cases recognized with
  | none => cases h
  | some r =>
    obtain ⟨text, visionPage⟩ := r
    simp only [content]
    split_ifs with hpage
    · exact hpage
    · rintro rfl
      exact hblank ([], visionPage) rfl rfl

theorem PdfPage.recognized_eq_none {page : PdfPage} (h : page.hasText = false) :
    page.recognized = none := Option.isSome_eq_false_iff.1 h |> Option.isNone_iff_eq_none.1

theorem PdfPage.content_eq_nil {page : PdfPage} (h : page.hasText = false) : page.content = [] := by
  rw [content, recognized_eq_none h]

theorem PdfPage.line_eq_nil {page : PdfPage} (h : page.hasText = false) : page.line = [] := by
  rw [line, recognized_eq_none h]

/-- Pages without text add nothing to the full text. -/
theorem flatMap_line_filter (pages : List PdfPage) :
    (pages.filter PdfPage.hasText).flatMap PdfPage.line = pages.flatMap PdfPage.line := by
  induction pages with
  | nil => rfl
  | cons p ps ih =>
    cases hp : p.hasText with
    | true => rw [List.filter_cons_of_pos hp, List.flatMap_cons, List.flatMap_cons, ih]
    | false =>
      rw [List.filter_cons_of_neg (by simp [hp]), List.flatMap_cons, PdfPage.line_eq_nil hp, ih,
        List.nil_append]

/-- The pages with text come first. -/
def TextFirst (pdf : List PdfPage) : Prop :=
  ∀ page ∈ pdf.take (pdf.filter PdfPage.hasText).length, page.hasText = true

instance (pdf : List PdfPage) : Decidable (TextFirst pdf) :=
  inferInstanceAs (Decidable (∀ page ∈ pdf.take (pdf.filter PdfPage.hasText).length,
    page.hasText = true))

/-- A PDF whose pages with text come first. -/
theorem TextFirst.eq_append {pdf : List PdfPage} (h : TextFirst pdf) :
    ∃ blank, pdf = pdf.filter PdfPage.hasText ++ blank ∧ ∀ page ∈ blank, page.hasText = false := by
  have hle : (pdf.filter PdfPage.hasText).length ≤ pdf.length := List.length_filter_le ..
  unfold TextFirst at h
  generalize hm : (pdf.filter PdfPage.hasText).length = m at h hle
  have hsplit : pdf.filter PdfPage.hasText =
      pdf.take m ++ (pdf.drop m).filter PdfPage.hasText := by
    conv_lhs => rw [← List.take_append_drop m pdf, List.filter_append, List.filter_eq_self.2 h]
  have hnil : (pdf.drop m).filter PdfPage.hasText = [] := by
    have hlen := congrArg List.length hsplit
    rw [hm, List.length_append, List.length_take_of_le hle] at hlen
    exact List.eq_nil_of_length_eq_zero (by omega)
  refine ⟨pdf.drop m, ?_, ?_⟩
  · rw [hsplit, hnil, List.append_nil, List.take_append_drop]
  · simpa using hnil

/-- When the pages with text come first, the others do not move them. -/
theorem filter_inNameOrder (documentId : String) {pdf : List PdfPage} (h : TextFirst pdf) :
    (inNameOrder documentId pdf).filter PdfPage.hasText =
      inNameOrder documentId (pdf.filter PdfPage.hasText) := by
  obtain ⟨blank, hpdf, hblank⟩ := h.eq_append
  -- the pages with text have the numbers that they have without the others
  have hnamed : (named documentId pdf).filter (fun p => p.2.hasText) =
      named documentId (pdf.filter PdfPage.hasText) := by
    have happ : named documentId pdf = named documentId (pdf.filter PdfPage.hasText) ++
        (blank.zipIdx (1 + (pdf.filter PdfPage.hasText).length)).map
          fun p => (outputName documentId p.2, p.1) := by
      conv_lhs => rw [hpdf, named, List.zipIdx_append, List.map_append]
      rfl
    have hkeep : ∀ p ∈ named documentId (pdf.filter PdfPage.hasText), p.2.hasText = true := by
      intro p hp
      have hmem : p.2 ∈ (named documentId (pdf.filter PdfPage.hasText)).map (·.2) :=
        List.mem_map_of_mem hp
      rw [map_snd_named] at hmem
      exact (List.mem_filter.1 hmem).2
    have hdrop : ∀ p ∈ (blank.zipIdx (1 + (pdf.filter PdfPage.hasText).length)).map
        (fun p => (outputName documentId p.2, p.1)), ¬ p.2.hasText = true := by
      intro p hp
      obtain ⟨⟨q, i⟩, hq, rfl⟩ := List.mem_map.1 hp
      simpa using hblank q (List.fst_mem_of_mem_zipIdx hq)
    rw [happ, List.filter_append, List.filter_eq_self.2 hkeep, List.filter_eq_nil_iff.2 hdrop,
      List.append_nil]
  rw [inNameOrder, List.filter_map, Function.comp_def,
    orderByAsc_filter (distinct_named documentId pdf), hnamed]
  rfl

/-- The rows are right when each carries the text of the page with its number. -/
theorem numbered_iff {pdf : List PdfPage} {cs : List JsString} :
    (∀ row ∈ (cs.zipIdx 1).map fun p => PageContent.mk p.2 p.1, 1 ≤ row.pageNumber ∧
      ∃ page, pdf[row.pageNumber - 1]? = some page ∧ row.content = page.content) ↔
      ∀ (i : ℕ) c, cs[i]? = some c → ∃ page, pdf[i]? = some page ∧ c = page.content := by
  constructor
  · intro h i c hc
    have hmem : PageContent.mk (i + 1) c ∈ (cs.zipIdx 1).map fun p => PageContent.mk p.2 p.1 :=
      List.mem_map.2 ⟨(c, i + 1), List.mem_zipIdx_iff_le_and_getElem?_sub.2 ⟨by simp, hc⟩, rfl⟩
    exact (h _ hmem).2
  · intro h row hrow
    obtain ⟨⟨c, k⟩, hp, rfl⟩ := List.mem_map.1 hrow
    obtain ⟨hk, hc⟩ := List.mem_zipIdx_iff_le_and_getElem?_sub.1 hp
    exact ⟨hk, h (k - 1) c hc⟩

/-- The contents of the pages with text, in the order they are read. -/
def readContents (documentId : String) (pdf : List PdfPage) : List JsString :=
  ((inNameOrder documentId pdf).filter PdfPage.hasText).map PdfPage.content

theorem length_readContents (documentId : String) (pdf : List PdfPage) :
    (readContents documentId pdf).length = (pdf.filter PdfPage.hasText).length := by
  rw [readContents, List.length_map]
  exact ((inNameOrder_perm documentId pdf).filter _).length_eq

/-- Rows with the right numbers come from a PDF whose pages with text come first. -/
theorem textFirst_of_rows {documentId : String} {pdf : List PdfPage}
    (h : ∀ (i : ℕ) c, (readContents documentId pdf)[i]? = some c →
      ∃ page, pdf[i]? = some page ∧ c = page.content) : TextFirst pdf := by
  intro page hpage
  obtain ⟨i, hi, hget⟩ := List.getElem_of_mem hpage
  rw [List.length_take, ← length_readContents documentId] at hi
  have hlt : i < (readContents documentId pdf).length := by omega
  obtain ⟨page', hpage', hc⟩ := h i _ (List.getElem?_eq_getElem hlt)
  rw [List.getElem_take] at hget
  obtain rfl : page = page' := by
    rw [← hget]
    exact Option.some.inj ((List.getElem?_eq_getElem _).symm.trans hpage')
  -- a page without text has no content, but everything that is read has some
  by_contra hno
  have hmem : (readContents documentId pdf)[i] ∈ readContents documentId pdf := List.getElem_mem hlt
  obtain ⟨q, hq, hqc⟩ := List.mem_map.1 hmem
  have hnil : page.content = [] := PdfPage.content_eq_nil (by simpa using hno)
  rw [hc, hnil] at hqc
  exact PdfPage.content_ne_nil (List.mem_filter.1 hq).2 hqc

/-- When the pages with text come first, the rows are right exactly when the order of the names
does not change the texts. -/
theorem rows_iff {documentId : String} {pdf : List PdfPage} (h : TextFirst pdf) :
    (∀ (i : ℕ) c, (readContents documentId pdf)[i]? = some c →
      ∃ page, pdf[i]? = some page ∧ c = page.content) ↔
      readContents documentId pdf = (pdf.filter PdfPage.hasText).map PdfPage.content := by
  obtain ⟨blank, hpdf, -⟩ := h.eq_append
  have hget {i : ℕ} (hi : i < (readContents documentId pdf).length) :
      ((pdf.filter PdfPage.hasText).map PdfPage.content)[i]? = pdf[i]?.map PdfPage.content := by
    rw [length_readContents] at hi
    conv_rhs => rw [hpdf]
    rw [List.getElem?_append_left hi, List.getElem?_map]
  constructor
  · intro hrows
    refine List.ext_getElem? ?_
    intro i
    by_cases hi : i < (readContents documentId pdf).length
    · obtain ⟨page, hpage, hc⟩ := hrows i _ (List.getElem?_eq_getElem hi)
      rw [hget hi, hpage, List.getElem?_eq_getElem hi, hc]
      rfl
    · have hi' : ((pdf.filter PdfPage.hasText).map PdfPage.content).length ≤ i := by
        rw [List.length_map, ← length_readContents documentId]
        omega
      rw [List.getElem?_eq_none (by omega), List.getElem?_eq_none hi']
  · intro heq i c hc
    have hi : i < (readContents documentId pdf).length := (List.getElem?_eq_some_iff.1 hc).1
    rw [heq, hget hi] at hc
    obtain ⟨page, hpage, rfl⟩ := Option.map_eq_some_iff.1 hc
    exact ⟨page, hpage, rfl⟩

/-- A successful extraction is right when its rows are and its full text is in page order. -/
theorem pagesMatch_iff {db db' : OcrDb} {documentId : String} {pdf : List PdfPage}
    {files : List OutputFile} {r : OcrResult} (hf : files.Perm (outputFiles documentId pdf))
    (h : VisionService.extractPdfFromGcs db documentId files = .ok (r, db')) :
    PagesMatch documentId pdf r db' ↔
      (∀ (i : ℕ) c, (readContents documentId pdf)[i]? = some c →
        ∃ page, pdf[i]? = some page ∧ c = page.content) ∧
      trim ((inNameOrder documentId pdf).flatMap PdfPage.line) =
        trim (pdf.flatMap PdfPage.line) := by
  obtain ⟨hfull, hrows⟩ := VisionService.extractPdfFromGcs_ok hf h
  rw [PagesMatch, hfull, ← numbered_iff]
  refine and_congr_left ?_
  intro _
  constructor
  · intro hall page hpage
    refine hall ⟨documentId, page.pageNumber, page.content⟩ ?_ rfl
    rw [hrows]
    exact List.mem_append_right _ (List.mem_map_of_mem hpage)
  · intro hall row hrow hdoc
    rw [hrows, List.mem_append] at hrow
    rcases hrow with hold | hnew
    · exact absurd hdoc (by simpa using (List.mem_filter.1 hold).2)
    · obtain ⟨page, hpage, rfl⟩ := List.mem_map.1 hnew
      exact hall page hpage

/-- **When the saved page numbers are those of the PDF.**  The rows carry the texts of the pages
with their numbers, and the full text is in page order, exactly when the pages with text come
first and the order of the file names changes neither their texts nor the full text. -/
theorem saved_pages_iff {db : OcrDb} {documentId : String} {pdf : List PdfPage}
    {files : List OutputFile} (hf : files.Perm (outputFiles documentId pdf)) :
    (∀ r db', VisionService.extractPdfFromGcs db documentId files = .ok (r, db') →
        PagesMatch documentId pdf r db') ↔
      TextFirst pdf ∧
        (inNameOrder documentId (pdf.filter PdfPage.hasText)).map PdfPage.content =
          (pdf.filter PdfPage.hasText).map PdfPage.content ∧
        trim ((inNameOrder documentId (pdf.filter PdfPage.hasText)).flatMap PdfPage.line) =
          trim ((pdf.filter PdfPage.hasText).flatMap PdfPage.line) := by
  have hcontents (hfirst : TextFirst pdf) : readContents documentId pdf =
      (inNameOrder documentId (pdf.filter PdfPage.hasText)).map PdfPage.content := by
    rw [readContents, filter_inNameOrder documentId hfirst]
  have hlines (hfirst : TextFirst pdf) : (inNameOrder documentId pdf).flatMap PdfPage.line =
      (inNameOrder documentId (pdf.filter PdfPage.hasText)).flatMap PdfPage.line := by
    rw [← flatMap_line_filter, filter_inNameOrder documentId hfirst]
  constructor
  · intro h
    by_cases htext : ∃ page ∈ pdf, page.hasText = true
    · obtain ⟨r, db', hok⟩ := VisionService.exists_extractPdfFromGcs hf db htext
      obtain ⟨hrows, hline⟩ := (pagesMatch_iff hf hok).1 (h r db' hok)
      have hfirst : TextFirst pdf := textFirst_of_rows hrows
      refine ⟨hfirst, ?_, ?_⟩
      · rw [← hcontents hfirst]
        exact (rows_iff hfirst).1 hrows
      · rw [← hlines hfirst, flatMap_line_filter]
        exact hline
    · have hnone : pdf.filter PdfPage.hasText = [] := by simpa using htext
      rw [TextFirst, hnone]
      exact ⟨by simp, rfl, rfl⟩
  · rintro ⟨hfirst, hsame, hline⟩ r db' hok
    refine (pagesMatch_iff hf hok).2 ⟨(rows_iff hfirst).2 ?_, ?_⟩
    · rw [hcontents hfirst, hsame]
    · rw [hlines hfirst, hline, flatMap_line_filter]

/-- A page with nothing but a text. -/
def textPage (text : String) (h : trim (js text) ≠ []) : PdfPage :=
  { recognized := some (js text, {})
    not_blank := by
      rintro r hr
      obtain rfl := Option.some.inj hr
      exact h }

/-- A page without text. -/
def blankPage : PdfPage := { recognized := none, not_blank := fun _ hr => nomatch hr }

/-- A page with text and a blank one behind it. -/
theorem saved_pages_iff_short :
    let pdf := [textPage "a" (by decide), blankPage]
    ∀ r db', VisionService.extractPdfFromGcs ⟨[], []⟩ "d" (outputFiles "d" pdf) = .ok (r, db') →
      PagesMatch "d" pdf r db' := by
  intro pdf
  have hshort : inNameOrder "d" (pdf.filter PdfPage.hasText) = pdf.filter PdfPage.hasText :=
    inNameOrder_eq_self "d" (by decide)
  refine (saved_pages_iff (List.Perm.refl _)).2 ⟨?_, ?_, ?_⟩
  · decide
  · rw [hshort]
  · rw [hshort]

/-- The text behind a blank page is saved as the text of the blank page. -/
theorem saved_pages_shifted :
    ¬ ∀ (db : OcrDb) (documentId : String) (pdf : List PdfPage) (files : List OutputFile),
      files.Perm (outputFiles documentId pdf) →
      ∀ r db', VisionService.extractPdfFromGcs db documentId files = .ok (r, db') →
        PagesMatch documentId pdf r db' := by
  intro h
  let pdf := [blankPage, textPage "a" (by decide)]
  obtain ⟨r, db', hok⟩ := VisionService.exists_extractPdfFromGcs
    (List.Perm.refl (outputFiles "d" pdf)) ⟨[], []⟩ ⟨textPage "a" (by decide), by simp [pdf], rfl⟩
  obtain ⟨hrows, -⟩ := (pagesMatch_iff (List.Perm.refl _) hok).1
    (h _ _ _ _ (List.Perm.refl _) r db' hok)
  have hfirst : TextFirst pdf := textFirst_of_rows hrows
  revert hfirst
  decide

end StudyOasis
