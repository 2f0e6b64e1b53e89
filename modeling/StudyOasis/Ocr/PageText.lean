import Mathlib.Algebra.Order.BigOperators.Group.List
import Mathlib.Algebra.Order.Field.Basic
import Mathlib.Algebra.Order.Ring.Rat
import StudyOasis.Ocr.Artifacts
import StudyOasis.Text.Visible
import StudyOasis.Upload.Filename

/-!
# The text of a page

`extractPageText` walks through the blocks, paragraphs, words and symbols of a page, trims and joins
on the way and leaves empty parts out.  `extractTextFromBuffer` saves one such text for each page of
a picture.

* `visible_extractPageText` : **no character of a page is lost, made up or moved**;
* `pagesOf_readPicture` : and none of the pages of a picture, either.
-/

namespace StudyOasis

/-! ### The symbols of a page -/

/-- The text of a word. -/
def VisionWord.glyphs (word : VisionWord) : JsString :=
  (word.symbols.getD []).flatMap (·.text)

/-- The texts of the symbols of a page, in reading order. -/
def VisionPage.glyphs (page : VisionPage) : JsString :=
  (page.blocks.getD []).flatMap fun block =>
    (block.paragraphs.getD []).flatMap fun paragraph =>
      (paragraph.words.getD []).flatMap VisionWord.glyphs

namespace VisionService

theorem visible_flatMap {α : Type} (l : List α) (f : α → JsString) :
    visible (l.flatMap f) = l.flatMap fun a => visible (f a) := by
  rw [List.flatMap_def, visible_flatten, List.flatMap_map]

theorem visible_extractText (words : List VisionWord) :
    visible (extractText words) = visible (words.flatMap VisionWord.glyphs) := by
  rw [extractText, visible_intercalate rfl, List.flatMap_map, visible_flatMap]
  congr 1
  funext word
  cases hword : word.symbols with
  | none => rw [VisionWord.glyphs, hword, Option.getD_none, List.flatMap_nil]
  | some symbols => rw [VisionWord.glyphs, hword, Option.getD_some, List.flatMap_def]

/-- **No character of a page is lost, made up or moved**: its text shows what its symbols show. -/
theorem visible_extractPageText (page : VisionPage) :
    visible (extractPageText page) = visible page.glyphs := by
  cases hblocks : page.blocks with
  | none => rw [extractPageText, hblocks, VisionPage.glyphs, hblocks, Option.getD_none]; rfl
  | some blocks =>
    have htext : extractPageText page = trim (List.intercalate (js "\n\n") ((blocks.map fun block =>
        List.intercalate (js "\n") (((block.paragraphs.getD []).map fun paragraph =>
          trim (extractText (paragraph.words.getD []))).filter (· ≠ []))).filter (· ≠ []))) := by
      rw [extractPageText, hblocks]
    rw [htext, visible_trim, visible_intercalate rfl, flatMap_visible_filter, List.flatMap_map,
      VisionPage.glyphs, hblocks, Option.getD_some, visible_flatMap]
    congr 1
    funext block
    rw [visible_intercalate rfl, flatMap_visible_filter, List.flatMap_map, visible_flatMap]
    congr 1
    funext paragraph
    rw [visible_trim, visible_extractText]

/-- A page without text is one whose symbols are blank. -/
theorem trim_extractPageText_eq_nil_iff (page : VisionPage) :
    trim (extractPageText page) = [] ↔ visible page.glyphs = [] := by
  rw [← visible_eq_nil_iff_trim, visible_extractPageText]

/-! ### Pictures -/

/-- The confidences of the words on the pages. -/
def wordConfidences (pages : List VisionPage) : List ℚ :=
  pages.flatMap fun page =>
    (page.blocks.getD []).flatMap fun block =>
      (block.paragraphs.getD []).flatMap fun paragraph =>
        (paragraph.words.getD []).filterMap (·.confidence)

/-- `VisionService.calculateConfidence`. -/
def calculateConfidence (pages : List VisionPage) : ℚ :=
  let confidences := wordConfidences pages
  if confidences.length > 0 then confidences.sum / confidences.length else 0

/-- The languages that were detected on the pages. -/
def languageCodes (pages : List VisionPage) : List String :=
  pages.flatMap fun page =>
    ((page.property.bind (·.detectedLanguages)).getD []).map (·.languageCode)

/-- `languageCounts[code] = (languageCounts[code] || 0) + 1`. -/
def countLanguage (counts : List (String × ℕ)) (code : String) : List (String × ℕ) :=
  if code ∈ counts.map Prod.fst then
    counts.map fun entry => if entry.1 = code then (code, entry.2 + 1) else entry
  else counts ++ [(code, 1)]

/-- `VisionService.detectLanguage`. -/
def detectLanguage (pages : List VisionPage) : String :=
  match orderByDesc Prod.snd ((languageCodes pages).foldl countLanguage []) with
  | [] => "unknown"
  | entry :: _ => entry.1

/-- The counts of the codes so far. -/
theorem mem_foldl_countLanguage (codes : List String) {code : String} {n : ℕ} :
    (code, n) ∈ codes.foldl countLanguage [] ↔ 0 < n ∧ codes.count code = n := by
  induction codes using List.reverseRecOn generalizing code n with
  | nil => simp only [List.foldl_nil, List.not_mem_nil, List.count_nil, false_iff]; omega
  | append_singleton codes last ih =>
    rw [List.foldl_append, List.foldl_cons, List.foldl_nil, List.count_append, countLanguage]
    have hkeys : last ∈ (codes.foldl countLanguage []).map Prod.fst ↔ 0 < codes.count last := by
      rw [List.mem_map]
      constructor
      · rintro ⟨⟨k, m⟩, hm, rfl⟩
        obtain ⟨hpos, hcount⟩ := ih.1 hm
        rwa [hcount]
      · exact fun hpos => ⟨(last, codes.count last), ih.2 ⟨hpos, rfl⟩, rfl⟩
    have hother (hcode : code ≠ last) : [last].count code = 0 :=
      List.count_eq_zero.2 fun hmem => hcode (List.mem_singleton.1 hmem)
    by_cases hlast : 0 < codes.count last
    · rw [if_pos (hkeys.2 hlast), List.mem_map]
      by_cases hcode : code = last
      · subst hcode
        rw [List.count_singleton_self]
        constructor
        · rintro ⟨⟨k, m⟩, hm, heq⟩
          obtain ⟨-, hcount⟩ := ih.1 hm
          split_ifs at heq with hk
          · obtain ⟨-, rfl⟩ := Prod.mk.inj heq
            exact ⟨Nat.succ_pos m, by rw [← hk, hcount]⟩
          · exact absurd (Prod.mk.inj heq).1 hk
        · rintro ⟨-, rfl⟩
          exact ⟨_, ih.2 ⟨hlast, rfl⟩, if_pos rfl⟩
      · rw [hother hcode, Nat.add_zero, ← ih]
        constructor
        · rintro ⟨⟨k, m⟩, hm, heq⟩
          split_ifs at heq with hk
          · exact absurd (Prod.mk.inj heq).1.symm hcode
          · exact heq ▸ hm
        · exact fun hmem => ⟨_, hmem, if_neg hcode⟩
    · rw [if_neg (fun hmem => hlast (hkeys.1 hmem)), List.mem_append, List.mem_singleton, ih]
      by_cases hcode : code = last
      · subst hcode
        rw [List.count_singleton_self, Prod.mk.injEq, eq_self_iff_true, true_and]
        omega
      · rw [hother hcode, Nat.add_zero, Prod.mk.injEq]
        exact or_iff_left fun h => hcode h.1

/-- **The language of a picture** is one that is detected most often. -/
theorem detectLanguage_spec {pages : List VisionPage} (h : languageCodes pages ≠ []) :
    detectLanguage pages ∈ languageCodes pages ∧
      ∀ code, (languageCodes pages).count code ≤
        (languageCodes pages).count (detectLanguage pages) := by
  rw [detectLanguage]
  generalize languageCodes pages = codes at h ⊢
  have hmem (entry : String × ℕ) : entry ∈ orderByDesc Prod.snd (codes.foldl countLanguage []) ↔
      0 < entry.2 ∧ codes.count entry.1 = entry.2 :=
    orderByDesc_perm.mem_iff.trans (mem_foldl_countLanguage codes)
  have hsorted := @orderByDesc_pairwise _ _ _ Prod.snd (codes.foldl countLanguage [])
  cases hlist : orderByDesc Prod.snd (codes.foldl countLanguage []) with
  | nil =>
    obtain ⟨code, hcode⟩ := List.exists_mem_of_ne_nil codes h
    have hin := (hmem (code, codes.count code)).2 ⟨List.count_pos_iff.2 hcode, rfl⟩
    rw [hlist] at hin
    exact absurd hin List.not_mem_nil
  | cons entry rest =>
    rw [hlist] at hmem hsorted
    obtain ⟨hpos, hcount⟩ := (hmem entry).1 List.mem_cons_self
    refine ⟨List.count_pos_iff.1 (hcount ▸ hpos), fun code => ?_⟩
    show codes.count code ≤ codes.count entry.1
    rw [hcount]
    rcases Nat.eq_zero_or_pos (codes.count code) with hzero | hcode
    · rw [hzero]
      exact Nat.zero_le _
    · have hin := (hmem (code, codes.count code)).2 ⟨hcode, rfl⟩
      rcases List.mem_cons.1 hin with heq | hrest
      · exact (congrArg Prod.snd heq).le
      · exact (List.pairwise_cons.1 hsorted).1 _ hrest

/-- The confidence of a picture is between those of its words. -/
theorem calculateConfidence_between {pages : List VisionPage} {lo hi : ℚ}
    (hne : wordConfidences pages ≠ []) (h : ∀ c ∈ wordConfidences pages, lo ≤ c ∧ c ≤ hi) :
    lo ≤ calculateConfidence pages ∧ calculateConfidence pages ≤ hi := by
  have hlength := List.length_pos_iff.2 hne
  have hpos : (0 : ℚ) < (wordConfidences pages).length := by exact_mod_cast hlength
  have hlow := List.card_nsmul_le_sum _ lo fun c hc => (h c hc).1
  have hhigh := List.sum_le_card_nsmul _ hi fun c hc => (h c hc).2
  rw [calculateConfidence, if_pos hlength]
  rw [nsmul_eq_mul] at hlow hhigh
  rw [le_div_iff₀ hpos, div_le_iff₀ hpos, mul_comm lo, mul_comm hi]
  exact ⟨hlow, hhigh⟩

/-- What is made of the answer to `documentTextDetection`. -/
def readPicture (db : OcrDb) (documentId : String)
    (answer : Except String (Option FullTextAnnotation)) : Except String (OcrResult × OcrDb) :=
  match answer with
  | .error message => .error ("OCR failed: " ++ message)
  | .ok none => .error "OCR failed: No text found in document"
  | .ok (some fullTextAnnotation) =>
    let fullText := fullTextAnnotation.text.getD []
    if fullText = [] then .error "OCR failed: No text found in document"
    else
      let pages := fullTextAnnotation.pages.getD []
      let pageContents := buildPageContents pages
      let pageCount := if pageContents.length ≠ 0 then pageContents.length
        else if pages.length ≠ 0 then pages.length else 1
      let result : OcrResult :=
        { fullText
          confidence := calculateConfidence pages
          language := detectLanguage pages
          pageCount }
      .ok (result, persistOcrArtifacts db documentId result pageContents)

/-- `VisionService.extractTextFromBuffer`. -/
def extractTextFromBuffer (db : OcrDb) (documentId : String)
    (answer : Except String (Option FullTextAnnotation)) : Except String (OcrResult × OcrDb) :=
  readPicture db documentId answer

/-- `VisionService.extractTextFromGcs`: the output files of a PDF, or the answer for a picture. -/
def extractTextFromGcs (db : OcrDb) (gcsPath : JsString) (documentId : String)
    (files : List OutputFile) (answer : Except String (Option FullTextAnnotation)) :
    Except String (OcrResult × OcrDb) :=
  if (js ".pdf").isSuffixOf (toLowerCase gcsPath) then
    (extractPdfFromGcs db documentId files).mapError ("OCR failed: " ++ ·)
  else readPicture db documentId answer

/-- What `persistOcrArtifacts` leaves in the tables. -/
theorem rows_persistOcrArtifacts (db : OcrDb) (documentId other : String) (result : OcrResult)
    (pages : List PageContent) :
    (persistOcrArtifacts db documentId result pages).pagesOf other =
        (if other = documentId then pages else db.pagesOf other) ∧
      (persistOcrArtifacts db documentId result pages).resultOf other =
        if other = documentId then
          some { result with
            pageCount := if pages.length ≠ 0 then pages.length else result.pageCount }
        else db.resultOf other := by
  rw [persistOcrArtifacts, (OcrDb.pagesOf_saveOcrPages _ pages).1,
    (OcrDb.pagesOf_saveOcrPages _ pages).2, (OcrDb.resultOf_saveOcrResult db _).1,
    (OcrDb.resultOf_saveOcrResult db _).2]
  exact ⟨rfl, rfl⟩

/-- **The rows of a picture**: a page for each of its pages, in their order, which shows what its
symbols show.  The rows of other documents stay. -/
theorem pagesOf_readPicture {db db' : OcrDb} {documentId : String}
    {answer : Except String (Option FullTextAnnotation)} {result : OcrResult}
    (h : readPicture db documentId answer = .ok (result, db')) :
    ∃ picture, answer = .ok (some picture) ∧
      (db'.pagesOf documentId).map (fun page => (page.pageNumber, visible page.content)) =
        ((picture.pages.getD []).zipIdx 1).map (fun p => (p.2, visible p.1.glyphs)) ∧
      (∃ row, db'.resultOf documentId = some row ∧ row.fullText = result.fullText ∧
        picture.text = some row.fullText) ∧
      ∀ other ≠ documentId,
        db'.pagesOf other = db.pagesOf other ∧ db'.resultOf other = db.resultOf other := by
  rcases answer with message | _ | picture
  · cases h
  · cases h
  by_cases htext : picture.text.getD [] = []
  · simp only [readPicture, htext, if_true] at h
    cases h
  simp only [readPicture, htext, if_false] at h
  obtain ⟨rfl, rfl⟩ := Prod.mk.inj (Except.ok.inj h)
  refine ⟨picture, rfl, ?_, ?_, fun other hother => ?_⟩
  · rw [(rows_persistOcrArtifacts db documentId documentId _ _).1, if_pos rfl, buildPageContents,
      List.map_map]
    exact List.map_congr_left fun p _ => congrArg (Prod.mk p.2) (visible_extractPageText p.1)
  · rw [(rows_persistOcrArtifacts db documentId documentId _ _).2, if_pos rfl]
    refine ⟨_, rfl, rfl, ?_⟩
    cases hsome : picture.text with
    | none => exact absurd (congrArg (Option.getD · []) hsome) htext
    | some text => rfl
  · have hrows := rows_persistOcrArtifacts db documentId other
    exact ⟨(hrows _ _).1.trans (if_neg hother), (hrows _ _).2.trans (if_neg hother)⟩

/-- A page with two words. -/
def twoWords : VisionPage :=
  let word (text : String) : VisionWord := { symbols := some [⟨js text⟩] }
  { blocks := some [{ paragraphs := some [{ words := some [word "Hello", word "world"] }] }] }

theorem pagesOf_readPicture_twoWords : ∃ db : OcrDb,
    (db.pagesOf "d").map (fun page => (page.pageNumber, visible page.content)) =
      [(1, js "Helloworld")] := by
  have hread : readPicture ⟨[], []⟩ "d"
      (.ok (some { text := some (js "Hello"), pages := some [twoWords] })) = .ok (_, _) := rfl
  obtain ⟨picture, heq, hpages, -, -⟩ := pagesOf_readPicture hread
  obtain rfl := Option.some.inj (Except.ok.inj heq)
  exact ⟨_, hpages⟩

end VisionService

end StudyOasis
