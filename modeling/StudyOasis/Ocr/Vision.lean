import Mathlib.Data.Char
import Mathlib.Data.List.Lex
import Mathlib.Data.Rat.Defs
import StudyOasis.Common.OrderBy
import StudyOasis.Text.JsString

/-!
# Text recognition of PDF files

`VisionService.extractPdfFromGcs` from the output files of the recognition on: it reads the files
in the order of their names, counts the pages it sees and saves one row for each of them.
Confidences are exact rationals.
-/

namespace StudyOasis

/-! ### What the recognition answers -/

/-- `VisionSymbol`. -/
structure VisionSymbol where
  text : JsString
  deriving DecidableEq

/-- `VisionWord`. -/
structure VisionWord where
  symbols : Option (List VisionSymbol) := none
  confidence : Option ℚ := none
  deriving DecidableEq

/-- `VisionParagraph`. -/
structure VisionParagraph where
  words : Option (List VisionWord) := none
  deriving DecidableEq

/-- `VisionBlock`. -/
structure VisionBlock where
  paragraphs : Option (List VisionParagraph) := none
  deriving DecidableEq

/-- An element of `page.property.detectedLanguages`. -/
structure DetectedLanguage where
  languageCode : String
  deriving DecidableEq

/-- `page.property`. -/
structure TextProperty where
  detectedLanguages : Option (List DetectedLanguage) := none
  deriving DecidableEq

/-- `VisionPage`. -/
structure VisionPage where
  blocks : Option (List VisionBlock) := none
  confidence : Option ℚ := none
  property : Option TextProperty := none
  deriving DecidableEq

/-- `response.fullTextAnnotation`. -/
structure FullTextAnnotation where
  text : Option JsString := none
  pages : Option (List VisionPage) := none
  deriving DecidableEq

/-- An element of `responses`. -/
structure AnnotateImageResponse where
  fullTextAnnotation : Option FullTextAnnotation := none
  deriving DecidableEq

/-- An output file in the bucket: its name and the `responses` it holds. -/
structure OutputFile where
  name : List Char
  responses : Option (List AnnotateImageResponse)
  deriving DecidableEq

/-! ### What is saved -/

/-- `PageContent`. -/
structure PageContent where
  pageNumber : ℕ
  content : JsString
  deriving DecidableEq

/-- `OcrResult`. -/
structure OcrResult where
  fullText : JsString
  confidence : ℚ
  language : String
  pageCount : ℕ
  deriving DecidableEq

/-- A row of `ocr_pages`. -/
structure OcrPage where
  documentId : String
  pageNumber : ℕ
  content : JsString
  deriving DecidableEq

/-- The tables of the recognition. -/
structure OcrDb where
  /-- `ocr_results`, by document. -/
  ocrResult : List (String × OcrResult)
  /-- `ocr_pages`. -/
  ocrPage : List OcrPage
  deriving DecidableEq

namespace VisionService

/-- `VisionService.extractText`. -/
def extractText (words : List VisionWord) : JsString :=
  List.intercalate (js " ") (words.map fun word =>
    match word.symbols with
    | none => []
    | some symbols => (symbols.map (·.text)).flatten)

/-- `VisionService.extractPageText`. -/
def extractPageText (page : VisionPage) : JsString :=
  match page.blocks with
  | none => []
  | some blocks =>
    let blockTexts := blocks.map fun block =>
      let paragraphTexts := (block.paragraphs.getD []).map fun paragraph =>
        trim (extractText (paragraph.words.getD []))
      List.intercalate (js "\n") (paragraphTexts.filter (· ≠ []))
    trim (List.intercalate (js "\n\n") (blockTexts.filter (· ≠ [])))

/-- `VisionService.detectLanguageFromText`. -/
def detectLanguageFromText (text : JsString) : String :=
  let chineseChars := text.filter fun c => 0x4E00 ≤ c ∧ c ≤ 0x9FA5
  let japaneseChars := text.filter fun c => 0x3040 ≤ c ∧ c ≤ 0x309F ∨ 0x30A0 ≤ c ∧ c ≤ 0x30FF
  if trim text = [] then "unknown"
  else if chineseChars.length * 10 > text.length * 3 then "zh"
  else if japaneseChars.length * 10 > text.length then "ja"
  else "en"

/-- The variables of the loop over the files. -/
structure Extraction where
  fullText : JsString := []
  totalPages : ℕ := 0
  totalConfidence : ℚ := 0
  confidenceCount : ℕ := 0
  pageContents : List PageContent := []
  nextPageNumber : ℕ := 1
  deriving DecidableEq

/-- The body of the loop over the pages of an annotation. -/
def readPage (ann : FullTextAnnotation) (st : Extraction) (page : VisionPage) :
    Extraction :=
  let st := match page.confidence with
    | none => st
    | some c => if c = 0 then st else
      { st with
        totalConfidence := st.totalConfidence + c
        confidenceCount := st.confidenceCount + 1 }
  let pageText := extractPageText page
  let content := if pageText ≠ [] then pageText else ann.text.getD []
  { st with
    pageContents := st.pageContents ++ [⟨st.nextPageNumber, content⟩]
    nextPageNumber := st.nextPageNumber + 1 }

/-- The body of the loop over the responses of a file. -/
def readResponse (st : Extraction) (response : AnnotateImageResponse) : Extraction :=
  match response.fullTextAnnotation with
  | none => st
  | some ann =>
    let st := if ann.text.getD [] ≠ [] then
        { st with fullText := st.fullText ++ trim (ann.text.getD []) ++ js "\n" }
      else st
    let pages := ann.pages.getD []
    let st := { st with totalPages := st.totalPages + pages.length }
    pages.foldl (readPage ann) st

/-- The body of the loop over the files. -/
def readFile (st : Extraction) (file : OutputFile) : Extraction :=
  (file.responses.getD []).foldl readResponse st

/-- `VisionService.saveOcrPages`. -/
def saveOcrPages (db : OcrDb) (documentId : String) (pages : List PageContent) : OcrDb :=
  { db with
    ocrPage := db.ocrPage.filter (·.documentId ≠ documentId) ++
      pages.map fun page => ⟨documentId, page.pageNumber, page.content⟩ }

/-- `VisionService.saveOcrResult`. -/
def saveOcrResult (db : OcrDb) (documentId : String) (result : OcrResult) : OcrDb :=
  { db with
    ocrResult := db.ocrResult.filter (·.1 ≠ documentId) ++ [(documentId, result)] }

/-- `VisionService.persistOcrArtifacts`, without the insights. -/
def persistOcrArtifacts (db : OcrDb) (documentId : String) (result : OcrResult)
    (pages : List PageContent) : OcrDb :=
  let pageCount := if pages.length ≠ 0 then pages.length else result.pageCount
  saveOcrPages (saveOcrResult db documentId { result with pageCount }) documentId pages

/-- `VisionService.extractPdfFromGcs`, from the list of output files on. -/
def extractPdfFromGcs (db : OcrDb) (documentId : String) (files : List OutputFile) :
    Except String (OcrResult × OcrDb) :=
  if files = [] then .error "PDF OCR failed: No OCR output files found"
  else
    -- `localeCompare` on names that differ in digits and `-`
    let sortedFiles := orderByAsc (·.name) files
    let st := sortedFiles.foldl readFile {}
    if trim st.fullText = [] then .error "PDF OCR failed: No text found in PDF"
    else
      let confidence := if st.confidenceCount > 0 then st.totalConfidence / st.confidenceCount
        else 9 / 10
      let language := detectLanguageFromText st.fullText
      let pageCount := if st.pageContents.length ≠ 0 then st.pageContents.length
        else if st.totalPages ≠ 0 then st.totalPages else 1
      let result : OcrResult := { fullText := trim st.fullText, confidence, language, pageCount }
      .ok (result, persistOcrArtifacts db documentId result st.pageContents)

end VisionService

end StudyOasis
