import StudyOasis.Upload.SaveFile

/-!
# The type of an uploaded file

`validateFileType` asks for a type that is detected in the bytes to be one of those that may be
uploaded; that it is the declared one, as the refusal says, is compared nowhere.

* `refuses_eq_false_iff` : what the checks ask for;
* `types_agree_iff` : **when only files of the declared type are taken**.
-/

namespace StudyOasis

namespace UploadService

/-- What an upload may be: of an allowed type and size, and of the type that is declared. -/
structure TypesAgree (config : UploadConfig) (detected : Option JsString) (file : MulterFile) :
    Prop where
  allowed : isAllowedMimeType config file.mimetype = true
  size : isAllowedSize config file.size = true
  /-- Where no type is detected, the declared one is a type of text. -/
  undetected : detected = none → textBasedTypes.contains file.mimetype = true
  declared : ∀ mime, detected = some mime → mime = file.mimetype

/-- The bytes are of another type, which may be uploaded as well, and nothing else is wrong. -/
def MistakenType (config : UploadConfig) (detected : Option JsString) (file : MulterFile) : Prop :=
  ∃ mime, detected = some mime ∧ mime ≠ file.mimetype ∧ isAllowedMimeType config mime = true ∧
    isAllowedMimeType config file.mimetype = true ∧ isAllowedSize config file.size = true ∧
      isDangerousFile file.originalname = false

variable {w : UploadWorld} {file : MulterFile}

theorem validateFileType_eq_ok_iff {declared : JsString} :
    validateFileType w declared = .ok () ↔ w.fault .detectType = none ∧
      (w.detected = none → textBasedTypes.contains declared = true) ∧
        ∀ mime, w.detected = some mime → isAllowedMimeType w.config mime = true := by
  unfold validateFileType
  cases hfault : w.fault .detectType with
  | some fault => simp
  | none =>
    cases w.detected with
    | none => simp
    | some mime => simp

/-- **What the checks ask for.** -/
theorem refuses_eq_false_iff : refuses w file = false ↔
    isDangerousFile file.originalname = false ∧ validateFileType w file.mimetype = .ok () ∧
      isAllowedMimeType w.config file.mimetype = true ∧
        isAllowedSize w.config file.size = true := by
  unfold refuses validateFileForUpload
  cases isDangerousFile file.originalname with
  | true => exact iff_of_false (fun h => by cases h) (fun h => by cases h.1)
  | false =>
    cases validateFileType w file.mimetype with
    | error e => exact iff_of_false (fun h => by cases h) (fun h => by cases h.2.1)
    | ok a =>
      cases isAllowedMimeType w.config file.mimetype with
      | false => exact iff_of_false (fun h => by cases h) (fun h => by cases h.2.2.1)
      | true =>
        cases isAllowedSize w.config file.size with
        | false => exact iff_of_false (fun h => by cases h) (fun h => by cases h.2.2.2)
        | true => exact iff_of_true rfl ⟨rfl, rfl, rfl, rfl⟩

/-- A file that the checks let through is of the declared type, or mistaken for it. -/
theorem typesAgree_iff_of_not_refuses (h : refuses w file = false) :
    TypesAgree w.config w.detected file ↔ ¬ MistakenType w.config w.detected file := by
  obtain ⟨hname, htype, hallowed, hsize⟩ := refuses_eq_false_iff.1 h
  obtain ⟨-, hnone, hsome⟩ := validateFileType_eq_ok_iff.1 htype
  constructor
  · rintro hagree ⟨mime, hmime, hne, -⟩
    exact hne (hagree.declared mime hmime)
  · intro hmistaken
    refine ⟨hallowed, hsize, hnone, fun mime hmime => ?_⟩
    by_contra hne
    exact hmistaken ⟨mime, hmime, hne, hsome mime hmime, hallowed, hsize, hname⟩

/-- A mistaken type is not refused when the type can be detected. -/
theorem MistakenType.not_refused (h : MistakenType w.config w.detected file)
    (hdetect : w.fault .detectType = none) : refuses w file = false := by
  obtain ⟨mime, hmime, -, hmimeAllowed, hallowed, hsize, hname⟩ := h
  refine refuses_eq_false_iff.2 ⟨hname, ?_, hallowed, hsize⟩
  refine validateFileType_eq_ok_iff.2 ⟨hdetect, fun hnone => ?_, fun mime' hmime' => ?_⟩
  · rw [hmime] at hnone
    cases hnone
  · rw [hmime] at hmime'
    rwa [← Option.some.inj hmime']

/-- A service in which no step fails. -/
def faultless (config : UploadConfig) (detected : Option JsString) : UploadWorld :=
  { config
    uploadId := sampleUuid
    objectId := sampleUuid
    documentId := "doc-1"
    signedUrl := js "https://storage/signed"
    detected
    fault := fun _ => none }

theorem allResolves_faultless (config : UploadConfig) (detected : Option JsString) :
    failsToStore (faultless config detected) = false ∧
      allResolves (faultless config detected) = true := by
  cases hcloud : config.useCloudStorage <;>
    simp [failsToStore, allResolves, storeResolves, ocrResolves, inlineResolves, recognizeResolves,
      faultless, hcloud]

/-- **When only files of the declared type are taken**, whatever else an upload meets: unless
another allowed type is detected in a file with which nothing else is wrong. -/
theorem types_agree_iff (config : UploadConfig) (detected : Option JsString) (file : MulterFile) :
    (∀ w : UploadWorld, w.config = config → w.detected = detected → ∀ userId s r,
      ((saveFile w file userId).runOn s).1 = .ok r → TypesAgree config detected file) ↔
    ¬ MistakenType config detected file := by
  constructor
  · intro h hmistaken
    have href : refuses (faultless config detected) file = false :=
      MistakenType.not_refused (w := faultless config detected) hmistaken rfl
    obtain ⟨hstore, hall⟩ := allResolves_faultless config detected
    rcases saveFile_cases (s := emptyState) href (by simp [emptyState]) none with
      ⟨hfails, -⟩ | ⟨-, hnot, -⟩ | ⟨-, -, r, t, row, hrun, -⟩
    · rw [hstore] at hfails
      cases hfails
    · rw [hall] at hnot
      cases hnot
    · have hagree := h (faultless config detected) rfl rfl none emptyState r (by rw [hrun])
      exact (typesAgree_iff_of_not_refuses href).1 hagree hmistaken
  · rintro h w rfl rfl userId s r hr
    exact (typesAgree_iff_of_not_refuses (saveFile_of_ok hr).1).2 h

/-- The types that may be uploaded when nothing else is configured. -/
def defaultTypes : List JsString :=
  ["application/pdf", "text/plain", "text/markdown", "image/jpeg", "image/png", "image/gif",
    "image/webp"].map js

/-- **A file of another type is taken**: a picture that is declared as JPEG and is PNG. -/
theorem spoofed_type_taken :
    let w := faultless ⟨false, none, none, none, some defaultTypes, some 10485760, none⟩
      (some (js "image/png"))
    let file : MulterFile := ⟨js "image.jpg", js "image/jpeg", 4, [137, 80, 78, 71]⟩
    ((saveFile w file none).runOn emptyState).1.isOk = true ∧
      ¬ TypesAgree w.config w.detected file := by
  refine ⟨by decide +kernel, fun h => ?_⟩
  have := h.declared (js "image/png") rfl
  revert this
  decide +kernel

end UploadService

end StudyOasis
