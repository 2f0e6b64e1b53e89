import Mathlib.Data.List.Dedup
import StudyOasis.Text.Utf8
import StudyOasis.Upload.SaveFile

/-!
# Files by their id

`getFileInfo` and `readFileContent` look a file up by the start of its name in the directory.

* `joinPath_eq` : in one directory, different names have different paths;
* `saveFiles_objects` : what a list of uploads leaves on the disk;
* `exactLookup_iff` : **exactly which ids find their own file and no other**.
-/

namespace StudyOasis

/-! ### The path of a name -/

section

variable {dir name : JsString}

/-- A text that names a file of a directory. -/
structure IsComponent (name : JsString) : Prop where
  slash_not_mem : slash ∉ name
  ne_nil : name ≠ []
  ne_dot : name ≠ [dot]
  ne_dots : name ≠ [dot, dot]

theorem normalizeSegments_concat (h : IsComponent name) (absolute : Bool)
    (acc segments : List JsString) :
    normalizeSegments absolute acc (segments ++ [name]) =
      normalizeSegments absolute acc segments ++ [name] := by
  fun_induction normalizeSegments absolute acc segments with
  | case1 acc => simp [normalizeSegments, h.ne_nil, h.ne_dot, h.ne_dots]
  | case2 acc segment segments hskip ih =>
    simp only [List.cons_append, normalizeSegments, if_pos hskip, ih]
  | case3 segments hskip ih =>
    simp only [List.cons_append, normalizeSegments, if_neg hskip, if_true, ih]
  | case4 segments acc hskip ih =>
    simp only [List.cons_append, normalizeSegments, if_neg hskip, if_true, ih]
  | case5 segments top acc hskip htop ih =>
    simp only [List.cons_append, normalizeSegments, if_neg hskip, if_true, if_neg htop, ih]
  | case6 acc segment segments hskip hdots ih =>
    simp only [List.cons_append, normalizeSegments, if_neg hskip, if_neg hdots, ih]

theorem intercalate_concat (segments : List JsString) (name : JsString) :
    List.intercalate [slash] (segments ++ [name]) =
      (if segments = [] then [] else List.intercalate [slash] segments ++ [slash]) ++ name := by
  induction segments with
  | nil => simp
  | cons segment segments ih =>
    cases segments with
    | nil => simp
    | cons segment' segments =>
      rw [if_neg (List.cons_ne_nil _ _), List.cons_append] at ih
      simp [ih]

/-- **The path of a name** in a directory is a text that only the directory decides, and the
name. -/
theorem joinPath_eq (hdir : dir ≠ []) : ∃ p, ∀ name, IsComponent name →
    joinPath dir name = p ++ name := by
  let absolute : Bool := dir.head? = some slash
  let segments := normalizeSegments absolute [] (dir.splitOn slash)
  refine ⟨(if absolute then [slash] else []) ++
    if segments = [] then [] else List.intercalate [slash] segments ++ [slash], ?_⟩
  intro name hname
  have hjoin : List.intercalate [slash] ([dir, name].filter (· ≠ [])) = dir ++ slash :: name := by
    simp [hdir, hname.ne_nil, List.intercalate]
  have hhead : (dir ++ slash :: name).head? = dir.head? := by
    simp [List.head?_append, List.head?_eq_some_head hdir]
  have hlast : (dir ++ slash :: name).getLast? ≠ some slash := by
    intro h
    rw [List.getLast?_append, List.getLast?_cons, Option.some_or, Option.some.injEq] at h
    rw [List.getLast?_eq_some_getLast hname.ne_nil, Option.getD_some] at h
    exact hname.slash_not_mem (h ▸ List.getLast_mem hname.ne_nil)
  have hsplit : (dir ++ slash :: name).splitOn slash = dir.splitOn slash ++ [name] := by
    rw [List.splitOn_append_cons_self, List.splitOn_eq_singleton hname.slash_not_mem]
  have htext : List.intercalate [slash] (segments ++ [name]) ≠ [] := by
    rw [intercalate_concat]
    simp [hname.ne_nil]
  have hnil : dir ++ slash :: name ≠ [] := List.append_ne_nil_of_left_ne_nil hdir _
  have hnorm : normalizeSegments absolute [] (dir.splitOn slash ++ [name]) = segments ++ [name] :=
    normalizeSegments_concat hname absolute [] _
  simp only [joinPath, hjoin, normalizePath, hhead, hlast, hsplit, if_neg hnil]
  rw [hnorm, if_neg htext, intercalate_concat]
  cases habs : absolute <;> simp [absolute, habs]

end

/-! ### The service -/

/-- What the service reads of the disk; `none` is a call that is rejected. -/
structure Disk where
  /-- `fs.readdir`. -/
  readdir : JsString → Option (List JsString)
  /-- `fs.readFile`. -/
  readFile : JsString → Option (List UInt8)

/-- What a lookup is rejected with. -/
inductive LookupError where
  | notFound (message : JsString)
  | unreadable
  deriving DecidableEq, Repr

namespace LookupError

/-- `error.code`. -/
def code : LookupError → ErrorCode
  | notFound _ => .documentNotFound
  | unreadable => .externalServiceError

/-- `error.message`. -/
def message : LookupError → JsString
  | notFound message => message
  | unreadable => js "Failed to read file content"

/-- The status of the response. -/
def status : LookupError → ℕ
  | notFound _ => 404
  | unreadable => 500

end LookupError

/-- What `getFileInfo` returns. -/
structure FileInfo where
  diskFilename : JsString
  uploadDir : JsString
  deriving DecidableEq, Repr

/-- What `downloadFile` answers with: the header, and the file it sends. -/
structure Attachment where
  contentDisposition : JsString
  file : FileInfo
  deriving DecidableEq, Repr

namespace UploadService

/-- `files.find((file) => file.startsWith(fileId))`, if it is not empty. -/
def targetFile (files : List JsString) (fileId : JsString) : Option JsString :=
  (files.find? fun file => fileId.isPrefixOf file).filter (· ≠ [])

variable (disk : Disk) (config : UploadConfig) (fileId : JsString)

/-- `UploadService.getFileInfo`; a directory that cannot be read is logged. -/
def getFileInfo : Option FileInfo :=
  match disk.readdir config.uploadDestination with
  | none => none
  | some files => (targetFile files fileId).map (⟨·, config.uploadDestination⟩)

/-- `UploadService.readFileContent`. -/
def readFileContent : Except LookupError JsString :=
  match disk.readdir config.uploadDestination with
  | none => .error .unreadable
  | some files =>
    match targetFile files fileId with
    | none => .error (.notFound (js "File not found: " ++ fileId))
    | some target =>
      match disk.readFile (joinPath config.uploadDestination target) with
      | none => .error .unreadable
      | some bytes => .ok ((Utf8.decode bytes).flatMap utf16EncodeChar)

/-- `UploadController.downloadFile`. -/
def downloadFile : Except LookupError Attachment :=
  match getFileInfo disk config fileId with
  | none => .error (.notFound (js "文件不存在: " ++ fileId))
  | some fileInfo =>
    .ok ⟨js "attachment; filename=\"" ++ fileInfo.diskFilename ++ js "\"", fileInfo⟩

end UploadService

/-! ### The files of a run -/

/-- One call of `saveFile`. -/
structure UploadCall where
  world : UploadWorld
  file : MulterFile
  userId : Option String

namespace UploadCall

open UploadService

/-- The id of the upload. -/
def uploadId (u : UploadCall) : JsString := u.world.uploadId.text

/-- The extension that stands behind it on the disk. -/
def extension (u : UploadCall) : JsString := extname (sanitizeFilename u.file.originalname)

/-- The name on the disk. -/
def diskFilename (u : UploadCall) : JsString := u.uploadId ++ u.extension

/-- The bytes are stored. -/
def stores (u : UploadCall) : Bool := ! refuses u.world u.file && ! failsToStore u.world

/-- The text of the file. -/
def content (u : UploadCall) : JsString := (Utf8.decode u.file.buffer).flatMap utf16EncodeChar

end UploadCall

namespace UploadState

/-- The names in a directory, each once. -/
def filesIn (s : UploadState) (dir : JsString) : List JsString :=
  (s.objects.filterMap fun o =>
    match o.location with
    | .disk d name => if d = dir then some name else none
    | .cloud .. => none).dedup

/-- The bytes at a path: a later write replaces them. -/
def bytesAt (s : UploadState) (path : JsString) : Option (List UInt8) :=
  (s.objects.reverse.find? fun o =>
    match o.location with
    | .disk dir name => joinPath dir name = path
    | .cloud .. => false).map (·.bytes)

end UploadState

namespace UploadService

/-- `saveFile` for one file after another. -/
def saveFiles (calls : List UploadCall) (s : UploadState) : UploadState :=
  calls.foldl (fun s u => ((saveFile u.world u.file u.userId).runOn s).2) s

end UploadService

/-- Uploads to one directory of the disk, under ids that are pairwise different. -/
structure LocalUploads where
  config : UploadConfig
  calls : List UploadCall
  on_disk : config.useCloudStorage = false
  configured : ∀ u ∈ calls, u.world.config = config
  fresh : (calls.map UploadCall.uploadId).Nodup

namespace LocalUploads

/-- What the uploads leave. -/
def state (l : LocalUploads) : UploadState := UploadService.saveFiles l.calls ⟨[], [], []⟩

/-- The uploads whose files are on the disk. -/
def files (l : LocalUploads) : List UploadCall := l.calls.filter UploadCall.stores

/-- The disk holds what the uploads have left, listed in any order. -/
structure On (l : LocalUploads) (disk : Disk) : Prop where
  readdir : ∃ names, disk.readdir l.config.uploadDestination = some names ∧
    names.Perm (l.state.filesIn l.config.uploadDestination)
  readFile : ∀ path, disk.readFile path = l.state.bytesAt path

end LocalUploads

/-! ### What is on the disk -/

namespace UploadCall

open UploadService

variable {u v : UploadCall} {fileId : JsString}

theorem length_uploadId (u : UploadCall) : u.uploadId.length = 36 := u.world.uploadId.length_eq

theorem take_diskFilename (u : UploadCall) : u.diskFilename.take 36 = u.uploadId :=
  List.take_left' u.length_uploadId

theorem slash_not_mem_extension (u : UploadCall) : slash ∉ u.extension := by
  rcases extname_cases (sanitizeFilename u.file.originalname) with h | ⟨e, h, -, hslash⟩
  · rw [extension, h]
    exact List.not_mem_nil
  · rw [extension, h]
    intro hmem
    rcases List.mem_cons.1 hmem with hdot | hmem
    · exact absurd hdot (by decide)
    · exact hslash hmem

theorem isComponent_diskFilename (u : UploadCall) : IsComponent u.diskFilename := by
  have hlen : 36 ≤ u.diskFilename.length := by
    rw [diskFilename, List.length_append, u.length_uploadId]
    exact Nat.le_add_right _ _
  have hne (t : JsString) (ht : t.length < 36) : u.diskFilename ≠ t := by
    rintro h
    rw [h] at hlen
    omega
  refine ⟨?_, hne _ (by decide), hne _ (by decide), hne _ (by decide)⟩
  intro hmem
  rcases List.mem_append.1 hmem with hmem | hmem
  · exact (uuid_ne_of_mem hmem).2 rfl
  · exact u.slash_not_mem_extension hmem

/-- **A full id starts no name but its own.** -/
theorem eq_uploadId_of_start (h : fileId <+: u.diskFilename) (hlen : fileId.length = 36) :
    fileId = u.uploadId := by
  rw [← u.take_diskFilename, List.prefix_iff_eq_take.1 h, hlen]

/-- The id breaks off within the id of the upload. -/
def Abbreviates (u : UploadCall) (fileId : JsString) : Prop :=
  fileId <+: u.uploadId ∧ fileId ≠ u.uploadId

/-- The id goes on into the extension. -/
def Overruns (u : UploadCall) (fileId : JsString) : Prop :=
  ∃ e, e ≠ [] ∧ e <+: u.extension ∧ fileId = u.uploadId ++ e

/-- What a name starts with: part of the id, the id, or the id and some of the extension. -/
theorem start_diskFilename_iff :
    fileId <+: u.diskFilename ↔
      u.Abbreviates fileId ∨ fileId = u.uploadId ∨ u.Overruns fileId := by
  constructor
  · intro h
    rcases Nat.lt_trichotomy fileId.length 36 with hlt | heq | hgt
    · refine .inl ⟨List.prefix_of_prefix_length_le h (List.prefix_append _ _) ?_, ?_⟩
      · rw [u.length_uploadId]
        exact hlt.le
      · rintro rfl
        exact hlt.ne u.length_uploadId
    · exact .inr (.inl (eq_uploadId_of_start h heq))
    · have hid : u.uploadId <+: fileId := by
        refine List.prefix_of_prefix_length_le (List.prefix_append _ _) h ?_
        rw [u.length_uploadId]
        exact hgt.le
      obtain ⟨e, rfl⟩ := hid
      refine .inr (.inr ⟨e, ?_, (List.prefix_append_right_inj _).1 h, rfl⟩)
      rintro rfl
      rw [List.append_nil, u.length_uploadId] at hgt
      exact hgt.ne rfl
  · rintro (⟨h, -⟩ | rfl | ⟨e, -, h, rfl⟩)
    · exact h.trans (List.prefix_append _ _)
    · exact List.prefix_append _ _
    · exact (List.prefix_append_right_inj _).2 h

/-- The object that an upload stores on the disk. -/
def diskObject (dir : JsString) (u : UploadCall) : StoredObject :=
  ⟨.disk dir u.diskFilename, u.file.buffer⟩

end UploadCall

namespace UploadService

open StudyOasis.Action

theorem saveFile_objects (u : UploadCall) (s : UploadState) :
    ((saveFile u.world u.file u.userId).runOn s).2.objects =
      s.objects ++ if u.stores then [uploadedObject u.world u.file] else [] := by
  unfold UploadCall.stores
  cases href : refuses u.world u.file with
  | true =>
    obtain ⟨e, hrun⟩ := saveFile_of_refuses href u.userId s
    rw [hrun]
    exact (List.append_nil _).symm
  | false =>
    rw [saveFile_of_not_refuses href, runOn_bind]
    rcases uploadToPreferredStorage_cases u.world u.file s with
      ⟨hfails, e, hrun⟩ | ⟨hfails, -, e, hrun⟩ | ⟨hfails, -, url, hrun⟩
    · rw [hrun, hfails]
      exact (List.append_nil _).symm
    · rw [hrun, hfails]
      rfl
    · rw [hrun, hfails, andThen_ok, finishUpload_objects]
      rfl

/-- **What a list of uploads leaves**: the bytes of each that gets as far as storing them. -/
theorem saveFiles_objects (calls : List UploadCall) (s : UploadState) :
    (saveFiles calls s).objects =
      s.objects ++ (calls.filter UploadCall.stores).map fun u => uploadedObject u.world u.file := by
  induction calls generalizing s with
  | nil => exact (List.append_nil _).symm
  | cons u calls ih =>
    refine (ih _).trans ?_
    rw [saveFile_objects, List.append_assoc]
    cases h : u.stores with
    | true => simp [h]
    | false => simp [h]

end UploadService

theorem orDefault_ne_nil (x : Option JsString) {y : JsString} (hy : y ≠ []) :
    orDefault x y ≠ [] := by
  rw [orDefault]
  cases h : x.filter (· ≠ []) with
  | none => exact hy
  | some z => exact of_decide_eq_true (Option.filter_eq_some_iff.1 h).2

theorem UploadConfig.uploadDestination_ne_nil (config : UploadConfig) :
    config.uploadDestination ≠ [] :=
  orDefault_ne_nil _ (by decide)

namespace LocalUploads

open UploadService

variable {l : LocalUploads} {u v : UploadCall}

theorem uploadedObject_eq (h : u ∈ l.calls) :
    uploadedObject u.world u.file = u.diskObject l.config.uploadDestination := by
  have hconfig := l.configured u h
  simp only [uploadedObject, location, hconfig, l.on_disk, Bool.false_eq_true, if_false,
    diskLocation]
  rfl

theorem state_objects (l : LocalUploads) :
    l.state.objects = l.files.map (UploadCall.diskObject l.config.uploadDestination) := by
  rw [state, saveFiles_objects, List.nil_append]
  exact List.map_congr_left fun u hu => uploadedObject_eq (List.mem_of_mem_filter hu)

/-- An id belongs to one file. -/
theorem eq_of_uploadId (hu : u ∈ l.files) (hv : v ∈ l.files) (h : u.uploadId = v.uploadId) :
    u = v :=
  List.inj_on_of_nodup_map l.fresh (List.mem_of_mem_filter hu) (List.mem_of_mem_filter hv) h

theorem eq_of_diskFilename (hu : u ∈ l.files) (hv : v ∈ l.files)
    (h : u.diskFilename = v.diskFilename) : u = v := by
  refine eq_of_uploadId hu hv ?_
  rw [← u.take_diskFilename, h, v.take_diskFilename]

theorem mem_filesIn_iff {name : JsString} :
    name ∈ l.state.filesIn l.config.uploadDestination ↔ ∃ u ∈ l.files, u.diskFilename = name := by
  rw [UploadState.filesIn, List.mem_dedup, state_objects, List.filterMap_map, List.mem_filterMap]
  simp only [Function.comp_apply, UploadCall.diskObject, if_true, Option.some.injEq]

/-- The bytes of a file are at its path. -/
theorem bytesAt_diskFilename (hu : u ∈ l.files) :
    l.state.bytesAt (joinPath l.config.uploadDestination u.diskFilename) =
      some u.file.buffer := by
  obtain ⟨p, hp⟩ := joinPath_eq l.config.uploadDestination_ne_nil
  have hinj (v : UploadCall) (hv : v ∈ l.files)
      (h : joinPath l.config.uploadDestination v.diskFilename =
        joinPath l.config.uploadDestination u.diskFilename) : v = u := by
    rw [hp _ v.isComponent_diskFilename, hp _ u.isComponent_diskFilename] at h
    exact eq_of_diskFilename hv hu (List.append_cancel_left h)
  rw [UploadState.bytesAt, state_objects, ← List.map_reverse, List.find?_map]
  cases hfind : l.files.reverse.find? _ with
  | none =>
    have := List.find?_eq_none.1 hfind u (List.mem_reverse.2 hu)
    exact absurd (decide_eq_true rfl) this
  | some v =>
    have hv := List.mem_reverse.1 (List.mem_of_find?_eq_some hfind)
    have heq := List.find?_some hfind
    rw [hinj v hv (of_decide_eq_true heq)]
    rfl

end LocalUploads

/-! ### The lookup -/

namespace UploadService

variable {l : LocalUploads} {disk : Disk} {files : List JsString} {fileId : JsString}

/-- The lookup is exact for an id: a file is returned only under its own id, and there it is. -/
structure ExactLookup (l : LocalUploads) (disk : Disk) (fileId : JsString) : Prop where
  info_only : ∀ info, getFileInfo disk l.config fileId = some info →
    ∃ u ∈ l.files, fileId = u.uploadId ∧ info.diskFilename = u.diskFilename
  content_only : ∀ content, readFileContent disk l.config fileId = .ok content →
    ∃ u ∈ l.files, fileId = u.uploadId ∧ content = u.content
  info_found : ∀ u ∈ l.files, fileId = u.uploadId →
    getFileInfo disk l.config fileId = some ⟨u.diskFilename, l.config.uploadDestination⟩
  content_found : ∀ u ∈ l.files, fileId = u.uploadId →
    readFileContent disk l.config fileId = .ok u.content

theorem start_of_targetFile {name : JsString} (h : targetFile files fileId = some name) :
    name ∈ files ∧ fileId <+: name := by
  have hfind := (Option.filter_eq_some_iff.1 h).1
  exact ⟨List.mem_of_find?_eq_some hfind, List.isPrefixOf_iff_prefix.1 (List.find?_some hfind)⟩

theorem not_start_of_targetFile (hne : [] ∉ files) (h : targetFile files fileId = none) :
    ∀ name ∈ files, ¬ fileId <+: name := by
  intro name hname hstart
  cases hfind : files.find? fun file => fileId.isPrefixOf file with
  | none => exact List.find?_eq_none.1 hfind name hname (List.isPrefixOf_iff_prefix.2 hstart)
  | some found =>
    rw [targetFile, hfind, Option.filter_eq_none_iff] at h
    have hnil : found = [] := by simpa using h found rfl
    exact hne (hnil ▸ List.mem_of_find?_eq_some hfind)

/-- **What a lookup does**: it finds nothing when no name starts with the id, and else a file whose
name does. -/
theorem lookup_cases (hdisk : l.On disk) (fileId : JsString) :
    ((∀ u ∈ l.files, ¬ fileId <+: u.diskFilename) ∧
      getFileInfo disk l.config fileId = none ∧
      readFileContent disk l.config fileId =
        .error (.notFound (js "File not found: " ++ fileId))) ∨
    ∃ u ∈ l.files, fileId <+: u.diskFilename ∧
      getFileInfo disk l.config fileId = some ⟨u.diskFilename, l.config.uploadDestination⟩ ∧
      readFileContent disk l.config fileId = .ok u.content := by
  obtain ⟨names, hnames, hperm⟩ := hdisk.readdir
  have hmem (name : JsString) : name ∈ names ↔ ∃ u ∈ l.files, u.diskFilename = name :=
    hperm.mem_iff.trans LocalUploads.mem_filesIn_iff
  cases htarget : targetFile names fileId with
  | none =>
    have hnil : [] ∉ names := by
      intro h
      obtain ⟨u, -, hu⟩ := (hmem []).1 h
      exact u.isComponent_diskFilename.ne_nil hu
    refine .inl ⟨?_, ?_, ?_⟩
    · intro u hu
      exact not_start_of_targetFile hnil htarget _ ((hmem _).2 ⟨u, hu, rfl⟩)
    · simp only [getFileInfo, hnames, htarget, Option.map_none]
    · simp only [readFileContent, hnames, htarget]
  | some name =>
    obtain ⟨hname, hstart⟩ := start_of_targetFile htarget
    obtain ⟨u, hu, rfl⟩ := (hmem name).1 hname
    refine .inr ⟨u, hu, hstart, ?_, ?_⟩
    · simp only [getFileInfo, hnames, htarget, Option.map_some]
    · simp only [readFileContent, hnames, htarget, hdisk.readFile,
        LocalUploads.bytesAt_diskFilename hu]
      rfl

/-- A lookup that finds nothing, by a text that is no id. -/
theorem exactLookup_of_not_found {e : LookupError}
    (hno : ∀ u ∈ l.files, fileId ≠ u.uploadId) (hinfo : getFileInfo disk l.config fileId = none)
    (hcontent : readFileContent disk l.config fileId = .error e) : ExactLookup l disk fileId := by
  refine ⟨?_, ?_, fun u hu heq => absurd heq (hno u hu), fun u hu heq => absurd heq (hno u hu)⟩
  · intro info hsome
    rw [hinfo] at hsome
    cases hsome
  · intro content hok
    rw [hcontent] at hok
    cases hok

/-- A lookup that finds the file of its id. -/
theorem exactLookup_of_found {u : UploadCall} (hu : u ∈ l.files) (heq : fileId = u.uploadId)
    (hinfo : getFileInfo disk l.config fileId = some ⟨u.diskFilename, l.config.uploadDestination⟩)
    (hcontent : readFileContent disk l.config fileId = .ok u.content) :
    ExactLookup l disk fileId := by
  have hown (v : UploadCall) (hv : v ∈ l.files) (hv' : fileId = v.uploadId) : u = v :=
    LocalUploads.eq_of_uploadId hu hv (heq.symm.trans hv')
  refine ⟨?_, ?_, ?_, ?_⟩
  · intro info hsome
    rw [hinfo] at hsome
    cases hsome
    exact ⟨u, hu, heq, rfl⟩
  · intro content hok
    rw [hcontent] at hok
    cases hok
    exact ⟨u, hu, heq, rfl⟩
  · intro v hv hv'
    rw [hinfo, hown v hv hv']
  · intro v hv hv'
    rw [hcontent, hown v hv hv']

/-- **The lookup by id** is exact for a text exactly when it neither breaks off within the id of a
stored file nor goes on into the extension of one. -/
theorem exactLookup_iff (hdisk : l.On disk) (fileId : JsString) :
    ExactLookup l disk fileId ↔ ∀ u ∈ l.files, ¬ u.Abbreviates fileId ∧ ¬ u.Overruns fileId := by
  constructor
  · intro h u hu
    -- a text that starts the name of a file finds one, and so is a full id
    have hid (hstart : fileId <+: u.diskFilename) : fileId = u.uploadId := by
      rcases lookup_cases hdisk fileId with ⟨hnone, -⟩ | ⟨v, hv, -, hinfo, -⟩
      · exact absurd hstart (hnone u hu)
      · obtain ⟨v', -, rfl, -⟩ := h.info_only _ hinfo
        exact UploadCall.eq_uploadId_of_start hstart v'.length_uploadId
    refine ⟨?_, ?_⟩
    · intro habbr
      exact habbr.2 (hid (UploadCall.start_diskFilename_iff.2 (.inl habbr)))
    · intro hover
      have heq := hid (UploadCall.start_diskFilename_iff.2 (.inr (.inr hover)))
      obtain ⟨e, hne, -, rfl⟩ := hover
      exact hne (List.append_right_eq_self.1 heq)
  · intro h
    have hid {u : UploadCall} (hu : u ∈ l.files) (hstart : fileId <+: u.diskFilename) :
        fileId = u.uploadId := by
      rcases UploadCall.start_diskFilename_iff.1 hstart with habbr | heq | hover
      · exact absurd habbr (h u hu).1
      · exact heq
      · exact absurd hover (h u hu).2
    rcases lookup_cases hdisk fileId with ⟨hnone, hinfo, hcontent⟩ |
      ⟨u, hu, hstart, hinfo, hcontent⟩
    · refine exactLookup_of_not_found (fun u hu heq => hnone u hu ?_) hinfo hcontent
      rw [heq]
      exact List.prefix_append _ _
    · exact exactLookup_of_found hu (hid hu hstart) hinfo hcontent

/-! ### One stored file -/

/-- One text file on the disk. -/
def sampleUploads : LocalUploads where
  config := (sampleWorld false none).config
  calls := [⟨sampleWorld false none, sampleFile (js "notes.txt"), none⟩]
  on_disk := rfl
  configured := by simp
  fresh := by simp

/-- The directory with that file. -/
def sampleDisk : Disk where
  readdir _ := some (sampleUploads.state.filesIn (js "./uploads"))
  readFile := sampleUploads.state.bytesAt

theorem on_sampleDisk : sampleUploads.On sampleDisk :=
  ⟨⟨_, rfl, .refl _⟩, fun _ => rfl⟩

theorem exactLookup_iff_notes : ExactLookup sampleUploads sampleDisk sampleUuid.text :=
  (exactLookup_iff on_sampleDisk _).2 (by
    intro u hu
    obtain rfl := List.mem_singleton.1 (List.mem_of_mem_filter hu)
    refine ⟨fun h => h.2 rfl, ?_⟩
    rintro ⟨e, hne, -, h⟩
    exact hne (List.append_right_eq_self.1 h.symm))

/-- **Another text finds the file**: its first digit is enough, and so is nothing at all. -/
theorem notes_disclosed :
    sampleUploads.On sampleDisk ∧
    (downloadFile sampleDisk sampleUploads.config (js "0")).isOk = true ∧
    ¬ ExactLookup sampleUploads sampleDisk (js "0") ∧
    readFileContent sampleDisk sampleUploads.config [] = .ok (js "hi") ∧
    ¬ ExactLookup sampleUploads sampleDisk [] := by
  have hinfo (fileId : JsString) (hne : fileId ≠ sampleUuid.text)
      (h : (getFileInfo sampleDisk sampleUploads.config fileId).isSome = true) :
      ¬ ExactLookup sampleUploads sampleDisk fileId := by
    intro hexact
    obtain ⟨info, hsome⟩ := Option.isSome_iff_exists.1 h
    obtain ⟨u, hu, heq, -⟩ := hexact.info_only info hsome
    obtain rfl := List.mem_singleton.1 (List.mem_of_mem_filter hu)
    exact hne heq
  exact ⟨on_sampleDisk, by decide +kernel, hinfo _ (by decide) (by decide +kernel),
    by decide +kernel, hinfo _ (by decide) (by decide +kernel)⟩

end UploadService

end StudyOasis
