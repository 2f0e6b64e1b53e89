import Mathlib.Data.List.Chain
import StudyOasis.Chat.History
import StudyOasis.Common.Chunks

/-!
# The document context in the prompt

`appendDocumentContext` removes the whitespace in front of line breaks, trims the rest and sends
the first 20000 code units of it, 2000 to a message.

* `squeezeFrom_nil` : the regular expression drops a space exactly when a line break follows it
  before anything else does;
* `normalizeContext_idem` : a normalized context stays as it is;
* `ChatMessageHelper.buildMessageHistory_spec` : **the prompt message by message**, the chunks
  without loss.
-/

namespace StudyOasis

/-! ### Line breaks -/

section

variable {c : UInt16} {s t run : JsString}

/-- Drop the spaces that a line break follows before anything else does. -/
def dropBeforeBreak : JsString → JsString
  | [] => []
  | c :: s =>
    if isSpace c ∧ 10 ∈ s.takeWhile isSpace then dropBeforeBreak s else c :: dropBeforeBreak s

/-- Nothing, or a text that starts with no space. -/
abbrev StartsDark (t : JsString) : Prop := ∀ c ∈ t.head?, isSpace c = false

theorem takeWhile_run (hrun : ∀ c ∈ run, isSpace c = true) (ht : StartsDark t) :
    (run ++ t).takeWhile isSpace = run := by
  rw [List.takeWhile_append_of_pos hrun]
  cases t with
  | nil => simp
  | cons c t => rw [List.takeWhile_cons_of_neg (by simp [ht c rfl]), List.append_nil]

/-- A run of spaces is cut off in front of its last line break. -/
theorem squeezeRun_append {p q : JsString} (hq : 10 ∉ q) :
    squeezeRun (p ++ 10 :: q) = 10 :: q := by
  have hlast : (p ++ 10 :: q).reverse.takeWhile (· ≠ 10) = q.reverse := by
    rw [List.reverse_append, List.reverse_cons, List.append_assoc, List.takeWhile_append_of_pos]
    · simp
    · intro c hc
      refine decide_eq_true ?_
      rintro rfl
      exact hq (List.mem_reverse.1 hc)
  unfold squeezeRun
  split_ifs with h
  · rw [hlast, List.reverse_reverse]
  · cases p with
    | nil => rfl
    | cons c p => exact absurd (by simp) h

theorem squeezeRun_of_not_mem (h : 10 ∉ run) : squeezeRun run = run :=
  if_neg fun hdrop => h (List.mem_of_mem_drop hdrop)

theorem dropBeforeBreak_run (hrun : ∀ c ∈ run, isSpace c = true) (ht : StartsDark t)
    (h : 10 ∉ run) : dropBeforeBreak (run ++ t) = run ++ dropBeforeBreak t := by
  induction run with
  | nil => rfl
  | cons c run ih =>
    have hspaces : ∀ c ∈ run, isSpace c = true := fun c hc => hrun c (List.mem_cons_of_mem _ hc)
    have hbreak : 10 ∉ run := fun hmem => h (List.mem_cons_of_mem _ hmem)
    rw [List.cons_append, dropBeforeBreak, takeWhile_run hspaces ht, if_neg fun hc => hbreak hc.2,
      ih hspaces hbreak]
    rfl

/-- What is left of a run of spaces. -/
theorem dropBeforeBreak_append (hrun : ∀ c ∈ run, isSpace c = true) (ht : StartsDark t) :
    dropBeforeBreak (run ++ t) = squeezeRun run ++ dropBeforeBreak t := by
  by_cases h : 10 ∈ run
  · obtain ⟨p, q, rfl, hq⟩ := exists_last_of_mem h
    rw [squeezeRun_append hq]
    clear h
    induction p with
    | nil =>
      have hspaces : ∀ c ∈ q, isSpace c = true := fun c hc => hrun c (List.mem_cons_of_mem _ hc)
      rw [List.nil_append, List.cons_append, dropBeforeBreak, takeWhile_run hspaces ht,
        if_neg fun hc => hq hc.2, dropBeforeBreak_run hspaces ht hq]
      rfl
    | cons c p ih =>
      -- the break at the end of the run takes the space away
      have hspaces : ∀ c ∈ p ++ 10 :: q, isSpace c = true := fun c hc =>
        hrun c (List.mem_cons_of_mem _ hc)
      rw [List.cons_append, List.cons_append, dropBeforeBreak, takeWhile_run hspaces ht,
        if_pos ⟨hrun c List.mem_cons_self, by simp⟩, ih hspaces]
  · rw [squeezeRun_of_not_mem h, dropBeforeBreak_run hrun ht h]

theorem squeezeFrom_eq (hrun : ∀ c ∈ run, isSpace c = true) :
    squeezeFrom run s = dropBeforeBreak (run ++ s) := by
  induction s generalizing run with
  | nil =>
    have hdark : StartsDark [] := fun c hc => (by cases hc)
    rw [squeezeFrom, dropBeforeBreak_append hrun hdark, dropBeforeBreak, List.append_nil]
  | cons c s ih =>
    rw [squeezeFrom]
    split_ifs with hc
    · rw [ih (by simpa [or_imp, forall_and, hc] using hrun), List.append_assoc,
        List.singleton_append]
    · have hdark : StartsDark (c :: s) := by
        intro x hx
        obtain rfl := Option.some.inj hx
        exact Bool.eq_false_iff.2 hc
      rw [dropBeforeBreak_append hrun hdark, dropBeforeBreak, if_neg fun h => hc h.1,
        ih (by simp), List.nil_append]

/-- **`replace(/\s+\n/g, '\n')`** drops a space exactly when a line break follows it before anything
else does. -/
theorem squeezeFrom_nil (s : JsString) : squeezeFrom [] s = dropBeforeBreak s :=
  squeezeFrom_eq (by simp)

/-! ### Normalized texts -/

/-- No line break stands behind a space. -/
abbrev BreaksTight (s : JsString) : Prop := s.IsChain fun a b => ¬ (isSpace a = true ∧ b = 10)

theorem mem_of_head?_dropBeforeBreak (h : (dropBeforeBreak s).head? = some 10) :
    10 ∈ s.takeWhile isSpace := by
  cases s with
  | nil => cases h
  | cons c s =>
    rw [dropBeforeBreak] at h
    split_ifs at h with hc
    · rw [List.takeWhile_cons_of_pos hc.1]
      exact List.mem_cons_of_mem _ hc.2
    · obtain rfl := Option.some.inj h
      rw [List.takeWhile_cons_of_pos rfl]
      exact List.mem_cons_self

theorem dropBeforeBreak_tight (s : JsString) : BreaksTight (dropBeforeBreak s) := by
  induction s with
  | nil => exact .nil
  | cons c s ih =>
    rw [dropBeforeBreak]
    split_ifs with hc
    · exact ih
    · refine List.isChain_cons.2 ⟨?_, ih⟩
      rintro x hx ⟨hspace, rfl⟩
      exact hc ⟨hspace, mem_of_head?_dropBeforeBreak hx⟩

/-- Behind a space of a normalized text, something else comes before the next line break. -/
theorem not_mem_of_tight (h : BreaksTight (c :: s)) (hc : isSpace c = true) :
    10 ∉ s.takeWhile isSpace := by
  induction s generalizing c with
  | nil => simp
  | cons d s ih =>
    obtain ⟨hd, hs⟩ := List.isChain_cons_cons.1 h
    intro hmem
    by_cases hspace : isSpace d = true
    · rw [List.takeWhile_cons_of_pos hspace] at hmem
      rcases List.mem_cons.1 hmem with rfl | hmem
      · exact hd ⟨hc, rfl⟩
      · exact ih hs hspace hmem
    · rw [List.takeWhile_cons_of_neg hspace] at hmem
      cases hmem

theorem dropBeforeBreak_eq_self (h : BreaksTight s) : dropBeforeBreak s = s := by
  induction s with
  | nil => rfl
  | cons c s ih =>
    rw [dropBeforeBreak, if_neg fun hc => not_mem_of_tight h hc.1 hc.2,
      ih (List.isChain_cons.1 h).2]

/-- What `trim` leaves is a part of the text. -/
theorem trim_isInfix (s : JsString) : trim s <:+: s :=
  (List.rdropWhile_prefix isSpace _).isInfix.trans (List.dropWhile_suffix isSpace).isInfix

/-- `NORMALIZED`. -/
def normalizeContext (documentContext : JsString) : JsString :=
  trim (squeezeFrom [] documentContext)

theorem normalizeContext_eq (s : JsString) : normalizeContext s = trim (dropBeforeBreak s) := by
  rw [normalizeContext, squeezeFrom_nil]

theorem normalizeContext_tight (s : JsString) : BreaksTight (normalizeContext s) := by
  rw [normalizeContext_eq]
  obtain ⟨p, q, h⟩ := trim_isInfix (dropBeforeBreak s)
  have htight := dropBeforeBreak_tight s
  rw [← h] at htight
  exact htight.left_of_append.right_of_append

/-- **Normalizing is idempotent.** -/
theorem normalizeContext_idem (s : JsString) :
    normalizeContext (normalizeContext s) = normalizeContext s := by
  rw [normalizeContext_eq (normalizeContext s), dropBeforeBreak_eq_self (normalizeContext_tight s),
    normalizeContext, trim_trim]

end

/-! ### The prompt -/

namespace ChatMessageHelper

/-- The heading of a chunk. -/
def chunkLabel (number total : ℕ) : JsString :=
  js ("文档片段 " ++ toString number ++ "/" ++ toString total ++ "（保持原始顺序）：\n")

/-- The message for the chunk with the given index. -/
def chunkMessage (total i : ℕ) (chunk : JsString) : DeepSeekMessage :=
  ⟨.system, chunkLabel (i + 1) total ++ chunk⟩

/-- The warning that the context has been cut off. -/
def truncationWarning : DeepSeekMessage :=
  ⟨.system, js "⚠️ 文档内容较长，只截取了前半部分。若需要更详细的段落，可让学生指定页码或关键段落，我会再深入查阅。"⟩

/-- The chunks of a normalized context: none is empty or longer than 2000 code units, and together
they are the first 20000. -/
structure ContextChunks (normalized : JsString) (chunks : List JsString) : Prop where
  ne_nil : ∀ chunk ∈ chunks, chunk ≠ []
  length_le : ∀ chunk ∈ chunks, chunk.length ≤ 2000
  flatten : chunks.flatten = normalized.take (min 20000 normalized.length)

/-- The texts of the chunks that are sent. -/
def contextChunks (documentContext : JsString) : List JsString :=
  chunks chunkSize ((normalizeContext documentContext).take maxContext)

theorem contextChunks_spec (documentContext : JsString) :
    ContextChunks (normalizeContext documentContext) (contextChunks documentContext) := by
  refine ⟨fun c hc => ne_nil_of_mem_chunks (by decide) hc,
    fun c hc => length_le_of_mem_chunks hc, ?_⟩
  rw [contextChunks, flatten_chunks (by decide), ← List.take_eq_take_min]
  rfl

/-- The messages for a context are those for its chunks, and the warning if some of it is left
out. -/
theorem documentContextMessages_eq (documentContext : JsString) :
    documentContextMessages documentContext =
      (contextChunks documentContext).mapIdx
          (chunkMessage (contextChunks documentContext).length) ++
        if 20000 < (normalizeContext documentContext).length then [truncationWarning] else [] := by
  rw [contextChunks, mapIdx_chunks, length_chunks]
  by_cases h : 20000 < (normalizeContext documentContext).length
  · rw [if_pos h]
    exact if_pos h
  · rw [if_neg h, List.append_nil]
    exact if_neg h

/-- An empty context counts as none. -/
theorem getD_map_filter (documentContext : Option JsString) :
    ((documentContext.filter (· ≠ [])).map documentContextMessages).getD [] =
      documentContextMessages (documentContext.getD []) := by
  cases documentContext with
  | none => rfl
  | some context =>
    rw [Option.filter_some]
    split_ifs with h
    · rfl
    · obtain rfl : context = [] := by simpa using h
      rfl

theorem isSome_filter (documentContext : Option JsString) :
    (documentContext.filter (· ≠ [])).isSome = decide (documentContext.getD [] ≠ []) := by
  cases documentContext with
  | none => rfl
  | some context =>
    rw [Option.filter_some]
    split_ifs with h
    · exact h.symm
    · exact (Bool.not_eq_true _ ▸ h : decide (context ≠ []) = false).symm

/-- **The prompt message by message.**  The system prompt, the chunks with their numbers, the
warning exactly when the normalized context is too long, and the last ten messages. -/
theorem buildMessageHistory_spec (dbMessages : List DbMessage) (documentContext : Option JsString)
    (hintLevel : HintLevel) :
    let context := documentContext.getD []
    let normalized := normalizeContext context
    (∃ chunks, ContextChunks normalized chunks ∧
      buildMessageHistory dbMessages documentContext hintLevel =
        [⟨.system, ChatPromptBuilder.buildSystemPrompt hintLevel (context ≠ [])⟩] ++
        chunks.mapIdx (chunkMessage chunks.length) ++
        (if 20000 < normalized.length then [truncationWarning] else []) ++
        (dbMessages.drop (dbMessages.length - 10)).map DbMessage.toDeepSeek) ∧
    normalized = trim (dropBeforeBreak context) ∧ normalizeContext normalized = normalized := by
  intro context normalized
  refine ⟨⟨_, contextChunks_spec context, ?_⟩, normalizeContext_eq context,
    normalizeContext_idem context⟩
  simp only [buildMessageHistory]
  rw [getD_map_filter, isSome_filter, documentContextMessages_eq, ← List.append_assoc]
  rfl

end ChatMessageHelper

end StudyOasis
