import Mathlib.Data.Bool.AllAny
import Mathlib.Data.List.Flatten
import StudyOasis.Chat.Sse

/-!
# The upstream of the chat stream

The `data` handler of `ChatService.chatStream` decodes and splits every buffer that the upstream
delivers on its own, and keeps nothing between two buffers.  `JSON.parse` is a parameter;
`JsonLaws` says what is relied on: a piece of an object text is not read as a chunk.

What is accumulated is what the lines carry that no cut tears apart (`chatStream_eq`); so it is
the same as for a single buffer exactly when the torn lines carry no content and not the last
usage (`chatStream_cut_iff`).
-/

namespace StudyOasis

/-- `choices[i].delta`. -/
structure UpstreamDelta where
  content : Option JsString := none
  deriving DecidableEq, Repr

/-- `choices[i]`. -/
structure UpstreamChoice where
  delta : Option UpstreamDelta := none
  deriving DecidableEq, Repr

/-- `usage`. -/
structure UpstreamUsage where
  total_tokens : Option ℤ := none
  deriving DecidableEq, Repr

/-- What the handler reads of a parsed chunk. -/
structure UpstreamChunk where
  choices : Option (List UpstreamChoice) := none
  usage : Option UpstreamUsage := none
  deriving DecidableEq, Repr

namespace UpstreamChunk

/-- `parsed.choices?.[0]?.delta?.content || ''`. -/
def token (parsed : UpstreamChunk) : JsString :=
  (((parsed.choices.bind (·.head?)).bind (·.delta)).bind (·.content)).getD []

/-- `parsed.usage.total_tokens || 0`, when there is a `usage`. -/
def totalTokens (parsed : UpstreamChunk) : Option ℤ :=
  parsed.usage.map fun usage => usage.total_tokens.getD 0

end UpstreamChunk

/-- The variables of the stream handlers and the frames written so far. -/
structure StreamState where
  fullReply : JsString := []
  tokensUsed : ℤ := 0
  frames : List SseData := []
  deriving DecidableEq, Repr

/-- `'[DONE]'`. -/
def doneText : List Char := "[DONE]".toList

namespace ChatService

variable (parse : List Char → Option UpstreamChunk)

/-- The body of the loop over the lines of a buffer. -/
def handleLine (st : StreamState) (line : List Char) : StreamState :=
  if dataPrefix.isPrefixOf line then
    let data := line.drop 6
    if data = doneText then st
    else
      match parse data with
      -- the error is logged, and the line is lost
      | none => st
      | some parsed =>
        let token := parsed.token
        let st := if token ≠ [] then
            { st with
              fullReply := st.fullReply ++ token
              frames := st.frames ++ [.tokenFrame token] }
          else st
        match parsed.totalTokens with
        | none => st
        | some tokensUsed => { st with tokensUsed }
  else st

/-- The `data` handler. -/
def onData (st : StreamState) (chunk : List UInt8) : StreamState :=
  ((Utf8.decode chunk).splitOn '\n').foldl (handleLine parse) st

/-- The handlers on the buffers that the upstream delivers. -/
def chatStream (chunks : List (List UInt8)) : StreamState := chunks.foldl (onData parse) {}

end ChatService

/-- A line of the upstream: `data: <json>`, a blank line or `data: [DONE]`. -/
inductive UpstreamLine where
  | data (json : List Char)
  | blank
  | done
  deriving DecidableEq, Repr

/-- The text of the line. -/
def UpstreamLine.text : UpstreamLine → List Char
  | data json => dataPrefix ++ json
  | blank => []
  | done => dataPrefix ++ doneText

/-- The bytes of the upstream. -/
def upstreamBytes (lines : List UpstreamLine) : List UInt8 :=
  lines.flatMap fun l => Utf8.encode l.text ++ [10]

/-- What is relied on of `JSON.parse`, with respect to the texts that are JSON objects: it rejects
what is cut off before the end of an object, and `[DONE]` with all it is cut off to; and what
follows a `data: ` inside an object, which can only stand in a string of it, has neither `choices`
nor `usage`. -/
structure JsonLaws (parse : List Char → Option UpstreamChunk) (IsObject : List Char → Prop) :
    Prop where
  rejects_prefix : ∀ json p q, IsObject json → Utf8.encode json = p ++ q → q ≠ [] →
    parse (Utf8.decode p) = none
  inside_string : ∀ json a p q, IsObject json →
    Utf8.encode json = a ++ Utf8.encode dataPrefix ++ p ++ q →
    ∀ parsed ∈ parse (Utf8.decode p), parsed.choices = none ∧ parsed.usage = none
  rejects_done : ∀ p q, doneText = p ++ q → parse p = none

/-- A data line holds an object in one line. -/
def UpstreamLine.WellFormed (IsObject : List Char → Prop) : UpstreamLine → Prop
  | data json => IsObject json ∧ '\n' ∉ json
  | blank => True
  | done => True

/-! ### What a line contributes -/

/-- What a line contributes: a token and the number of tokens used. -/
structure Contribution where
  token : JsString := []
  usage : Option ℤ := none
  deriving DecidableEq, Repr

section

variable (parse : List Char → Option UpstreamChunk)

/-- What the handler takes from a line. -/
def contribution (line : List Char) : Contribution :=
  if dataPrefix.isPrefixOf line ∧ line.drop 6 ≠ doneText then
    match parse (line.drop 6) with
    | none => {}
    | some parsed => { token := parsed.token, usage := parsed.totalTokens }
  else {}

/-- Take one more contribution. -/
def StreamState.add (st : StreamState) (c : Contribution) : StreamState :=
  { fullReply := st.fullReply ++ c.token
    tokensUsed := c.usage.getD st.tokensUsed
    frames := if c.token = [] then st.frames else st.frames ++ [.tokenFrame c.token] }

theorem handleLine_eq (st : StreamState) (line : List Char) :
    ChatService.handleLine parse st line = st.add (contribution parse line) := by
  unfold ChatService.handleLine contribution
  by_cases hpre : dataPrefix.isPrefixOf line
  · by_cases hdone : line.drop 6 = doneText
    · simp [hpre, hdone, StreamState.add]
    · simp only [hpre, hdone, if_true, if_false, ne_eq, not_false_eq_true, and_self]
      cases parse (line.drop 6) with
      | none => simp [StreamState.add]
      | some parsed =>
        cases hu : parsed.totalTokens <;> by_cases ht : parsed.token = [] <;>
          simp [StreamState.add, hu, ht]
  · simp [hpre, StreamState.add]

/-- What a sequence of contributions adds up to. -/
def accumulate (cs : List Contribution) : StreamState := cs.foldl StreamState.add {}

theorem foldl_add (cs : List Contribution) (st : StreamState) :
    cs.foldl StreamState.add st =
      { fullReply := st.fullReply ++ cs.flatMap (·.token)
        tokensUsed := ((cs.filterMap (·.usage)).getLast?).getD st.tokensUsed
        frames := st.frames ++
          (cs.filter (·.token ≠ [])).map fun c => .tokenFrame c.token } := by
  induction cs generalizing st with
  | nil => simp
  | cons c cs ih =>
    rw [List.foldl_cons, ih]
    simp only [StreamState.add, StreamState.mk.injEq]
    refine ⟨by simp, ?_, ?_⟩
    · cases hu : c.usage with
      | none => simp [hu]
      | some u => simp [hu, List.getLast?_cons]
    · by_cases ht : c.token = [] <;> simp [ht]

/-- A contribution that changes nothing. -/
def Contribution.Silent (c : Contribution) : Prop := c = {}

instance (c : Contribution) : Decidable c.Silent := inferInstanceAs (Decidable (c = {}))

/-- The contributions that count. -/
def significant (cs : List Contribution) : List Contribution := cs.filter fun c => ¬ c.Silent

theorem accumulate_significant (cs : List Contribution) :
    accumulate (significant cs) = accumulate cs := by
  have hadd (st : StreamState) : st.add {} = st := by simp [StreamState.add]
  unfold accumulate
  generalize ({} : StreamState) = st
  induction cs generalizing st with
  | nil => rfl
  | cons c cs ih =>
    by_cases hc : c.Silent
    · obtain rfl : c = {} := hc
      rw [List.foldl_cons, hadd, ← ih]
      rfl
    · rw [significant, List.filter_cons_of_pos (by simpa using hc)]
      exact ih _

/-! ### The pieces of a line -/

/-- A cut tears the line apart: two of its pieces have something in them. -/
def Torn (pieces : List (List UInt8)) : Prop := 2 ≤ (pieces.filter (· ≠ [])).length

instance (pieces : List (List UInt8)) : Decidable (Torn pieces) :=
  inferInstanceAs (Decidable (2 ≤ _))

/-- What the handler takes from a piece of a line. -/
def pieceContribution (piece : List UInt8) : Contribution :=
  contribution parse (Utf8.decode piece)

theorem onData_eq (st : StreamState) (chunk : List UInt8) :
    ChatService.onData parse st chunk =
      ((chunk.splitOn 10).map (pieceContribution parse)).foldl StreamState.add st := by
  rw [ChatService.onData, Utf8.splitOn_decode, List.foldl_map, List.foldl_map]
  simp only [handleLine_eq, pieceContribution]

theorem chatStream_eq_accumulate (chunks : List (List UInt8)) :
    ChatService.chatStream parse chunks =
      accumulate ((linePieces 10 chunks).flatten.map (pieceContribution parse)) := by
  unfold ChatService.chatStream accumulate
  rw [flatten_linePieces]
  generalize ({} : StreamState) = st
  induction chunks generalizing st with
  | nil => rfl
  | cons chunk chunks ih =>
    rw [List.foldl_cons, ih, onData_eq, List.flatMap_cons, List.map_append, List.foldl_append]

variable {parse} {IsObject : List Char → Prop}

theorem isAscii_dataPrefix : ∀ c ∈ dataPrefix, Utf8.IsAscii c :=
  List.all_iff_forall_prop.1 (by decide)

/-- A piece that counts starts with `data: `. -/
theorem exists_of_not_silent {piece : List UInt8} (h : ¬ (pieceContribution parse piece).Silent) :
    ∃ p parsed, piece = Utf8.encode dataPrefix ++ p ∧ Utf8.decode p ≠ doneText ∧
      parse (Utf8.decode p) = some parsed ∧
      pieceContribution parse piece = { token := parsed.token, usage := parsed.totalTokens } := by
  unfold pieceContribution contribution at h ⊢
  split_ifs at h ⊢ with hline
  · obtain ⟨rest, hrest⟩ := List.isPrefixOf_iff_prefix.1 hline.1
    obtain ⟨p, rfl, hp⟩ := Utf8.append_of_decode isAscii_dataPrefix hrest.symm
    have hdrop : (Utf8.decode (Utf8.encode dataPrefix ++ p)).drop 6 = Utf8.decode p := by
      rw [← hrest, hp]
      rfl
    rw [hdrop] at h hline ⊢
    cases hparse : parse (Utf8.decode p) with
    | none => simp [hparse, Contribution.Silent] at h
    | some parsed => exact ⟨p, parsed, rfl, hline.2, hparse, rfl⟩
  · exact absurd rfl h

/-- `data: ` does not overlap with itself. -/
theorem append_of_dataPrefix {a r s : List UInt8} (ha : a ≠ [])
    (h : a ++ (Utf8.encode dataPrefix ++ r) = Utf8.encode dataPrefix ++ s) :
    ∃ a', a = Utf8.encode dataPrefix ++ a' ∧ s = a' ++ (Utf8.encode dataPrefix ++ r) := by
  have hhead : Utf8.encode dataPrefix = 100 :: (Utf8.encode dataPrefix).tail := by decide
  have htail : 100 ∉ (Utf8.encode dataPrefix).tail := by decide
  rcases List.append_eq_append_iff.1 h with ⟨c, hc, hr⟩ | ⟨c, hc, hs⟩
  · cases c with
    | nil => exact ⟨[], by rw [hc]; simp, hr.symm⟩
    | cons x c =>
      exfalso
      rw [hhead, List.cons_append] at hr
      obtain rfl := (List.cons.inj hr).1
      obtain ⟨y, a, rfl⟩ := List.exists_cons_of_ne_nil ha
      rw [hhead, List.cons_append] at hc
      rw [(List.cons.inj hc).2] at htail
      simp at htail
  · exact ⟨c, hc, hs⟩

/-- What `[DONE]` is cut off to is rejected. -/
theorem rejects_done_bytes (hJ : JsonLaws parse IsObject) {p b : List UInt8}
    (h : p ++ b = Utf8.encode doneText) (hb : b ≠ []) : parse (Utf8.decode p) = none := by
  obtain ⟨x, b, rfl⟩ := List.exists_cons_of_ne_nil hb
  have hascii : ∀ y ∈ Utf8.encode doneText, y.toNat < 0x80 :=
    List.all_iff_forall_prop.1 (by decide)
  have hx : x.toNat < 0x80 := hascii x (by rw [← h]; simp)
  refine hJ.rejects_done _ (Char.ofNat x.toNat :: Utf8.decode b) ?_
  rw [← Utf8.decode_encode doneText, ← h]
  exact Utf8.decodeFrom_append_ascii {} p hx b

/-- **A piece of a line that is not the whole line changes nothing.** -/
theorem silent_of_piece (hJ : JsonLaws parse IsObject) {l : UpstreamLine}
    (hl : l.WellFormed IsObject) {a piece b : List UInt8}
    (h : a ++ (piece ++ b) = Utf8.encode l.text) (htorn : a ≠ [] ∨ b ≠ []) :
    (pieceContribution parse piece).Silent := by
  by_contra hloud
  obtain ⟨p, parsed, rfl, hdone, hparse, heq⟩ := exists_of_not_silent hloud
  rw [List.append_assoc] at h
  cases l with
  | data json =>
    rw [UpstreamLine.text, Utf8.encode_append] at h
    by_cases ha : a = []
    · -- the piece is cut off before the end of the object
      subst ha
      rw [List.nil_append] at h
      have hjson : Utf8.encode json = p ++ b := (List.append_cancel_left h).symm
      rw [hJ.rejects_prefix json p b hl.1 hjson (htorn.resolve_left (· rfl))] at hparse
      cases hparse
    · -- the piece starts inside the object
      obtain ⟨a', -, hjson⟩ := append_of_dataPrefix ha h
      obtain ⟨hchoices, husage⟩ := hJ.inside_string json a' p b hl.1
        (by simpa using hjson) parsed hparse
      refine hloud ?_
      rw [heq]
      simp [Contribution.Silent, UpstreamChunk.token, UpstreamChunk.totalTokens, hchoices, husage]
  | blank =>
    have hnil := List.append_eq_nil_iff.1 h
    rcases htorn with ha | hb
    · exact ha hnil.1
    · exact hb (List.append_eq_nil_iff.1 (List.append_eq_nil_iff.1 hnil.2).2).2
  | done =>
    rw [UpstreamLine.text, Utf8.encode_append] at h
    by_cases ha : a = []
    · subst ha
      rw [List.nil_append] at h
      rw [rejects_done_bytes hJ (List.append_cancel_left h) (htorn.resolve_left (· rfl))] at hparse
      cases hparse
    -- `[DONE]` is as long as `data: `, so it would have to be `data: `
    · obtain ⟨a', -, hd⟩ := append_of_dataPrefix ha h
      have hlen : (Utf8.encode doneText).length = (Utf8.encode dataPrefix).length := by decide
      have hne : Utf8.encode doneText ≠ Utf8.encode dataPrefix := by decide
      have hlen' := congrArg List.length hd
      simp only [List.length_append] at hlen'
      obtain rfl : a' = [] := List.eq_nil_of_length_eq_zero (by omega)
      obtain rfl : p = [] := List.eq_nil_of_length_eq_zero (by omega)
      obtain rfl : b = [] := List.eq_nil_of_length_eq_zero (by omega)
      exact hne (by simpa using hd)

theorem significant_cons_of_silent {c : Contribution} (hc : c.Silent) (cs : List Contribution) :
    significant (c :: cs) = significant cs := by
  simp [significant, hc]

theorem significant_append (cs cs' : List Contribution) :
    significant (cs ++ cs') = significant cs ++ significant cs' := List.filter_append ..

theorem significant_eq_nil {cs : List Contribution} (h : ∀ c ∈ cs, c.Silent) :
    significant cs = [] := by
  simpa [significant] using h

theorem silent_nil : (pieceContribution parse []).Silent := rfl

/-- Empty pieces do not count. -/
theorem significant_filter (ps : List (List UInt8)) :
    significant ((ps.filter (· ≠ [])).map (pieceContribution parse)) =
      significant (ps.map (pieceContribution parse)) := by
  induction ps with
  | nil => rfl
  | cons p ps ih =>
    by_cases hp : p = []
    · subst hp
      rw [List.map_cons, significant_cons_of_silent silent_nil, ← ih]
      rfl
    · rw [List.filter_cons_of_pos (by simpa using hp), List.map_cons, List.map_cons,
        ← List.singleton_append, significant_append, ih, ← significant_append]
      rfl

/-- Two pieces of a line, and more, are silent when none of them is empty. -/
theorem silent_of_mem_pieces (hJ : JsonLaws parse IsObject) {l : UpstreamLine}
    (hl : l.WellFormed IsObject) {qs : List (List UInt8)} (hne : ∀ q ∈ qs, q ≠ [])
    (h : qs.flatten = Utf8.encode l.text) (hlen : 2 ≤ qs.length) {q : List UInt8} (hq : q ∈ qs) :
    (pieceContribution parse q).Silent := by
  obtain ⟨s, t, rfl⟩ := List.append_of_mem hq
  rw [List.flatten_append, List.flatten_cons] at h
  refine silent_of_piece hJ hl h ?_
  cases s with
  | cons x s =>
    left
    have := hne x (by simp)
    simp [this]
  | nil =>
    cases t with
    | cons x t =>
      right
      have := hne x (by simp)
      simp [this]
    | nil => simp at hlen

/-- **What the pieces of a line add up to**: the line, or nothing when it is torn. -/
theorem significant_pieces (hJ : JsonLaws parse IsObject) {l : UpstreamLine}
    (hl : l.WellFormed IsObject) {ps : List (List UInt8)}
    (h : ps.flatten = Utf8.encode l.text) :
    significant (ps.map (pieceContribution parse)) =
      if Torn ps then [] else significant [contribution parse l.text] := by
  have hne : ∀ p ∈ ps.filter (· ≠ []), p ≠ [] := by simp
  have hflat : (ps.filter (· ≠ [])).flatten = Utf8.encode l.text :=
    List.flatten_filter_ne_nil.trans h
  rw [← significant_filter]
  by_cases htorn : Torn ps
  · rw [if_pos htorn]
    refine significant_eq_nil ?_
    intro c hc
    obtain ⟨q, hq, rfl⟩ := List.mem_map.1 hc
    exact silent_of_mem_pieces hJ hl hne hflat htorn hq
  -- at most one piece has something in it, and that is the whole line
  · rw [if_neg htorn]
    have hlen : (ps.filter (· ≠ [])).length < 2 := Nat.lt_of_not_le htorn
    match hqs : ps.filter (· ≠ []) with
    | [] =>
      rw [hqs] at hflat
      have htext : l.text = [] := by rw [← Utf8.decode_encode l.text, ← hflat]; rfl
      rw [htext]
      rfl
    | [q] =>
      rw [hqs, List.flatten_singleton] at hflat
      rw [List.map_singleton, pieceContribution, hflat, Utf8.decode_encode]
    | q :: q' :: qs =>
      rw [hqs, List.length_cons, List.length_cons] at hlen
      omega

/-! ### Whole streams -/

/-- The lines that no cut tears apart. -/
def wholeLines (lines : List UpstreamLine) (chunks : List (List UInt8)) : List UpstreamLine :=
  ((lines.zip (linePieces 10 chunks)).filter fun p => ¬ Torn p.2).map (·.1)

theorem newline_not_mem_text {l : UpstreamLine} (hl : l.WellFormed IsObject) : '\n' ∉ l.text := by
  cases l with
  | data json =>
    rw [UpstreamLine.text, List.mem_append, not_or]
    exact ⟨newline_not_mem_dataPrefix, hl.2⟩
  | blank => exact List.not_mem_nil
  | done => decide

/-- The pieces of the lines of an upstream, line by line. -/
theorem linePieces_upstream {lines : List UpstreamLine} (hl : ∀ l ∈ lines, l.WellFormed IsObject)
    {chunks : List (List UInt8)} (hB : chunks.flatten = upstreamBytes lines) :
    ∃ pss last, linePieces 10 chunks = pss ++ [last] ∧ last.flatten = [] ∧
      pss.map List.flatten = lines.map fun l => Utf8.encode l.text := by
  have hlines : upstreamBytes lines = (lines.map fun l => Utf8.encode l.text).flatMap (· ++ [10]) :=
    by rw [upstreamBytes, List.flatMap_map]
  have h := map_flatten_linePieces 10 chunks
  rw [hB, hlines, splitOn_flatMap_terminated] at h
  · obtain ⟨pss, rest, h1, h2, h3⟩ := List.map_eq_append_iff.1 h
    obtain ⟨last, rfl, hlast⟩ := List.map_eq_singleton_iff.1 h3
    exact ⟨pss, last, h1, hlast, h2⟩
  · intro bs hbs hmem
    obtain ⟨l, hmem', rfl⟩ := List.mem_map.1 hbs
    exact newline_not_mem_text (hl l hmem') (Utf8.mem_of_mem_encode (by decide) hmem)

/-- What counts of the pieces is what counts of the whole lines. -/
theorem significant_linePieces (hJ : JsonLaws parse IsObject) {lines : List UpstreamLine}
    (hl : ∀ l ∈ lines, l.WellFormed IsObject) {pss : List (List (List UInt8))}
    (h : pss.map List.flatten = lines.map fun l => Utf8.encode l.text) :
    significant (pss.flatten.map (pieceContribution parse)) =
      significant ((((lines.zip pss).filter fun p => ¬ Torn p.2).map (·.1)).map
        fun l => contribution parse l.text) := by
  induction lines generalizing pss with
  | nil =>
    obtain rfl := List.map_eq_nil_iff.1 h
    rfl
  | cons l lines ih =>
    cases pss with
    | nil => cases h
    | cons ps pss =>
      obtain ⟨hps, hpss⟩ := List.cons.inj h
      rw [List.flatten_cons, List.map_append, significant_append,
        significant_pieces hJ (hl l List.mem_cons_self) hps,
        ih (fun l' hl' => hl l' (List.mem_cons_of_mem l hl')) hpss, List.zip_cons_cons]
      by_cases htorn : Torn ps
      · simp [htorn]
      · simp [htorn, ← significant_append]

/-- **What the handlers accumulate**: what the lines carry that no cut tears apart. -/
theorem chatStream_eq (hJ : JsonLaws parse IsObject) {lines : List UpstreamLine}
    (hl : ∀ l ∈ lines, l.WellFormed IsObject) {chunks : List (List UInt8)}
    (hB : chunks.flatten = upstreamBytes lines) :
    ChatService.chatStream parse chunks =
      accumulate ((wholeLines lines chunks).map fun l => contribution parse l.text) := by
  obtain ⟨pss, last, hpieces, hlast, hpss⟩ := linePieces_upstream hl hB
  have hlen : lines.length = pss.length := by simpa using (congrArg List.length hpss).symm
  have hsilent : significant (last.map (pieceContribution parse)) = [] := by
    refine significant_eq_nil ?_
    intro c hc
    obtain ⟨q, hq, rfl⟩ := List.mem_map.1 hc
    rw [List.flatten_eq_nil_iff.1 hlast q hq]
    exact silent_nil
  -- behind the last line break nothing follows
  have hzip : lines.zip (pss ++ [last]) = lines.zip pss := by
    have h : (lines ++ []).zip (pss ++ [last]) = lines.zip pss ++ [].zip [last] :=
      List.zip_append hlen
    simpa using h
  rw [chatStream_eq_accumulate, ← accumulate_significant, wholeLines, hpieces, hzip,
    List.flatten_append, List.map_append, significant_append, List.flatten_singleton, hsilent,
    List.append_nil, significant_linePieces hJ hl hpss, accumulate_significant]

/-- Every line has its pieces. -/
theorem map_fst_zip_linePieces {lines : List UpstreamLine}
    (hl : ∀ l ∈ lines, l.WellFormed IsObject) {chunks : List (List UInt8)}
    (hB : chunks.flatten = upstreamBytes lines) :
    (lines.zip (linePieces 10 chunks)).map (·.1) = lines := by
  obtain ⟨pss, last, hpieces, -, hpss⟩ := linePieces_upstream hl hB
  have hlen : pss.length = lines.length := by simpa using congrArg List.length hpss
  refine List.map_fst_zip ?_
  rw [hpieces, List.length_append, hlen]
  omega

/-- Nothing is torn when everything arrives at once. -/
theorem wholeLines_single {lines : List UpstreamLine} (hl : ∀ l ∈ lines, l.WellFormed IsObject) :
    wholeLines lines [upstreamBytes lines] = lines := by
  have hnot : ∀ ps ∈ linePieces 10 [upstreamBytes lines], ¬ Torn ps := by
    intro ps hps htorn
    have hone : ps.length = 1 := by
      simp only [linePieces, List.modifyHead_cons, List.mem_append, List.mem_map,
        List.mem_singleton] at hps
      rcases hps with ⟨piece, -, rfl⟩ | rfl <;> rfl
    have hle : (ps.filter (· ≠ [])).length ≤ ps.length := List.length_filter_le ..
    have htwo : 2 ≤ (ps.filter (· ≠ [])).length := htorn
    omega
  have hall : ∀ p ∈ lines.zip (linePieces 10 [upstreamBytes lines]),
      decide (¬ Torn p.2) = true := by
    rintro ⟨l, ps⟩ hp
    simpa using hnot ps (List.of_mem_zip hp).2
  rw [wholeLines, List.filter_eq_self.2 hall]
  exact map_fst_zip_linePieces hl List.flatten_singleton

end

/-! ### What a line carries -/

namespace UpstreamLine

variable (parse : List Char → Option UpstreamChunk)

/-- What is parsed of the line. -/
def parsed : UpstreamLine → Option UpstreamChunk
  | data json => parse json
  | blank => none
  | done => none

/-- The content the line carries. -/
def content (l : UpstreamLine) : JsString := ((l.parsed parse).map (·.token)).getD []

/-- The frames that are written for the line. -/
def frames (l : UpstreamLine) : List SseData :=
  if l.content parse = [] then [] else [.tokenFrame (l.content parse)]

/-- The usage the line carries. -/
def usage (l : UpstreamLine) : Option ℤ := (l.parsed parse).bind (·.totalTokens)

end UpstreamLine

section

variable {parse : List Char → Option UpstreamChunk} {IsObject : List Char → Prop}

theorem contribution_text (hJ : JsonLaws parse IsObject) (l : UpstreamLine) :
    contribution parse l.text = { token := l.content parse, usage := l.usage parse } := by
  cases l with
  | data json =>
    have hpre : dataPrefix.isPrefixOf (dataPrefix ++ json) = true := by simp
    have hdrop : (dataPrefix ++ json).drop 6 = json := rfl
    simp only [contribution, UpstreamLine.text, hpre, hdrop, true_and, UpstreamLine.content,
      UpstreamLine.usage, UpstreamLine.parsed]
    by_cases hdone : json = doneText
    · rw [if_neg (not_not.2 hdone), hdone, hJ.rejects_done doneText [] (List.append_nil _).symm]
      rfl
    · rw [if_pos hdone]
      cases parse json <;> rfl
  | blank => rfl
  | done => rfl

/-- The last usage that some lines carry. -/
def lastUsage (parse : List Char → Option UpstreamChunk) (lines : List UpstreamLine) : ℤ :=
  ((lines.filterMap (·.usage parse)).getLast?).getD 0

theorem chatStream_wholeLines (hJ : JsonLaws parse IsObject) {lines : List UpstreamLine}
    (hl : ∀ l ∈ lines, l.WellFormed IsObject) {chunks : List (List UInt8)}
    (hB : chunks.flatten = upstreamBytes lines) :
    ChatService.chatStream parse chunks =
      { fullReply := (wholeLines lines chunks).flatMap (·.content parse)
        tokensUsed := lastUsage parse (wholeLines lines chunks)
        frames := (wholeLines lines chunks).flatMap (·.frames parse) } := by
  rw [chatStream_eq hJ hl hB, accumulate, foldl_add]
  simp only [contribution_text hJ, lastUsage, List.flatMap_map, List.filterMap_map,
    List.filter_map, List.map_map, Function.comp_def, List.nil_append, StreamState.mk.injEq,
    true_and]
  induction wholeLines lines chunks with
  | nil => rfl
  | cons l ls ih =>
    rw [List.flatMap_cons, ← ih, UpstreamLine.frames]
    by_cases hc : l.content parse = [] <;> simp [hc]

/-- Leaving elements out changes a concatenation exactly when one of them contributes. -/
theorem flatMap_filter_eq_iff {α β : Type*} {f : α → List β} {p : α → Bool} {xs : List α} :
    (xs.filter p).flatMap f = xs.flatMap f ↔ ∀ x ∈ xs, p x = false → f x = [] := by
  induction xs with
  | nil => simp
  | cons x xs ih =>
    cases hp : p x with
    | true => simp [hp, ih]
    | false =>
      have hle : ((xs.filter p).flatMap f).length ≤ (xs.flatMap f).length :=
        (List.Sublist.flatMap List.filter_sublist f).length_le
      rw [List.filter_cons_of_neg (by simp [hp]), List.flatMap_cons, List.forall_mem_cons, ← ih]
      constructor
      · intro h
        have hlen := congrArg List.length h
        rw [List.length_append] at hlen
        have hx : f x = [] := List.eq_nil_of_length_eq_zero (by omega)
        rw [hx, List.nil_append] at h
        exact ⟨fun _ => hx, h⟩
      · rintro ⟨hx, h⟩
        rw [hx hp, h, List.nil_append]

theorem wholeLines_flatMap_eq_iff {lines : List UpstreamLine}
    (hl : ∀ l ∈ lines, l.WellFormed IsObject) {chunks : List (List UInt8)}
    (hB : chunks.flatten = upstreamBytes lines) {β : Type*} (f : UpstreamLine → List β) :
    (wholeLines lines chunks).flatMap f = lines.flatMap f ↔
      ∀ p ∈ lines.zip (linePieces 10 chunks), Torn p.2 → f p.1 = [] := by
  have hlines : lines.flatMap f = (lines.zip (linePieces 10 chunks)).flatMap fun p => f p.1 :=
    calc lines.flatMap f = ((lines.zip (linePieces 10 chunks)).map (·.1)).flatMap f := by
          rw [map_fst_zip_linePieces hl hB]
      _ = _ := List.flatMap_map ..
  rw [hlines, wholeLines, List.flatMap_map, flatMap_filter_eq_iff]
  simp

/-- **When cutting the upstream into buffers does not matter.**  The buffers are accumulated like
a single one, and the reply is the whole content, exactly when every line that a cut tears apart
carries no content and the last usage of the other lines is the last usage of all lines. -/
theorem chatStream_cut_iff (hJ : JsonLaws parse IsObject) {lines : List UpstreamLine}
    (hl : ∀ l ∈ lines, l.WellFormed IsObject) {chunks : List (List UInt8)}
    (hB : chunks.flatten = upstreamBytes lines) :
    (ChatService.chatStream parse chunks = ChatService.chatStream parse [upstreamBytes lines] ∧
        (ChatService.chatStream parse chunks).fullReply = lines.flatMap (·.content parse)) ↔
      (∀ p ∈ lines.zip (linePieces 10 chunks), Torn p.2 → p.1.content parse = []) ∧
        lastUsage parse (wholeLines lines chunks) = lastUsage parse lines := by
  rw [chatStream_wholeLines hJ hl hB, chatStream_wholeLines hJ hl (by simp), wholeLines_single hl,
    ← wholeLines_flatMap_eq_iff hl hB (·.content parse), StreamState.mk.injEq]
  constructor
  · rintro ⟨⟨h1, h2, -⟩, -⟩
    exact ⟨h1, h2⟩
  · rintro ⟨h1, h2⟩
    refine ⟨⟨h1, h2, ?_⟩, h1⟩
    rw [wholeLines_flatMap_eq_iff hl hB] at h1 ⊢
    intro p hp htorn
    rw [UpstreamLine.frames, if_pos (h1 p hp htorn)]

end

/-! ### A single token -/

/-- A parser that knows one text. -/
def parseOnly (json : List Char) (chunk : UpstreamChunk) (text : List Char) :
    Option UpstreamChunk :=
  if text = json then some chunk else none

theorem jsonLaws_parseOnly {json : List Char} (chunk : UpstreamChunk)
    (hascii : ∀ c ∈ json, Utf8.IsAscii c) (hlen : 6 < json.length) :
    JsonLaws (parseOnly json chunk) (· = json) := by
  have hbytes {p : List UInt8} (h : parseOnly json chunk (Utf8.decode p) ≠ none) :
      (Utf8.encode json).length ≤ p.length := by
    have hp : Utf8.decode p = json ++ [] := by simpa [parseOnly] using h
    obtain ⟨bs, rfl, -⟩ := Utf8.append_of_decode hascii hp
    simp
  refine ⟨?_, ?_, ?_⟩
  · rintro _ p q rfl h hq
    by_contra hparse
    have hle := hbytes hparse
    rw [h, List.length_append] at hle
    exact hq (List.eq_nil_of_length_eq_zero (by omega))
  · rintro _ a p q rfl h parsed hparsed
    have hle := hbytes (Option.ne_none_iff_exists'.2 ⟨parsed, hparsed⟩)
    have hpre : (Utf8.encode dataPrefix).length = 6 := by decide
    rw [h] at hle
    simp only [List.length_append, hpre] at hle
    omega
  · rintro p q h
    have hle := congrArg List.length h
    have hdone : doneText.length = 6 := by decide
    rw [List.length_append, hdone] at hle
    refine if_neg ?_
    rintro rfl
    omega

/-- An object with one token. -/
def hiJson : List Char :=
  "\x7b\"choices\":[\x7b\"delta\":\x7b\"content\":\"hi\"\x7d\x7d]\x7d".toList

/-- What is parsed of it. -/
def hiParse : List Char → Option UpstreamChunk :=
  parseOnly hiJson { choices := some [{ delta := some { content := some (js "hi") } }] }

/-- An upstream with one token. -/
def hiLines : List UpstreamLine := [.data hiJson, .blank, .done]

theorem hiParse_laws : JsonLaws hiParse (· = hiJson) :=
  jsonLaws_parseOnly _ (List.all_iff_forall_prop.1 (by decide)) (by decide)

theorem hiLines_wellFormed : ∀ l ∈ hiLines, l.WellFormed (· = hiJson) := by
  simp only [hiLines, List.forall_mem_cons]
  exact ⟨⟨rfl, by decide⟩, trivial, trivial, by simp⟩

/-- Cut at the end of its line, the token is kept. -/
theorem chatStream_cut_iff_whole :
    let bytes := upstreamBytes hiLines
    let chunks := [bytes.take 46, bytes.drop 46]
    ChatService.chatStream hiParse chunks = ChatService.chatStream hiParse [bytes] ∧
      (ChatService.chatStream hiParse chunks).fullReply = hiLines.flatMap (·.content hiParse) := by
  intro bytes chunks
  have hB : chunks.flatten = upstreamBytes hiLines := by simp [chunks, bytes]
  refine (chatStream_cut_iff hiParse_laws hiLines_wellFormed hB).2 ?_
  decide +kernel

/-- Cut inside its object, the token is lost. -/
theorem chatStream_cut_loses_token :
    ¬ ∀ (parse : List Char → Option UpstreamChunk) (IsObject : List Char → Prop)
        (lines : List UpstreamLine) (chunks : List (List UInt8)),
      JsonLaws parse IsObject → (∀ l ∈ lines, l.WellFormed IsObject) → (∀ c ∈ chunks, c ≠ []) →
      chunks.flatten = upstreamBytes lines →
      ChatService.chatStream parse chunks = ChatService.chatStream parse [upstreamBytes lines] ∧
        (ChatService.chatStream parse chunks).fullReply = lines.flatMap (·.content parse) := by
  intro h
  have := (h hiParse (· = hiJson) hiLines
    [(upstreamBytes hiLines).take 20, (upstreamBytes hiLines).drop 20] hiParse_laws
    hiLines_wellFormed (by decide +kernel) (by simp)).2
  revert this
  decide +kernel

end StudyOasis
