import StudyOasis.Chat.Sse

/-!
# The stream reader of the client

`ApiClient.chatStream` decodes the chunks of the response as they arrive, keeps the unfinished
line for the next chunk and yields what it finds in the data lines.  `JSON.parse` is a parameter.

* `readChunks_eq` : what is yielded depends on the bytes, not on how they are cut;
* `chatStream_frames` : the frames that were written are the chunks that are yielded.
-/

namespace StudyOasis

/-- The byte order mark. -/
def bom : Char := '\uFEFF'

/-- Drop a byte order mark from the start of the text, unless the start has been seen. -/
def dropBom : Bool → List Char → Bool × List Char
  | true, cs => (true, cs)
  | false, [] => (false, [])
  | false, c :: cs => (true, if c = bom then cs else c :: cs)

/-- `TextDecoder` in streaming mode. -/
structure TextDecoder where
  utf8 : Utf8.Decoder := .start
  bomSeen : Bool := false

/-- `decoder.decode(value, { stream: true })`. -/
def TextDecoder.decode (t : TextDecoder) (value : List UInt8) : TextDecoder × List Char :=
  let r := Utf8.feed t.utf8 value
  let b := dropBom t.bomSeen r.2
  ({ utf8 := r.1, bomSeen := b.1 }, b.2)

/-- What `chatStream` yields. -/
structure StreamChunk where
  token : JsString
  complete : Bool
  conversationId : Option JsString
  deriving DecidableEq, Repr

/-- The chunk that is yielded for a parsed frame. -/
def SseData.toChunk (data : SseData) : StreamChunk :=
  { token := data.token.getD []
    complete := data.complete.getD false
    conversationId := data.conversationId }

namespace ApiClient

variable (parse : List Char → Option SseData)

/-- One line: a data line that parses is yielded. -/
def readLine (line : List Char) : Option StreamChunk :=
  if dataPrefix.isPrefixOf line then (parse (line.drop 6)).map SseData.toChunk else none

/-- The variables of the read loop. -/
structure Reader where
  decoder : TextDecoder := {}
  buffer : List Char := []

/-- One round of the loop: the reader after it and the chunks it yields. -/
def readChunk (r : Reader) (value : List UInt8) : Reader × List StreamChunk :=
  let (decoder, text) := r.decoder.decode value
  let buffer := r.buffer ++ text
  ({ decoder, buffer := lastLine '\n' buffer }, (fullLines '\n' buffer).filterMap (readLine parse))

/-- The loop: read until the response is done. -/
def readChunks (r : Reader) : List (List UInt8) → List StreamChunk
  | [] => []
  | value :: values =>
    let (r', chunks) := readChunk parse r value
    chunks ++ readChunks r' values

/-- Everything that `chatStream` yields for a response that arrives as `values`. -/
def chatStream (values : List (List UInt8)) : List StreamChunk := readChunks parse {} values

end ApiClient

/-! ### Chunks do not matter -/

/-- The text that chunks decode to. -/
def TextDecoder.decodeAll (t : TextDecoder) : List (List UInt8) → List Char
  | [] => []
  | value :: values => (t.decode value).2 ++ (t.decode value).1.decodeAll values

theorem dropBom_append (seen : Bool) (xs ys : List Char) :
    dropBom seen (xs ++ ys) =
      ((dropBom (dropBom seen xs).1 ys).1,
        (dropBom seen xs).2 ++ (dropBom (dropBom seen xs).1 ys).2) := by
  cases seen with
  | true => rfl
  | false =>
    cases xs with
    | nil => rfl
    | cons x xs =>
      simp only [dropBom, List.cons_append]
      split_ifs <;> rfl

theorem TextDecoder.decode_append (t : TextDecoder) (a b : List UInt8) :
    t.decode (a ++ b) =
      (((t.decode a).1.decode b).1, (t.decode a).2 ++ ((t.decode a).1.decode b).2) := by
  simp only [decode, Utf8.feed_append, dropBom_append]

theorem TextDecoder.decodeAll_eq (t : TextDecoder) (values : List (List UInt8)) :
    t.decodeAll values = (t.decode values.flatten).2 := by
  induction values generalizing t with
  | nil =>
    unfold decodeAll decode
    cases t.bomSeen <;> simp [Utf8.feed, dropBom]
  | cons value values ih => rw [decodeAll, ih, List.flatten_cons, decode_append]

namespace ApiClient

variable (parse : List Char → Option SseData)

/-- **What is yielded is read off the finished lines of the decoded text.** -/
theorem readChunks_eq (r : Reader) (hr : '\n' ∉ r.buffer) (values : List (List UInt8)) :
    readChunks parse r values =
      (fullLines '\n' (r.buffer ++ r.decoder.decodeAll values)).filterMap (readLine parse) := by
  induction values generalizing r with
  | nil =>
    rw [TextDecoder.decodeAll, List.append_nil, fullLines_of_not_mem hr]
    rfl
  | cons value values ih =>
    -- the unfinished line in the buffer goes on in the chunks that follow
    rw [readChunks, TextDecoder.decodeAll, ← List.append_assoc, fullLines_append,
      List.filterMap_append]
    simp only [readChunk]
    rw [ih _ (not_mem_lastLine _)]

theorem readLine_blank : readLine parse [] = none := rfl

theorem readLine_data (text : List Char) :
    readLine parse (dataPrefix ++ text) = (parse text).map SseData.toChunk := by
  rw [readLine, if_pos (by simp)]
  rfl

theorem filterMap_readLine {stringify : SseData → List Char} {frames : List SseData}
    (hparse : ∀ d ∈ frames, parse (stringify d) = some d) :
    (frames.flatMap fun d => [dataPrefix ++ stringify d, []]).filterMap (readLine parse) =
      frames.map SseData.toChunk := by
  induction frames with
  | nil => rfl
  | cons d frames ih =>
    rw [List.flatMap_cons, List.filterMap_append,
      ih fun d' hd' => hparse d' (List.mem_cons_of_mem d hd')]
    simp [readLine_data, readLine_blank, hparse d List.mem_cons_self]

theorem not_mem_dropBom {c : Char} {cs : List Char} (h : c ∉ cs) (seen : Bool) :
    c ∉ (dropBom seen cs).2 := by
  cases seen with
  | true => exact h
  | false =>
    cases cs with
    | nil => exact h
    | cons x cs =>
      simp only [dropBom]
      split_ifs
      · exact fun hc => h (List.mem_cons_of_mem x hc)
      · exact h

/-- The text of some frames does not start with a byte order mark.  What follows the frames may be
cut anywhere in its first line. -/
theorem decodeAll_wire {stringify : SseData → List Char} {frames : List SseData}
    {values : List (List UInt8)} {rest : List UInt8} (hrest : 10 ∉ rest)
    (hwire : values.flatten = wire stringify frames ++ rest) :
    ∃ tail, '\n' ∉ tail ∧
      TextDecoder.decodeAll {} values = frames.flatMap (frameText stringify) ++ tail := by
  have hframes : (TextDecoder.decode {} (wire stringify frames)).2 =
      frames.flatMap (frameText stringify) := by
    rw [wire, TextDecoder.decode, Utf8.feed_encode]
    -- the text starts with `data: `, so no byte order mark is dropped
    cases frames with
    | nil => rfl
    | cons d frames => rfl
  refine ⟨((TextDecoder.decode {} (wire stringify frames)).1.decode rest).2, ?_, ?_⟩
  · have hfeed (d : Utf8.Decoder) : '\n' ∉ (Utf8.feed d rest).2 := by
      intro hc
      refine Utf8.not_mem_decode (c := '\n') (by decide) ?_ d (List.mem_append_left _ hc)
      intro b hb heq
      obtain rfl : b = 10 := UInt8.toNat_inj.1 heq
      exact hrest hb
    exact not_mem_dropBom (hfeed _) _
  · rw [TextDecoder.decodeAll_eq, hwire, TextDecoder.decode_append, hframes]

/-- What is yielded for some frames and the start of another one. -/
theorem chatStream_wire {stringify : SseData → List Char} {frames : List SseData}
    {values : List (List UInt8)} {rest : List UInt8}
    (hparse : ∀ d ∈ frames, parse (stringify d) = some d)
    (hline : ∀ d ∈ frames, '\n' ∉ stringify d) (hrest : 10 ∉ rest)
    (hwire : values.flatten = wire stringify frames ++ rest) :
    chatStream parse values = frames.map SseData.toChunk := by
  obtain ⟨tail, htail, hdecode⟩ := decodeAll_wire hrest hwire
  rw [chatStream, readChunks_eq parse {} List.not_mem_nil, hdecode, List.nil_append,
    fullLines_frames hline htail]
  exact filterMap_readLine parse hparse

/-- **Frames survive the wire**: whatever frames are written and however their bytes are cut into
chunks, exactly these frames are yielded, in order. -/
theorem chatStream_frames {stringify : SseData → List Char}
    {frames : List SseData} {values : List (List UInt8)}
    (hparse : ∀ d ∈ frames, parse (stringify d) = some d)
    (hline : ∀ d ∈ frames, '\n' ∉ stringify d)
    (hwire : values.flatten = wire stringify frames) :
    chatStream parse values = frames.map SseData.toChunk :=
  chatStream_wire parse hparse hline List.not_mem_nil (by rw [List.append_nil, hwire])

/-- Bytes that arrive one by one. -/
theorem flatten_bytes (bytes : List UInt8) : (bytes.map fun b => [b]).flatten = bytes := by
  rw [← List.flatMap_def, List.flatMap_singleton']

/-- A token with a line break and a character of two bytes, and the end of the stream, byte by
byte. -/
theorem chatStream_frames_bytes :
    let token := SseData.tokenFrame (js "é\n")
    let final := SseData.finalFrame (some (js "c"))
    let tokenJson := "\x7b\"token\":\"é\\n\",\"complete\":false\x7d".toList
    let finalJson := "\x7b\"token\":\"\",\"complete\":true,\"conversationId\":\"c\"\x7d".toList
    let stringify := fun d => if d = token then tokenJson else finalJson
    let parse := fun text => if text = tokenJson then some token
      else if text = finalJson then some final else none
    chatStream parse ((wire stringify [token, final]).map fun b => [b]) =
      [⟨js "é\n", false, none⟩, ⟨[], true, some (js "c")⟩] := by
  intro token final tokenJson finalJson stringify parse
  have hparse : ∀ d ∈ [token, final], parse (stringify d) = some d := by decide
  have hline : ∀ d ∈ [token, final], '\n' ∉ stringify d := by decide
  exact chatStream_frames parse hparse hline (flatten_bytes _)

end ApiClient

end StudyOasis
