import StudyOasis.Text.JsString
import StudyOasis.Text.Utf8

/-!
# The frames of the chat stream

The server-sent events that `ChatService.chatStream` and `ChatController.chatStream` write:
`data: <json>` and a blank line, encoded in UTF-8.  `JSON.stringify` is a parameter.
-/

namespace StudyOasis

/-- The object in a frame; a property that is `undefined` is `none`. -/
structure SseData where
  token : Option JsString := none
  complete : Option Bool := none
  conversationId : Option JsString := none
  error : Option JsString := none
  deriving DecidableEq, Repr

namespace SseData

/-- A token of the reply. -/
def tokenFrame (token : JsString) : SseData := { token := some token, complete := some false }

/-- The end of a successful stream. -/
def finalFrame (conversationId : Option JsString) : SseData :=
  { token := some [], complete := some true, conversationId }

/-- The end of a stream that failed. -/
def errorFrame (error : JsString) : SseData :=
  { token := some [], error := some error, complete := some true }

end SseData

/-- `'data: '`. -/
def dataPrefix : List Char := "data: ".toList

/-- The text of a frame. -/
def frameText (stringify : SseData → List Char) (d : SseData) : List Char :=
  dataPrefix ++ stringify d ++ ['\n', '\n']

/-- The bytes that `res.write` sends for a sequence of frames. -/
def wire (stringify : SseData → List Char) (frames : List SseData) : List UInt8 :=
  Utf8.encode (frames.flatMap (frameText stringify))

theorem newline_not_mem_dataPrefix : '\n' ∉ dataPrefix := by decide

/-- The lines of the text of some frames: a data line and a blank line each.  An unfinished line
may follow. -/
theorem fullLines_frames {stringify : SseData → List Char} {frames : List SseData}
    (h : ∀ d ∈ frames, '\n' ∉ stringify d) {tail : List Char} (htail : '\n' ∉ tail) :
    fullLines '\n' (frames.flatMap (frameText stringify) ++ tail) =
      frames.flatMap fun d => [dataPrefix ++ stringify d, []] := by
  induction frames with
  | nil => exact fullLines_of_not_mem htail
  | cons d frames ih =>
    -- the data line has no line break in it, and the next line is blank
    have hd : '\n' ∉ dataPrefix ++ stringify d := by
      rw [List.mem_append, not_or]
      exact ⟨newline_not_mem_dataPrefix, h d List.mem_cons_self⟩
    have hblank (xs : List Char) : fullLines '\n' ('\n' :: xs) = [] :: fullLines '\n' xs :=
      fullLines_append_cons List.not_mem_nil xs
    rw [List.flatMap_cons, frameText, List.append_assoc, List.append_assoc, List.cons_append,
      List.cons_append, List.nil_append, fullLines_append_cons hd, hblank,
      ih fun d' hd' => h d' (List.mem_cons_of_mem d hd')]
    rfl

end StudyOasis
