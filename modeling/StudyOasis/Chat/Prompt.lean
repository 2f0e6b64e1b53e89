import StudyOasis.Text.JsString

/-!
# Prompts

`ChatPromptBuilder` and `ChatMessageHelper`: the system prompt for a hint level, the document
context as system messages, and the history that is sent to the model.
-/

namespace StudyOasis

/-- `HintLevel` : 1, 2 or 3. -/
inductive HintLevel where
  | one
  | two
  | three
  deriving DecidableEq, Repr

/-- The role of a message. -/
inductive Role where
  | system
  | user
  | assistant
  deriving DecidableEq, Repr

/-- A row of `messages`. -/
structure DbMessage where
  id : String
  role : Role
  content : JsString
  tokensUsed : Option ℕ
  hintLevel : Option ℕ
  modelUsed : Option String
  createdAt : ℤ
  conversationId : String
  deriving DecidableEq, Repr

/-- A message of the request to DeepSeek. -/
structure DeepSeekMessage where
  role : Role
  content : JsString
  deriving DecidableEq, Repr

namespace ChatPromptBuilder

/-- The prompt that every hint level starts with. -/
def basePrompt (hasDocument : Bool) : JsString :=
  js "你是一个专业的学习助手，帮助学生理解和解决学习问题。

你的目标是：
1. 引导学生自主思考，而不是直接给出答案
2. 根据学生的理解程度调整提示深度
3. 鼓励学生探索和发现解决方案

" ++
  (if hasDocument then js "当前对话关联了一个文档，你可以参考文档内容提供更准确的指导。\n" else []) ++
  js "
关键信息处理要求：
- 提示词会提供「文档概要 / 常见问题 / 逐页片段」，当回答引用文档时请标注对应的【标签】或页码。
- 如果用户给出明确的命令（如“翻译全文”“列出第3页内容”“把PDF总结成要点”），不要重复追问，直接执行；对于较长的操作，可按页或按段分批输出并说明进度。
- 若在给定上下文中找不到答案，要坦诚说明并建议下一步（例如让用户提供页码或补充信息）。"

/-- `hintPrompts`, after the base prompt. -/
def hintPrompt : HintLevel → JsString
  | .one => js "
**当前提示等级：轻度提示**
- 提供问题的大方向和思路
- 引导学生识别关键概念
- 提出启发性问题，帮助学生自己找到答案
- 避免直接给出具体步骤或答案

示例：
学生：\"这道题怎么做？\"
你：\"让我们先分析一下，这道题考察的核心概念是什么？你能识别出来吗？\""
  | .two => js "
**当前提示等级：中度提示**
- 提供更具体的思路和方法
- 可以给出部分步骤或框架
- 指出可能的解题方向
- 仍然鼓励学生完成关键步骤

示例：
学生：\"我不知道从哪里开始。\"
你：\"这类问题通常可以分为以下几个步骤：1) 理解题意，2) 识别已知条件，3) 应用相关公式。你能先尝试第一步吗？\""
  | .three => js "
**当前提示等级：详细提示**
- 提供详细的解题步骤
- 可以给出具体的方法和公式
- 解释每一步的原理
- 但仍要求学生理解和验证

示例：
学生：\"我试了很多次还是不会。\"
你：\"好的，让我详细讲解。首先，这道题需要用到XX公式：[公式]。第一步是...第二步是...你跟着这个思路试试，有问题随时问我。\""

/-- `ChatPromptBuilder.buildSystemPrompt`. -/
def buildSystemPrompt (hintLevel : HintLevel) (hasDocument : Bool) : JsString :=
  basePrompt hasDocument ++ hintPrompt hintLevel

/-- `ChatPromptBuilder.calculateHintLevel`. -/
def calculateHintLevel (userMessageCount : ℕ) : HintLevel :=
  if userMessageCount ≤ 1 then .one
  else if userMessageCount ≤ 3 then .two
  else .three

end ChatPromptBuilder

/-! ### The document context -/

/-- What `/\s+\n/` makes of a run of spaces: all up to the last line break becomes one, unless
the run has no line break behind its first space. -/
def squeezeRun (run : JsString) : JsString :=
  if 10 ∈ run.drop 1 then 10 :: (run.reverse.takeWhile (· ≠ 10)).reverse else run

/-- `replace(/\s+\n/g, '\n')`, where `run` holds the spaces just read. -/
def squeezeFrom (run : JsString) : JsString → JsString
  | [] => squeezeRun run
  | c :: s =>
    if isSpace c then squeezeFrom (run ++ [c]) s
    else squeezeRun run ++ c :: squeezeFrom [] s

namespace ChatMessageHelper

/-- `CHUNK_SIZE`. -/
def chunkSize : ℕ := 2000

/-- `MAX_CONTEXT`. -/
def maxContext : ℕ := 20000

/-- The messages that `appendDocumentContext` appends. -/
def documentContextMessages (documentContext : JsString) : List DeepSeekMessage :=
  let normalized := trim (squeezeFrom [] documentContext)
  let limitedContext := normalized.take maxContext
  let totalChunks := (limitedContext.length + chunkSize - 1) / chunkSize
  let chunks := (List.range totalChunks).map fun i =>
    { role := Role.system
      content := js ("文档片段 " ++ toString (i + 1) ++ "/" ++ toString totalChunks ++
        "（保持原始顺序）：\n") ++ (limitedContext.drop (i * chunkSize)).take chunkSize }
  if normalized.length > maxContext then
    chunks ++ [{ role := .system
                 content := js "⚠️ 文档内容较长，只截取了前半部分。若需要更详细的段落，可让学生指定页码或关键段落，我会再深入查阅。" }]
  else chunks

/-- `ChatMessageHelper.buildMessageHistory`; an empty context counts as none. -/
def buildMessageHistory (dbMessages : List DbMessage) (documentContext : Option JsString)
    (hintLevel : HintLevel) : List DeepSeekMessage :=
  let documentContext := documentContext.filter (· ≠ [])
  let systemPrompt := ChatPromptBuilder.buildSystemPrompt hintLevel documentContext.isSome
  let messages := [⟨.system, systemPrompt⟩]
  let messages := messages ++ (documentContext.map documentContextMessages).getD []
  -- `slice(-10)`
  messages ++ (dbMessages.drop (dbMessages.length - 10)).map fun msg => ⟨msg.role, msg.content⟩

end ChatMessageHelper

end StudyOasis
