import StudyOasis.Chat.History
import StudyOasis.Chat.Prompt
import StudyOasis.Chat.Sse
import StudyOasis.Chat.Upstream
import StudyOasis.Client.ApiClient
import StudyOasis.Client.ChatStore
import StudyOasis.Client.Conversations
import StudyOasis.Client.Persist
import StudyOasis.Client.Reply
import StudyOasis.Client.Storage
import StudyOasis.Client.Tab
import StudyOasis.Common.Dates
import StudyOasis.Common.Exceptions
import StudyOasis.Common.OrderBy
import StudyOasis.Focus.Basic
import StudyOasis.Focus.Lifecycle
import StudyOasis.Focus.Progress
import StudyOasis.Focus.Reports
import StudyOasis.Focus.Score
import StudyOasis.Http.Cache
import StudyOasis.Http.Isolation
import StudyOasis.Ocr.Pages
import StudyOasis.Ocr.Vision
import StudyOasis.Runs.Basic
import StudyOasis.Text.JsString
import StudyOasis.Text.Lines
import StudyOasis.Text.Utf8
import StudyOasis.Chat.Service
import StudyOasis.Chat.Atomicity
import StudyOasis.Chat.Parity
import StudyOasis.Chat.Ownership
import StudyOasis.Chat.Retry
import StudyOasis.Chat.Server
import StudyOasis.Focus.Isolation
import StudyOasis.Upload.Filename
import StudyOasis.Upload.SaveFile
import StudyOasis.Ocr.Processor
import StudyOasis.Common.Upsert
import StudyOasis.Client.ChatPage
import StudyOasis.Client.Entries
import StudyOasis.Client.Opening
import StudyOasis.Chat.Recency
import StudyOasis.Client.Rollback
import StudyOasis.Ocr.Artifacts
import StudyOasis.Chat.HintLevel
import StudyOasis.Ocr.Reported
import StudyOasis.Focus.Counters
import StudyOasis.Focus.Pauses
import StudyOasis.Client.Uploads
import StudyOasis.Client.ReadBack
import StudyOasis.Client.Backup
import StudyOasis.Common.Streaks
import StudyOasis.Focus.Streaks
import StudyOasis.Focus.Points
import StudyOasis.Upload.Lookup
import StudyOasis.Client.Loading
import StudyOasis.Client.OcrHistory
import StudyOasis.Text.Json
import StudyOasis.Ocr.Insights
import StudyOasis.Client.Import
import StudyOasis.Client.RawReaders
import StudyOasis.Client.StoredRecords
import StudyOasis.Chat.PageSelection
import StudyOasis.Chat.Paging
import StudyOasis.Upload.Validation
import StudyOasis.Client.Cleanup
import StudyOasis.Focus.ScoreOrder
import StudyOasis.Focus.Durations
import StudyOasis.Client.Eviction
import StudyOasis.Client.Clearing
import StudyOasis.Focus.ActiveTime
import StudyOasis.Chat.Context
import StudyOasis.Upload.SafeName
import StudyOasis.Common.Blocks
import StudyOasis.Focus.Blocks
import StudyOasis.Common.ExternalCall
import StudyOasis.Analytics.ErrorRate
import StudyOasis.Analytics.Events
import StudyOasis.Chat.StreamRequest
import StudyOasis.Client.Links
import StudyOasis.Client.SignIn
import StudyOasis.Focus.Finalizing
import StudyOasis.Http.Errors
import StudyOasis.Http.Guard
import StudyOasis.Http.Metrics
import StudyOasis.Chat.Dialogue
import StudyOasis.Chat.PromptText
import StudyOasis.Focus.SessionList
import StudyOasis.Client.Settling
import StudyOasis.Common.Routing
import StudyOasis.Http.Routes
import StudyOasis.Http.Requests
import StudyOasis.Http.Validation
