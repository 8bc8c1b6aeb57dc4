import TimingBoard.Link.Script
import TimingBoard.Main
import TimingBoard.Tool.Bench
import TimingBoard.Proofs.Text.Encoding
import TimingBoard.Proofs.Frame.Lines
import TimingBoard.Proofs.Frame.Taking
import TimingBoard.Proofs.Link.InOrder
import TimingBoard.Proofs.Session.Reading
import TimingBoard.Proofs.Session.Framing
import TimingBoard.Proofs.Frame.Wire
import TimingBoard.Proofs.Number.Digits
import TimingBoard.Proofs.Reply.Source
import TimingBoard.Proofs.Request.Line
import TimingBoard.Proofs.Time.Spelling
import TimingBoard.Proofs.Board.Effects
import TimingBoard.Proofs.Board.Answer
import TimingBoard.Proofs.Session.Exchange
import TimingBoard.Proofs.Client.Dialogue
import TimingBoard.Proofs.Client.Calls
import TimingBoard.Proofs.Client.InStep
import TimingBoard.Proofs.Link.Late
import TimingBoard.Proofs.Session.Owed
import TimingBoard.Proofs.Client.Late
import TimingBoard.Proofs.Reply.Values
import TimingBoard.Proofs.Board.Settings
import TimingBoard.Proofs.Client.Reachable
import TimingBoard.Proofs.Client.Configuration
import TimingBoard.Proofs.Link.Observed
import TimingBoard.Proofs.Session.Loss
import TimingBoard.Proofs.Client.Lost
import TimingBoard.Proofs.Reply.Measurements
import TimingBoard.Proofs.Board.Measuring
import TimingBoard.Proofs.Client.Asking
import TimingBoard.Proofs.Client.Measuring
import TimingBoard.Proofs.Client.Tracking
import TimingBoard.Proofs.Client.Shelf
import TimingBoard.Proofs.Client.Store
import TimingBoard.Proofs.Board.Alike
import TimingBoard.Proofs.Board.Expiry
import TimingBoard.Proofs.Reply.Alike
import TimingBoard.Proofs.Client.Alike
import TimingBoard.Proofs.Client.Together
import TimingBoard.Proofs.Client.Polls
import TimingBoard.Proofs.Session.Verdict
import TimingBoard.Proofs.Session.Refusal
import TimingBoard.Proofs.Request.Stream
import TimingBoard.Proofs.Session.Written
import TimingBoard.Proofs.Client.Executed
import TimingBoard.Proofs.Client.Written
import TimingBoard.Proofs.Client.Following
import TimingBoard.Proofs.Board.Runs
import TimingBoard.Proofs.Session.Logging
import TimingBoard.Proofs.Client.Restoring
import TimingBoard.Proofs.Client.Polling
import TimingBoard.Proofs.Reply.Grammar
import TimingBoard.Proofs.Reply.Shown
import TimingBoard.Proofs.Reply.Judgement
import TimingBoard.Proofs.Reply.Lists
import TimingBoard.Proofs.Reply.Outcome
import TimingBoard.Proofs.Session.Offered
import TimingBoard.Proofs.Client.Acceptance
import TimingBoard.Proofs.Reply.Whole
import TimingBoard.Proofs.Client.Names
import TimingBoard.Proofs.Reply.Entries
import TimingBoard.Proofs.Session.Heard
import TimingBoard.Proofs.Client.Transfer
import TimingBoard.Proofs.Board.Changes
import TimingBoard.Proofs.Text.Trimming
import TimingBoard.Proofs.Request.Reading
import TimingBoard.Proofs.Number.Rounding
import TimingBoard.Proofs.Number.Decimal
import TimingBoard.Proofs.Time.Grammar
import TimingBoard.Proofs.Number.Shortest
import TimingBoard.Proofs.Number.Plain
import TimingBoard.Proofs.Time.Legal
import TimingBoard.Proofs.Json.Literals
import TimingBoard.Proofs.Json.Grammar
import TimingBoard.Proofs.Json.Configurations
import TimingBoard.Proofs.Client.Times
import TimingBoard.Proofs.Client.Table
import TimingBoard.Proofs.Json.Omissions
import TimingBoard.Proofs.Time.Seconds
import TimingBoard.Proofs.Tool.Timeouts
import TimingBoard.Proofs.Json.Settings
import TimingBoard.Proofs.Run.Countdown
import TimingBoard.Proofs.Frame.Separator
import TimingBoard.Proofs.Session.Scripted
import TimingBoard.Proofs.Tool.Watching
import TimingBoard.Proofs.Board.Starts
