import DeckTools.Batch.FieldMask
import DeckTools.Batch.Request
import DeckTools.CommandLine.Params
import DeckTools.CommandLine.Report
import DeckTools.CommandLine.Usage
import DeckTools.CommandLine.Word
import DeckTools.Decimal.Binary
import DeckTools.Decimal.Notation
import DeckTools.Decimal.Read
import DeckTools.Decimal.Shortest
import DeckTools.Deck.Decode
import DeckTools.Deck.Element
import DeckTools.Deck.Presentation
import DeckTools.Deck.Reference
import DeckTools.Deck.Text
import DeckTools.Dialogue
import DeckTools.Edit.Changes
import DeckTools.Edit.Checks
import DeckTools.Edit.Decode
import DeckTools.Edit.Plan
import DeckTools.Geometry.Encode
import DeckTools.Geometry.Length
import DeckTools.Geometry.Placement
import DeckTools.Geometry.Resize
import DeckTools.Geometry.Scalar
import DeckTools.Http.Client
import DeckTools.Http.Exchange
import DeckTools.Http.Target
import DeckTools.Http.Upload
import DeckTools.Image.Format
import DeckTools.Image.Payload
import DeckTools.Job
import DeckTools.Json.Decode
import DeckTools.Json.Numeral
import DeckTools.Json.Print
import DeckTools.Json.Read
import DeckTools.Json.Token
import DeckTools.Json.Value
import DeckTools.Keyed
import DeckTools.Main
import DeckTools.Pdf
import DeckTools.Proofs.Batch.FieldMask
import DeckTools.Proofs.Batch.Repeated
import DeckTools.Proofs.Batch.Steps
import DeckTools.Proofs.Decimal.Arithmetic
import DeckTools.Proofs.Decimal.Binary
import DeckTools.Proofs.Decimal.Reading
import DeckTools.Proofs.Decimal.Rounding
import DeckTools.Proofs.Decimal.Scientific
import DeckTools.Proofs.Decimal.Shortest
import DeckTools.Proofs.Deck.Agreement
import DeckTools.Proofs.Deck.Ids
import DeckTools.Proofs.Deck.Locate
import DeckTools.Proofs.Deck.Path
import DeckTools.Proofs.Deck.Place
import DeckTools.Proofs.Deck.Reference
import DeckTools.Proofs.Deck.Removal
import DeckTools.Proofs.Deck.Walk
import DeckTools.Proofs.Dialogue
import DeckTools.Proofs.Edit.Checked
import DeckTools.Proofs.Edit.Modify
import DeckTools.Proofs.Edit.Plan
import DeckTools.Proofs.Edit.Playback
import DeckTools.Proofs.Edit.Properties
import DeckTools.Proofs.Edit.Recolor
import DeckTools.Proofs.Edit.Resize
import DeckTools.Proofs.Edit.Rotation
import DeckTools.Proofs.Edit.Sent
import DeckTools.Proofs.Geometry.Exact
import DeckTools.Proofs.Geometry.RoundTrip
import DeckTools.Proofs.Geometry.Written
import DeckTools.Proofs.Http.Framing
import DeckTools.Proofs.Http.Move
import DeckTools.Proofs.Image.Payload
import DeckTools.Proofs.Json.Canonical
import DeckTools.Proofs.Json.Numeral
import DeckTools.Proofs.Json.Scaled
import DeckTools.Proofs.Json.Significand
import DeckTools.Proofs.Json.Text
import DeckTools.Proofs.Parallel
import DeckTools.Proofs.Pdf
import DeckTools.Proofs.Rehearsal
import DeckTools.Proofs.Rehearsal.SamplePdf
import DeckTools.Proofs.Search.Hits
import DeckTools.Proofs.Search.Notes
import DeckTools.Proofs.Search.Occurrence
import DeckTools.Proofs.Search.Window
import DeckTools.Proofs.Text.Base64
import DeckTools.Proofs.Text.Blank
import DeckTools.Proofs.Text.Cut
import DeckTools.Proofs.Text.Numeral
import DeckTools.Proofs.Tool.Addition
import DeckTools.Proofs.Tool.AllOrNothing
import DeckTools.Proofs.Tool.Approval
import DeckTools.Proofs.Tool.Comment
import DeckTools.Proofs.Tool.Commit
import DeckTools.Proofs.Tool.Deletion
import DeckTools.Proofs.Tool.Destination
import DeckTools.Proofs.Tool.Export
import DeckTools.Proofs.Tool.Fault
import DeckTools.Proofs.Tool.FaultsEarly
import DeckTools.Proofs.Tool.FolderFault
import DeckTools.Proofs.Tool.FollowUp
import DeckTools.Proofs.Tool.Listing
import DeckTools.Proofs.Tool.Refusal
import DeckTools.Proofs.Tool.Registry
import DeckTools.Proofs.Tool.Replacement
import DeckTools.Proofs.Tool.StatusFault
import DeckTools.Proofs.Tool.Steps
import DeckTools.Proofs.Tool.Tolerance
import DeckTools.Proofs.Translation.Replay
import DeckTools.Proofs.Translation.Scope
import DeckTools.Proofs.Translation.Sources
import DeckTools.Proofs.Translation.Unchanged
import DeckTools.Rehearsal.SampleDeck
import DeckTools.Rehearsal.SamplePdf
import DeckTools.Rehearsal.Services
import DeckTools.Remote.ApiError
import DeckTools.Remote.Call
import DeckTools.Remote.Reply
import DeckTools.Search
import DeckTools.Settings.Config
import DeckTools.Settings.EnvFile
import DeckTools.Settings.Environment
import DeckTools.Text.Alphanumeric
import DeckTools.Text.Ascii
import DeckTools.Text.Base64
import DeckTools.Text.Blank
import DeckTools.Text.LowerCase
import DeckTools.Text.Occurrence
import DeckTools.Text.Percent
import DeckTools.Text.Quoted
import DeckTools.Text.Unprinted
import DeckTools.Text.Utf8
import DeckTools.Tool.Basic
import DeckTools.Tool.Comment
import DeckTools.Tool.Deck
import DeckTools.Tool.File
import DeckTools.Tool.Image
import DeckTools.Tool.Registry
import DeckTools.Tool.Schema
import DeckTools.Tool.Text
import DeckTools.ToolError
import DeckTools.Transition
import DeckTools.Translation.Target
