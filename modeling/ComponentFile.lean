import ComponentFile.Component
import ComponentFile.Document
import ComponentFile.Edit
import ComponentFile.Editor.CodeAction
import ComponentFile.Editor.Completion
import ComponentFile.Editor.Detection
import ComponentFile.Editor.Placement
import ComponentFile.Editor.QuickFix
import ComponentFile.Editor.Store
import ComponentFile.Editor.Uri
import ComponentFile.Json.Basic
import ComponentFile.Json.Decimal
import ComponentFile.Json.Reader
import ComponentFile.Json.Writer
import ComponentFile.Main
import ComponentFile.Markup.Attribute
import ComponentFile.Markup.Element
import ComponentFile.Markup.Tag
import ComponentFile.Proofs.Document.Blocks
import ComponentFile.Proofs.Document.Soundness
import ComponentFile.Proofs.Document.Translation
import ComponentFile.Proofs.Editor.CaretLine
import ComponentFile.Proofs.Editor.LongestName
import ComponentFile.Proofs.Editor.MultiLine
import ComponentFile.Proofs.Editor.SelfClosing
import ComponentFile.Proofs.Editor.Transaction
import ComponentFile.Proofs.Editor.TypedNames
import ComponentFile.Proofs.Markup.AttributeRoundTrip
import ComponentFile.Proofs.Markup.BrokenTag
import ComponentFile.Proofs.Markup.Depth
import ComponentFile.Proofs.Markup.Graft
import ComponentFile.Proofs.Markup.LetterCase
import ComponentFile.Proofs.Markup.Reading
import ComponentFile.Proofs.Markup.Rendering
import ComponentFile.Proofs.Markup.WrittenAttribute
import ComponentFile.Proofs.Registration.Anchors
import ComponentFile.Proofs.Registration.Confinement
import ComponentFile.Proofs.Registration.Entries
import ComponentFile.Proofs.Registration.Frame
import ComponentFile.Proofs.Registration.Idempotence
import ComponentFile.Proofs.Registration.NewScript
import ComponentFile.Proofs.Registration.OwnLine
import ComponentFile.Proofs.Registration.PlainScript
import ComponentFile.Proofs.Registration.Series
import ComponentFile.Proofs.Registration.Splitting
import ComponentFile.Proofs.Script.EarliestFault
import ComponentFile.Proofs.Script.Nesting
import ComponentFile.Proofs.Script.Objects
import ComponentFile.Proofs.Script.Placement
import ComponentFile.Proofs.Script.Refusals
import ComponentFile.Proofs.Script.Statements
import ComponentFile.Proofs.Script.Tokens
import ComponentFile.Proofs.Script.Written
import ComponentFile.Proofs.Server.Configuration
import ComponentFile.Proofs.Server.Feedback
import ComponentFile.Proofs.Server.Mirror
import ComponentFile.Proofs.Text.Boundary
import ComponentFile.Proofs.Text.Coordinates
import ComponentFile.Proofs.Text.LineList
import ComponentFile.Proofs.Text.Runs
import ComponentFile.Proofs.Text.Units
import ComponentFile.Proofs.Text.Weaving
import ComponentFile.Registration.Register
import ComponentFile.Registration.Source
import ComponentFile.Script.Calls
import ComponentFile.Script.Class
import ComponentFile.Script.Cursor
import ComponentFile.Script.Expression
import ComponentFile.Script.Grammar
import ComponentFile.Script.Literal
import ComponentFile.Script.Outline
import ComponentFile.Script.Recovery
import ComponentFile.Script.Signature
import ComponentFile.Script.Statement
import ComponentFile.Script.Tree
import ComponentFile.Script.TypeExpression
import ComponentFile.Server.Command
import ComponentFile.Server.Message
import ComponentFile.Server.Session
import ComponentFile.Server.Shape
import ComponentFile.Server.Step
import ComponentFile.Server.Wire
import ComponentFile.Settings.Basic
import ComponentFile.Settings.Decode
import ComponentFile.Settings.Problem
import ComponentFile.Text.Basic
import ComponentFile.Text.Blank
import ComponentFile.Text.Lines
import ComponentFile.Text.Position
