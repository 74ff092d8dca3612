import WebForm.Artifact
import WebForm.CommandLine.Arguments
import WebForm.CommandLine.Run
import WebForm.CommandLine.Samples
import WebForm.Compiled
import WebForm.Component.File
import WebForm.Component.Handles
import WebForm.Component.Markup
import WebForm.Component.Path
import WebForm.Component.Render
import WebForm.Component.Usage
import WebForm.Defaults
import WebForm.Field.Basic
import WebForm.Field.Kind
import WebForm.Files.Access
import WebForm.Files.Path
import WebForm.Files.System
import WebForm.Form.Basic
import WebForm.Form.Codec
import WebForm.Form.Load
import WebForm.Form.Repair
import WebForm.Form.Structure
import WebForm.Identifier
import WebForm.Interface
import WebForm.Json.Basic
import WebForm.Json.Decode
import WebForm.Json.Draft
import WebForm.Json.NumberText
import WebForm.Json.Printer
import WebForm.Main
import WebForm.Number.Double
import WebForm.Number.Layout
import WebForm.Number.Numeral
import WebForm.Number.Power
import WebForm.Number.Shortest
import WebForm.Pattern
import WebForm.Pattern.Anchor
import WebForm.Pattern.CharSet
import WebForm.Pattern.Error
import WebForm.Pattern.Expr
import WebForm.Pattern.Folding
import WebForm.Pattern.Machine
import WebForm.Pattern.Program
import WebForm.Pattern.Property
import WebForm.Pattern.Reader
import WebForm.Pattern.Regular.Automaton
import WebForm.Pattern.Regular.Basic
import WebForm.Pattern.Regular.Class
import WebForm.Pattern.Regular.Reader
import WebForm.Pattern.Regular.Weight
import WebForm.Pattern.Spelling
import WebForm.Project
import WebForm.Proofs.Artifact.Comments
import WebForm.Proofs.Artifact.Layout
import WebForm.Proofs.Artifact.LineEnding
import WebForm.Proofs.Artifact.Notes
import WebForm.Proofs.Artifact.Unknown
import WebForm.Proofs.CommandLine.Answers
import WebForm.Proofs.CommandLine.Effects
import WebForm.Proofs.Compiled
import WebForm.Proofs.Component.Addresses
import WebForm.Proofs.Component.Bindings
import WebForm.Proofs.Component.Clashes
import WebForm.Proofs.Component.Code
import WebForm.Proofs.Component.Comments
import WebForm.Proofs.Component.Contents
import WebForm.Proofs.Component.File
import WebForm.Proofs.Component.Frame
import WebForm.Proofs.Component.Handles
import WebForm.Proofs.Component.Hooks
import WebForm.Proofs.Component.Imports
import WebForm.Proofs.Component.InitialValues
import WebForm.Proofs.Component.InnerLists
import WebForm.Proofs.Component.LineEnding
import WebForm.Proofs.Component.Mentions
import WebForm.Proofs.Component.Names
import WebForm.Proofs.Component.Needed
import WebForm.Proofs.Component.Opened
import WebForm.Proofs.Component.Outline
import WebForm.Proofs.Component.Reading
import WebForm.Proofs.Component.References
import WebForm.Proofs.Component.Shown
import WebForm.Proofs.Component.Signs
import WebForm.Proofs.Component.Taken
import WebForm.Proofs.Component.Texts
import WebForm.Proofs.Component.Usage
import WebForm.Proofs.Component.Writing
import WebForm.Proofs.Component.Written
import WebForm.Proofs.Field.Ambiguity
import WebForm.Proofs.Field.Defaults
import WebForm.Proofs.Field.Place
import WebForm.Proofs.Field.Position
import WebForm.Proofs.Files.System
import WebForm.Proofs.Form.Codec
import WebForm.Proofs.Form.Irrelevant
import WebForm.Proofs.Form.Origins
import WebForm.Proofs.Form.Relaxed
import WebForm.Proofs.Form.Repair
import WebForm.Proofs.Form.RepairMeaning
import WebForm.Proofs.Form.WellFormed
import WebForm.Proofs.Identifier
import WebForm.Proofs.Identifier.Casing
import WebForm.Proofs.Identifier.Letters
import WebForm.Proofs.Identifier.Title
import WebForm.Proofs.Interface
import WebForm.Proofs.Json.Members
import WebForm.Proofs.Json.Reading
import WebForm.Proofs.Json.Same
import WebForm.Proofs.Number.Layout
import WebForm.Proofs.Number.Numeral
import WebForm.Proofs.Number.Rounding
import WebForm.Proofs.Number.Shortest
import WebForm.Proofs.Number.Text
import WebForm.Proofs.Outcome
import WebForm.Proofs.Project.Changes
import WebForm.Proofs.Project.Check
import WebForm.Proofs.Project.Reading
import WebForm.Proofs.Project.Writing
import WebForm.Proofs.Schema.Acceptance
import WebForm.Proofs.Schema.Compile
import WebForm.Proofs.Schema.Decision
import WebForm.Proofs.Schema.Email
import WebForm.Proofs.Schema.Faults
import WebForm.Proofs.Schema.Grouping
import WebForm.Proofs.Schema.Indistinct
import WebForm.Proofs.Schema.Located
import WebForm.Proofs.Schema.Location
import WebForm.Proofs.Schema.Refusal
import WebForm.Proofs.Schema.Serialized
import WebForm.Proofs.Schema.Shape
import WebForm.Proofs.Schema.Untouched
import WebForm.Proofs.Schema.Visit
import WebForm.Proofs.Script.Expr
import WebForm.Proofs.Script.Faithful
import WebForm.Proofs.Script.Literal
import WebForm.Proofs.Script.Quoting
import WebForm.Proofs.Script.Template
import WebForm.Proofs.Script.Type
import WebForm.Proofs.Script.Value
import WebForm.Proofs.Source.CharacterReference
import WebForm.Proofs.Source.Comment
import WebForm.Proofs.Source.Escape
import WebForm.Proofs.Source.LineEnding
import WebForm.Proofs.Source.Writer
import WebForm.Proofs.Text.Bytes
import WebForm.Proofs.Zod.Accepts
import WebForm.Proofs.Zod.Agreement
import WebForm.Proofs.Zod.File
import WebForm.Proofs.Zod.Meaning
import WebForm.Proofs.Zod.Text
import WebForm.Schema.Compile
import WebForm.Schema.Email
import WebForm.Schema.Message
import WebForm.Schema.Result
import WebForm.Schema.Validator
import WebForm.Settings
import WebForm.Source.Comment
import WebForm.Source.Literal
import WebForm.Source.Style
import WebForm.Support
import WebForm.Text.AgeTable
import WebForm.Text.Blank
import WebForm.Text.CaseTable
import WebForm.Text.Category
import WebForm.Text.CategoryTable
import WebForm.Text.Lines
import WebForm.Text.LowerCase
import WebForm.Text.ScriptTable
import WebForm.Text.Shown
import WebForm.Text.Span
import WebForm.Text.TraitTable
import WebForm.Toml.Document
import WebForm.Toml.Reader
import WebForm.Toml.Scalar
import WebForm.Toml.Table
import WebForm.Toml.Text
import WebForm.Toml.Value
import WebForm.Zod.Expr
import WebForm.Zod.Schema
