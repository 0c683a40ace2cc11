import StreetConsole.Chain
import StreetConsole.Command.Basic
import StreetConsole.Command.Builtin
import StreetConsole.Command.Discovery
import StreetConsole.Command.Words
import StreetConsole.Completion
import StreetConsole.Condition
import StreetConsole.Conditional
import StreetConsole.Context
import StreetConsole.Dict
import StreetConsole.Engine
import StreetConsole.Fault
import StreetConsole.Fault.Message
import StreetConsole.Filter.Basic
import StreetConsole.Filter.Builtin
import StreetConsole.Filter.Registry
import StreetConsole.Help
import StreetConsole.Log
import StreetConsole.Main
import StreetConsole.Number.Double
import StreetConsole.Number.Reading
import StreetConsole.Number.Shortest
import StreetConsole.Outcome
import StreetConsole.Pattern.Basic
import StreetConsole.Pattern.Error
import StreetConsole.Pattern.Escape
import StreetConsole.Pattern.Loop
import StreetConsole.Pattern.Matcher
import StreetConsole.Pattern.Opening
import StreetConsole.Pattern.Parser
import StreetConsole.Pattern.Source
import StreetConsole.Pattern.Syntax
import StreetConsole.Pattern.Trace
import StreetConsole.Pattern.Variant
import StreetConsole.Pattern.Width
import StreetConsole.Reply
import StreetConsole.Session
import StreetConsole.Settings.Basic
import StreetConsole.Settings.Reader
import StreetConsole.Settings.Tree
import StreetConsole.Text.Blank
import StreetConsole.Text.CaseTable
import StreetConsole.Text.CharacterName
import StreetConsole.Text.Identifier
import StreetConsole.Text.Letter
import StreetConsole.Text.LetterCase
import StreetConsole.Text.Names.Accented
import StreetConsole.Text.Names.Ancient
import StreetConsole.Text.Names.Brahmic
import StreetConsole.Text.Names.Dingbat
import StreetConsole.Text.Names.EastAsian
import StreetConsole.Text.Names.Emoticon
import StreetConsole.Text.Names.European
import StreetConsole.Text.Names.Further
import StreetConsole.Text.Names.Gesture
import StreetConsole.Text.Names.Indian
import StreetConsole.Text.Names.Mathematical
import StreetConsole.Text.Names.Minority
import StreetConsole.Text.Names.Musical
import StreetConsole.Text.Names.NearEastern
import StreetConsole.Text.Names.Pictograph
import StreetConsole.Text.Names.Pictorial
import StreetConsole.Text.Names.Presentation
import StreetConsole.Text.Names.Regional
import StreetConsole.Text.Names.Syllabic
import StreetConsole.Text.Names.Technical
import StreetConsole.Text.Numeral
import StreetConsole.Text.Printable
import StreetConsole.Text.Quoted
import StreetConsole.Text.Ranges
import StreetConsole.Text.Utf8
import StreetConsole.Text.Word
import StreetConsole.Token
import StreetConsole.Value.Basic
import StreetConsole.Value.Printer
import StreetConsole.Worker
import StreetConsole.Proofs.Run
import StreetConsole.Proofs.Transcript
import StreetConsole.Proofs.Shell
import StreetConsole.Proofs.Branch
import StreetConsole.Proofs.Tokens
import StreetConsole.Proofs.WellFormed
import StreetConsole.Proofs.Escape
import StreetConsole.Proofs.Scan
import StreetConsole.Proofs.Composition
import StreetConsole.Proofs.Rendering
import StreetConsole.Proofs.Assignment
import StreetConsole.Proofs.Normalization
import StreetConsole.Proofs.ReadBack
import StreetConsole.Proofs.Kinds
import StreetConsole.Proofs.Fields
import StreetConsole.Proofs.Suggestions
import StreetConsole.Proofs.Arguments
import StreetConsole.Proofs.Registration
import StreetConsole.Proofs.Leaves
import StreetConsole.Proofs.Listing
import StreetConsole.Proofs.Updates
import StreetConsole.Proofs.Conversation
import StreetConsole.Proofs.Discovered
import StreetConsole.Proofs.Segments
import StreetConsole.Proofs.Readings
import StreetConsole.Proofs.Spelling
import StreetConsole.Proofs.Counts
import StreetConsole.Proofs.LineSets
import StreetConsole.Proofs.LetterCase
import StreetConsole.Proofs.LineChanges
import StreetConsole.Proofs.Conditions
import StreetConsole.Proofs.Pipelines
import StreetConsole.Proofs.Dispatch
import StreetConsole.Proofs.Acceptance
import StreetConsole.Proofs.Rebuilding
import StreetConsole.Proofs.ListingOrder
import StreetConsole.Proofs.Conservation
import StreetConsole.Proofs.Routing
import StreetConsole.Proofs.Jobs
import StreetConsole.Proofs.Logging
