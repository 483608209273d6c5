import Reckoner.Chat
import Reckoner.Command
import Reckoner.Display
import Reckoner.Failure
import Reckoner.Formula
import Reckoner.HealthCheck
import Reckoner.Json
import Reckoner.Log.Channel
import Reckoner.Log.Event
import Reckoner.Log.Folder
import Reckoner.Log.Hub
import Reckoner.Log.Level
import Reckoner.Log.Route
import Reckoner.Log.Stamp
import Reckoner.Main
import Reckoner.Number.Binary
import Reckoner.Number.Decimal
import Reckoner.Number.Fixed
import Reckoner.Number.Nearest
import Reckoner.Number.Shortest
import Reckoner.Options.Flag
import Reckoner.Options.Request
import Reckoner.Options.Usage
import Reckoner.Outcome
import Reckoner.Proofs.Bits
import Reckoner.Proofs.Blocks
import Reckoner.Proofs.Breaks
import Reckoner.Proofs.Canonical
import Reckoner.Proofs.Codes
import Reckoner.Proofs.CommandLine
import Reckoner.Proofs.Compact
import Reckoner.Proofs.Conservation
import Reckoner.Proofs.Context
import Reckoner.Proofs.Dialogue
import Reckoner.Proofs.Endings
import Reckoner.Proofs.Expression
import Reckoner.Proofs.Fewest
import Reckoner.Proofs.Forest
import Reckoner.Proofs.FrontEnds
import Reckoner.Proofs.Grammar
import Reckoner.Proofs.Height
import Reckoner.Proofs.JsonGrammar
import Reckoner.Proofs.JsonOutput
import Reckoner.Proofs.LogHistory
import Reckoner.Proofs.LogLines
import Reckoner.Proofs.Magnitude
import Reckoner.Proofs.Nearest
import Reckoner.Proofs.NumberText
import Reckoner.Proofs.Numerals
import Reckoner.Proofs.Places
import Reckoner.Proofs.Postfix
import Reckoner.Proofs.Printing
import Reckoner.Proofs.Quotation
import Reckoner.Proofs.Recovery
import Reckoner.Proofs.Redisplay
import Reckoner.Proofs.Refusal
import Reckoner.Proofs.Residue
import Reckoner.Proofs.Rounding
import Reckoner.Proofs.Scientific
import Reckoner.Proofs.Shortest
import Reckoner.Proofs.Showing
import Reckoner.Proofs.Spelling
import Reckoner.Proofs.Tiling
import Reckoner.Proofs.Trigger
import Reckoner.Proofs.Trimming
import Reckoner.Proofs.TwoPhase
import Reckoner.Scan
import Reckoner.Session
import Reckoner.Settings
import Reckoner.Stacks
import Reckoner.Text.Blank
import Reckoner.Text.CodeSet
import Reckoner.Text.Digit
import Reckoner.Text.Integer
import Reckoner.Text.Letter
import Reckoner.Text.Lines
import Reckoner.Text.LowerCase
import Reckoner.Text.Numeral
import Reckoner.Text.Printable
import Reckoner.Text.Quoted
import Reckoner.Token
