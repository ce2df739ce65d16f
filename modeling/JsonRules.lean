import JsonRules.CommandLine
import JsonRules.Libraries
import JsonRules.Main
import JsonRules.Report
import JsonRules.Rule
import JsonRules.Selection
import JsonRules.Proofs.Tree
import JsonRules.Proofs.Nodes
import JsonRules.Proofs.Steady
import JsonRules.Proofs.Reading
import JsonRules.Proofs.Session
import JsonRules.Proofs.Lookups
import JsonRules.Proofs.Normal
import JsonRules.Proofs.NormalRuns
import JsonRules.Proofs.Bodies
import JsonRules.Proofs.Rows
import JsonRules.Proofs.Nearest
import JsonRules.Proofs.Selecting
import JsonRules.Proofs.Sweeping
import JsonRules.Proofs.Shortest
import JsonRules.Proofs.Numerals
import JsonRules.Proofs.Quotes
import JsonRules.Proofs.Documents
import JsonRules.Proofs.Output
import JsonRules.Proofs.Docs
import JsonRules.Proofs.Writing
import JsonRules.Proofs.Logging
import JsonRules.Proofs.Canonical
import JsonRules.Proofs.CanonicalRuns
import JsonRules.Proofs.Grammar
import JsonRules.Proofs.Printed
import JsonRules.Proofs.Reports
import JsonRules.Proofs.Variables
import JsonRules.Proofs.Rounding
import JsonRules.Proofs.Words
import JsonRules.Proofs.Outcomes
import JsonRules.Proofs.Saturation
import JsonRules.Proofs.Integers
import JsonRules.Proofs.Faults
import JsonRules.Proofs.Shapes
import JsonRules.Proofs.Drafts
import JsonRules.Proofs.Defended
import JsonRules.Proofs.Meeting
import JsonRules.Proofs.Signed
import JsonRules.Proofs.Division
import JsonRules.Proofs.Comparison
import JsonRules.Proofs.Paths
import JsonRules.Proofs.Operands
import JsonRules.Proofs.Loops
import JsonRules.Proofs.Quantifiers
import JsonRules.Proofs.Concatenation
import JsonRules.Proofs.Shortcuts
import JsonRules.Proofs.Reductions
import JsonRules.Proofs.Chains
import JsonRules.Proofs.Flattening
import JsonRules.Proofs.Patterns
import JsonRules.Proofs.Slices
import JsonRules.Proofs.Membership
import JsonRules.Proofs.IntegerTexts
import JsonRules.Proofs.WholeRecord
