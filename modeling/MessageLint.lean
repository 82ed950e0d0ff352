import MessageLint.Main
import MessageLint.Service
import MessageLint.Proofs.Caret
import MessageLint.Proofs.Check.MessageExpression
import MessageLint.Proofs.Check.Selection
import MessageLint.Proofs.Paging
import MessageLint.Proofs.Source.Build
import MessageLint.Proofs.Suppression
import MessageLint.Proofs.Files.Path
import MessageLint.Proofs.Files.Workspace
import MessageLint.Proofs.Scan.Listing
import MessageLint.Proofs.Files.Expand
import MessageLint.Proofs.Scan.Spelling
import MessageLint.Proofs.Files.Content
import MessageLint.Proofs.Isolation
import MessageLint.Proofs.Check.Translation
import MessageLint.Proofs.Files.Enclosing
import MessageLint.Proofs.ConfigSearch
import MessageLint.Proofs.Files.Matching
import MessageLint.Proofs.Scan.Includes
import MessageLint.Proofs.TextPosition
import MessageLint.Proofs.Check.Independence
import MessageLint.Proofs.Check.Markup
import MessageLint.Proofs.Directive
import MessageLint.Proofs.CommentOrder
import MessageLint.Proofs.IssueOrder
import MessageLint.Proofs.RuleSelection
import MessageLint.Proofs.Json.Reading
import MessageLint.Proofs.ConfigText
import MessageLint.Proofs.Tree.Edits
import MessageLint.Proofs.ReportText
import MessageLint.Proofs.Files.Adding
import MessageLint.Proofs.Initialization
