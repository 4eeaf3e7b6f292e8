import Transclude.Condition.Error
import Transclude.Condition.Evaluate
import Transclude.Condition.Operand
import Transclude.Condition.Scan
import Transclude.Condition.Token
import Transclude.Decimal.Binary64
import Transclude.Decimal.Layout
import Transclude.Decimal.Literal
import Transclude.Decimal.Shortest
import Transclude.Dict
import Transclude.Directive.Attributes
import Transclude.Directive.Hooks
import Transclude.Directive.Kind
import Transclude.Directive.Process
import Transclude.Directive.Rewrite
import Transclude.Directive.Tag
import Transclude.Files.Fault
import Transclude.Files.Path
import Transclude.Files.Tree
import Transclude.Identifier
import Transclude.Json.Basic
import Transclude.Json.Writer
import Transclude.Loader.Basic
import Transclude.Loader.Error
import Transclude.Loader.Folder
import Transclude.Loader.Loaded
import Transclude.Loader.Memory
import Transclude.Options.Basic
import Transclude.Options.Defaults
import Transclude.Options.Discovery
import Transclude.Options.Error
import Transclude.Options.Host
import Transclude.Options.Key
import Transclude.Options.Setting
import Transclude.Options.Suffix
import Transclude.Options.Toml
import Transclude.Page.Basic
import Transclude.Page.Dependencies
import Transclude.Page.Inclusions
import Transclude.Page.Parse
import Transclude.Page.Splice
import Transclude.Proofs.Condition.Evaluation
import Transclude.Proofs.Condition.Grammar
import Transclude.Proofs.Condition.Readers
import Transclude.Proofs.Condition.Refusal
import Transclude.Proofs.Condition.Sides
import Transclude.Proofs.Condition.Written
import Transclude.Proofs.Decimal.Literal
import Transclude.Proofs.Decimal.Nearest
import Transclude.Proofs.Decimal.Rounding
import Transclude.Proofs.Directive.Attributes
import Transclude.Proofs.Directive.NormalForm
import Transclude.Proofs.Directive.Process
import Transclude.Proofs.Directive.Rounds
import Transclude.Proofs.Directive.Written
import Transclude.Proofs.Files.Path
import Transclude.Proofs.Identifier
import Transclude.Proofs.Loader.Agreement
import Transclude.Proofs.Loader.Folder
import Transclude.Proofs.Options.Assignment
import Transclude.Proofs.Options.Layers
import Transclude.Proofs.Options.Reading
import Transclude.Proofs.Options.Store
import Transclude.Proofs.Options.Suffix
import Transclude.Proofs.Page.Concatenation
import Transclude.Proofs.Page.Contract
import Transclude.Proofs.Page.Course
import Transclude.Proofs.Page.Firsts
import Transclude.Proofs.Page.FreeOptions
import Transclude.Proofs.Page.Indexed
import Transclude.Proofs.Page.Opening
import Transclude.Proofs.Page.Pass
import Transclude.Proofs.Page.Search
import Transclude.Proofs.Page.Splice
import Transclude.Proofs.Page.Stability
import Transclude.Proofs.Page.Strictness
import Transclude.Proofs.Page.Unterminated
import Transclude.Proofs.Resolve.Document
import Transclude.Proofs.Resolve.Outcome
import Transclude.Proofs.Resolve.Requests
import Transclude.Proofs.Resolve.Substitute
import Transclude.Proofs.Text.Letters
import Transclude.Proofs.Text.Occurrence
import Transclude.Proofs.Text.Run
import Transclude.Resolve.Basic
import Transclude.Resolve.Error
import Transclude.Resolve.Substitute
import Transclude.Text.Age
import Transclude.Text.Alphabetic
import Transclude.Text.Blank
import Transclude.Text.Bytes
import Transclude.Text.Letters
import Transclude.Text.Mark
import Transclude.Text.Numeric
import Transclude.Text.Printable
import Transclude.Text.Quoted
import Transclude.Text.Ranges
import Transclude.Text.Search
