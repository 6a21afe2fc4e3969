import NoteVault.Base.Encoding
import NoteVault.Base.Schema
import NoteVault.Embedding.Basic
import NoteVault.Embedding.Search
import NoteVault.Fault
import NoteVault.Filter.Basic
import NoteVault.Filter.Comparison
import NoteVault.Filter.Condition
import NoteVault.Filter.Connective
import NoteVault.Filter.Outcome
import NoteVault.Filter.Predicate
import NoteVault.Formula.Basic
import NoteVault.Formula.Literal
import NoteVault.Formula.Reference
import NoteVault.Index
import NoteVault.Json.Node
import NoteVault.Json.Parse
import NoteVault.Json.Print
import NoteVault.Note.Basic
import NoteVault.Note.Code
import NoteVault.Note.Edit
import NoteVault.Note.Fence
import NoteVault.Note.Frontmatter
import NoteVault.Note.Link
import NoteVault.Note.Path
import NoteVault.Note.Tag
import NoteVault.Number.Binary64
import NoteVault.Number.Decimal
import NoteVault.Number.Format
import NoteVault.Number.Power
import NoteVault.Number.Shortest
import NoteVault.Number.Single
import NoteVault.Proofs.Text.Trim
import NoteVault.Query.Basic
import NoteVault.Query.Request
import NoteVault.Query.Row
import NoteVault.Query.Snapshot
import NoteVault.Query.Sort
import NoteVault.Query.Warnings
import NoteVault.Settings
import NoteVault.Sorting
import NoteVault.Store.Basic
import NoteVault.Store.Locator
import NoteVault.Text.Basic
import NoteVault.Text.Blank
import NoteVault.Text.Digit
import NoteVault.Text.Letter
import NoteVault.Text.Quoted
import NoteVault.Text.Range
import NoteVault.Text.Scan
import NoteVault.Text.Utf8
import NoteVault.Upsert.Basic
import NoteVault.Upsert.Batch
import NoteVault.Uri.Domain
import NoteVault.Uri.Domain.Composition
import NoteVault.Uri.Domain.Direction
import NoteVault.Uri.Domain.Joiner
import NoteVault.Uri.Domain.Mark
import NoteVault.Uri.Domain.Replacement
import NoteVault.Uri.Host
import NoteVault.Uri.Ipv4
import NoteVault.Uri.Ipv6
import NoteVault.Uri.Parse
import NoteVault.Uri.Path
import NoteVault.Uri.Percent
import NoteVault.Uri.Punycode
import NoteVault.Value.Basic
import NoteVault.Value.Coercion
import NoteVault.Value.Decode
import NoteVault.Value.Record
import NoteVault.Vault.Base
import NoteVault.Vault.Basic
import NoteVault.Vault.Ledger
import NoteVault.Vault.Settings
import NoteVault.Yaml.Data
import NoteVault.Yaml.Node
import NoteVault.Yaml.Print
import NoteVault.Yaml.Scalar
import NoteVault.Yaml.Token
import NoteVault.Yaml.Token.Property
import NoteVault.Yaml.Token.Scalar
import NoteVault.Yaml.Token.Stream
import NoteVault.Proofs.Filter.Connective
import NoteVault.Proofs.Filter.Splitting
import NoteVault.Proofs.Filter.Outcome
import NoteVault.Proofs.Filter.Precedence
import NoteVault.Proofs.Query.Selection
import NoteVault.Proofs.Sorting
import NoteVault.Proofs.Query.Paging
import NoteVault.Proofs.Query.LiveRun
import NoteVault.Proofs.Query.Session
import NoteVault.Proofs.Query.Pushed
import NoteVault.Proofs.Query.Isolation
import NoteVault.Proofs.Value.Record
import NoteVault.Proofs.Value.Decode
import NoteVault.Proofs.Filter.Encoding
import NoteVault.Proofs.Base.Encoding
import NoteVault.Proofs.Vault.Base
import NoteVault.Proofs.Note.Fence
import NoteVault.Proofs.Upsert.Stored
import NoteVault.Proofs.Upsert.Unreadable
import NoteVault.Proofs.Upsert.Interleaving
import NoteVault.Proofs.Note.Path
import NoteVault.Proofs.Store.Steps
import NoteVault.Proofs.Vault.Place
import NoteVault.Proofs.Vault.Written
import NoteVault.Proofs.Upsert.Batch
import NoteVault.Proofs.Upsert.Written
import NoteVault.Proofs.Upsert.Times
import NoteVault.Proofs.Vault.Apart
import NoteVault.Proofs.Upsert.Commuting
import NoteVault.Proofs.Vault.Listing
import NoteVault.Proofs.Vault.Sound
import NoteVault.Proofs.Vault.Identity
import NoteVault.Proofs.Text.Order
import NoteVault.Proofs.Value.Comparison
import NoteVault.Proofs.Note.Behind
import NoteVault.Proofs.Vault.Body
import NoteVault.Proofs.Filter.Reading
import NoteVault.Proofs.Filter.Negation
import NoteVault.Proofs.Filter.Rewriting
import NoteVault.Proofs.Query.Sort
import NoteVault.Proofs.Text.Affix
import NoteVault.Proofs.Text.Comma
import NoteVault.Proofs.Text.Bracket
import NoteVault.Proofs.Formula.Literal
import NoteVault.Proofs.Formula.Reference
import NoteVault.Proofs.Formula.Call
import NoteVault.Proofs.Formula.Branch
import NoteVault.Proofs.Formula.Ladder
import NoteVault.Proofs.Formula.Hop
import NoteVault.Proofs.Formula.Chain
import NoteVault.Proofs.Formula.Cycle
import NoteVault.Proofs.Filter.Whole
import NoteVault.Proofs.Filter.Call
import NoteVault.Proofs.Filter.Comparison
import NoteVault.Proofs.Filter.Argument
import NoteVault.Proofs.Upsert.Difference
import NoteVault.Proofs.Vault.Failed
import NoteVault.Proofs.Filter.Listed
import NoteVault.Proofs.Text.Scan
import NoteVault.Proofs.Note.Link
import NoteVault.Proofs.Filter.Linking
import NoteVault.Proofs.Value.Removal
import NoteVault.Proofs.Upsert.Order
import NoteVault.Proofs.Base.Properties
import NoteVault.Proofs.Query.Row
import NoteVault.Proofs.Query.SortKey
import NoteVault.Proofs.Query.Clamp
import NoteVault.Proofs.Number.Single
import NoteVault.Proofs.Number.Packing
import NoteVault.Proofs.Number.Rounding
import NoteVault.Proofs.Number.Positive
import NoteVault.Proofs.Number.Binary64
import NoteVault.Proofs.Embedding.Search
import NoteVault.Proofs.Embedding.Neighbours
import NoteVault.Proofs.Embedding.Cosine
import NoteVault.Proofs.Formula.Integer
import NoteVault.Proofs.Filter.Integer
import NoteVault.Proofs.Query.Warnings
import NoteVault.Proofs.Note.Code
import NoteVault.Proofs.Note.Rereading
import NoteVault.Proofs.Vault.Parted
import NoteVault.Proofs.Query.Check
import NoteVault.Proofs.Repeats
import NoteVault.Proofs.Text.Separation
import NoteVault.Proofs.Note.Root
