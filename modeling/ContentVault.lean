import ContentVault.Address
import ContentVault.Blob.Basic
import ContentVault.Blob.Bucket
import ContentVault.Blob.Directory
import ContentVault.Blob.Error
import ContentVault.Blob.Memory
import ContentVault.Blob.Store
import ContentVault.BlobKey
import ContentVault.Calendar
import ContentVault.Catalog.Damage
import ContentVault.Catalog.Error
import ContentVault.Catalog.Pattern
import ContentVault.Catalog.Query
import ContentVault.Catalog.Record
import ContentVault.Catalog.Row
import ContentVault.Catalog.Tables
import ContentVault.Catalog.Work
import ContentVault.CommandLine.Argument
import ContentVault.CommandLine.Command
import ContentVault.CommandLine.Error
import ContentVault.CommandLine.Level
import ContentVault.CommandLine.Reach
import ContentVault.CommandLine.Run
import ContentVault.CommandLine.Word
import ContentVault.Configuration.Environment
import ContentVault.Configuration.Error
import ContentVault.Configuration.Extraction
import ContentVault.Configuration.Load
import ContentVault.Configuration.Settings
import ContentVault.Database.Address
import ContentVault.Database.Connection
import ContentVault.Database.Damage
import ContentVault.Database.Driver
import ContentVault.Database.Image
import ContentVault.Database.Migration
import ContentVault.Database.Url
import ContentVault.Digest.Blake3
import ContentVault.Digest.Sha256
import ContentVault.Digest.Words
import ContentVault.Document.Basic
import ContentVault.Document.Inline
import ContentVault.Document.Json
import ContentVault.Document.Number
import ContentVault.Document.Pretty
import ContentVault.Document.Reader
import ContentVault.Document.Toml
import ContentVault.Document.Toml.Scalar
import ContentVault.Document.Toml.Table
import ContentVault.Document.Yaml
import ContentVault.Document.Yaml.Cursor
import ContentVault.Document.Yaml.Scalar
import ContentVault.FileTree
import ContentVault.FileTree.Change
import ContentVault.Main
import ContentVault.MediaType
import ContentVault.MediaType.ExtensionTable
import ContentVault.MediaType.Signature
import ContentVault.Table
import ContentVault.Text.Blank
import ContentVault.Text.CaseTable
import ContentVault.Text.EscapeTable
import ContentVault.Text.Hexadecimal
import ContentVault.Text.Lowercase
import ContentVault.Text.Percent
import ContentVault.Text.Pieces
import ContentVault.Text.Quoted
import ContentVault.Text.Utf8
import ContentVault.Vault.Error
import ContentVault.Vault.History
import ContentVault.Vault.LineChanges
import ContentVault.Vault.Listing
import ContentVault.Vault.Manage
import ContentVault.Vault.Models
import ContentVault.Vault.Operation
import ContentVault.Vault.Report
import ContentVault.Vault.Resolve
import ContentVault.Vault.Revert
import ContentVault.Vault.Saga
import ContentVault.Vault.Tags
import ContentVault.Vault.Upload
import ContentVault.Vault.World
import ContentVault.Proofs.BlobKey
import ContentVault.Proofs.Catalog.Row
import ContentVault.Proofs.Catalog.Work
import ContentVault.Proofs.Catalog.History
import ContentVault.Proofs.Catalog.Chronicle
import ContentVault.Proofs.Blob.Memory
import ContentVault.Proofs.Vault.Calls
import ContentVault.Proofs.Vault.Upload
import ContentVault.Proofs.Catalog.Tagging
import ContentVault.Proofs.Vault.AllOrNothing
import ContentVault.Proofs.Vault.LostRace
import ContentVault.Proofs.Vault.Lookups
import ContentVault.Proofs.Vault.Operations
import ContentVault.Proofs.Vault.Commits
import ContentVault.Proofs.Vault.Revert
import ContentVault.Proofs.Vault.Evolution
import ContentVault.Proofs.Vault.Integrity
import ContentVault.Proofs.Vault.Rows
import ContentVault.Proofs.Vault.Deduplication
import ContentVault.Proofs.Catalog.Trash
import ContentVault.Proofs.Catalog.Listing
import ContentVault.Proofs.Vault.ListingOrder
import ContentVault.Proofs.Vault.Pages
import ContentVault.Proofs.Vault.BlobCalls
import ContentVault.Proofs.Vault.Trash
import ContentVault.Proofs.Vault.Validation
import ContentVault.Proofs.Catalog.Atomicity
import ContentVault.Proofs.Vault.FileHistory
import ContentVault.Proofs.Vault.Reads
import ContentVault.Proofs.Vault.Labels
import ContentVault.Proofs.Vault.OwnLabels
import ContentVault.Proofs.Catalog.TrashedReads
import ContentVault.Proofs.FileTree
import ContentVault.Proofs.Blob.Directory
import ContentVault.Proofs.Blob.Presence
import ContentVault.Proofs.Text.Plain
import ContentVault.Proofs.Blob.Mirror
import ContentVault.Proofs.Catalog.Lockstep
import ContentVault.Proofs.Catalog.Orderly
import ContentVault.Proofs.Catalog.Part
import ContentVault.Proofs.Catalog.Alongside
import ContentVault.Proofs.Vault.Lockstep
import ContentVault.Proofs.Vault.Mirror
import ContentVault.Proofs.Vault.Alongside
import ContentVault.Proofs.Vault.Independence
import ContentVault.Proofs.Calendar
import ContentVault.Proofs.StoragePath
import ContentVault.Proofs.NormalPath
import ContentVault.Proofs.Vault.Timing
import ContentVault.Proofs.Vault.Deadline
import ContentVault.Proofs.Catalog.Codec
import ContentVault.Proofs.Blob.Bucket
import ContentVault.Proofs.Text.LetterCase
import ContentVault.Proofs.Catalog.NameFilter
import ContentVault.Proofs.Vault.LineChanges
import ContentVault.Proofs.Vault.Comparison
import ContentVault.Proofs.Catalog.Description
import ContentVault.Proofs.Vault.Description
import ContentVault.Proofs.Vault.BatchDeletion
import ContentVault.Proofs.Vault.Saga
import ContentVault.Proofs.Blob.Replacement
import ContentVault.Proofs.Catalog.Dates
import ContentVault.Proofs.Catalog.Linkage
import ContentVault.Proofs.Configuration.Validation
import ContentVault.Proofs.Text.Order
import ContentVault.Proofs.Vault.Dates
import ContentVault.Proofs.Vault.TagHistory
import ContentVault.Proofs.Vault.Tags
import ContentVault.Proofs.Document.Layers
import ContentVault.Proofs.Configuration.Layers
import ContentVault.Proofs.Configuration.Sources
import ContentVault.Proofs.MediaType.ContentRules
import ContentVault.Proofs.Vault.LineBalances
import ContentVault.Proofs.Database.Migration
import ContentVault.Proofs.Catalog.VersionId
