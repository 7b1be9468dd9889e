import QueryTyping.Catalog.Described
import QueryTyping.Catalog.DriverError
import QueryTyping.Catalog.Snapshot
import QueryTyping.Generation.Format
import QueryTyping.Main
import QueryTyping.Proofs.Independence
import QueryTyping.Proofs.NamesApart
import QueryTyping.Proofs.FetchHistory
import QueryTyping.Proofs.Imports
import QueryTyping.Proofs.Lookups
import QueryTyping.Proofs.Expansion
import QueryTyping.Proofs.Cycles
import QueryTyping.Proofs.Stability
import QueryTyping.Proofs.Collisions
import QueryTyping.Proofs.Calls
import QueryTyping.Proofs.Faults
import QueryTyping.Proofs.Remembered
import QueryTyping.Proofs.Formed
import QueryTyping.Proofs.Spelling
import QueryTyping.Proofs.Homonyms
import QueryTyping.Proofs.SettingsFaults
import QueryTyping.Proofs.Entries
import QueryTyping.Proofs.WrittenTokens
import QueryTyping.Proofs.WrittenDocuments
import QueryTyping.Proofs.WrittenValues
import QueryTyping.Proofs.CatalogText
import QueryTyping.Proofs.Deadline
import QueryTyping.Proofs.GenerationText
import QueryTyping.Proofs.ManifestText
import QueryTyping.Proofs.FreshName
import QueryTyping.Proofs.NameSearch
import QueryTyping.Proofs.AcronymEntries
import QueryTyping.Proofs.ResolutionSteps
import QueryTyping.Proofs.RowNames
import QueryTyping.Proofs.TypedQueries
import QueryTyping.Proofs.QueryNames
import QueryTyping.Proofs.ColumnNames
import QueryTyping.Proofs.NamingStyles
import QueryTyping.Proofs.OverrideNames
import QueryTyping.Proofs.IgnoredColumns
import QueryTyping.Proofs.WrittenNames
