import PlaylistCurator.Catalog.Chain
import PlaylistCurator.Catalog.Page
import PlaylistCurator.Catalog.Playlist
import PlaylistCurator.Catalog.Snapshot
import PlaylistCurator.CommandLine.Arguments
import PlaylistCurator.CommandLine.Command
import PlaylistCurator.CommandLine.Grammar
import PlaylistCurator.CommandLine.Help
import PlaylistCurator.CommandLine.Invocation
import PlaylistCurator.Configuration.Document
import PlaylistCurator.Configuration.Location
import PlaylistCurator.Configuration.Settings
import PlaylistCurator.Curation.Copy
import PlaylistCurator.Curation.Job
import PlaylistCurator.Curation.List
import PlaylistCurator.Curation.Merge
import PlaylistCurator.Curation.Reading
import PlaylistCurator.Decimal.Double
import PlaylistCurator.Failure
import PlaylistCurator.Files.Task
import PlaylistCurator.Files.Tree
import PlaylistCurator.Json.Fields
import PlaylistCurator.Json.Number
import PlaylistCurator.Json.Reader
import PlaylistCurator.Json.Token
import PlaylistCurator.Json.Value
import PlaylistCurator.Json.Writer
import PlaylistCurator.Library
import PlaylistCurator.Library.File
import PlaylistCurator.Listing
import PlaylistCurator.Main
import PlaylistCurator.Program
import PlaylistCurator.Proofs.Catalog.Collecting
import PlaylistCurator.Proofs.Catalog.Paging
import PlaylistCurator.Proofs.Catalog.Schema
import PlaylistCurator.Proofs.Catalog.SnapshotText
import PlaylistCurator.Proofs.Catalog.UnknownMembers
import PlaylistCurator.Proofs.Curation.Attempts
import PlaylistCurator.Proofs.Curation.Batch
import PlaylistCurator.Proofs.Curation.BatchLaws
import PlaylistCurator.Proofs.Curation.CopyCourse
import PlaylistCurator.Proofs.Curation.Copying
import PlaylistCurator.Proofs.Curation.Draining
import PlaylistCurator.Proofs.Curation.Exclusions
import PlaylistCurator.Proofs.Curation.Independence
import PlaylistCurator.Proofs.Curation.Limits
import PlaylistCurator.Proofs.Curation.Listing
import PlaylistCurator.Proofs.Curation.MergeAgain
import PlaylistCurator.Proofs.Curation.MergeCourse
import PlaylistCurator.Proofs.Curation.MergeMeaning
import PlaylistCurator.Proofs.Curation.NoRepeats
import PlaylistCurator.Proofs.Curation.PageSize
import PlaylistCurator.Proofs.Curation.Reading
import PlaylistCurator.Proofs.Curation.ReadsFirst
import PlaylistCurator.Proofs.Curation.Retrying
import PlaylistCurator.Proofs.Curation.Shuffling
import PlaylistCurator.Proofs.Curation.Stages
import PlaylistCurator.Proofs.Curation.StruckCall
import PlaylistCurator.Proofs.Curation.StruckShuffle
import PlaylistCurator.Proofs.Files.Endings
import PlaylistCurator.Proofs.Files.Writing
import PlaylistCurator.Proofs.Json.FieldChanges
import PlaylistCurator.Proofs.Json.Recognition
import PlaylistCurator.Proofs.Json.RoundTrip
import PlaylistCurator.Proofs.Json.Spelling
import PlaylistCurator.Proofs.Json.Splicing
import PlaylistCurator.Proofs.Library.Answers
import PlaylistCurator.Proofs.Library.Contents
import PlaylistCurator.Proofs.Library.Rewriting
import PlaylistCurator.Proofs.Library.Saving
import PlaylistCurator.Proofs.Library.WriteRecord
import PlaylistCurator.Proofs.Listing.Table
import PlaylistCurator.Proofs.Program.LibraryFile
import PlaylistCurator.Proofs.Query.Clauses
import PlaylistCurator.Proofs.Query.Collisions
import PlaylistCurator.Proofs.Query.Conjunction
import PlaylistCurator.Proofs.Query.FilterReading
import PlaylistCurator.Proofs.Query.FilterSpelling
import PlaylistCurator.Proofs.Query.LiteralMatches
import PlaylistCurator.Proofs.Query.LongestPrefix
import PlaylistCurator.Proofs.Query.Naming
import PlaylistCurator.Proofs.Query.RepeatedRegistrations
import PlaylistCurator.Proofs.Query.SizeFilters
import PlaylistCurator.Proofs.Query.SortReading
import PlaylistCurator.Proofs.Query.Sorting
import PlaylistCurator.Proofs.Query.StableSort
import PlaylistCurator.Proofs.Query.TableEntries
import PlaylistCurator.Proofs.Service.Course
import PlaylistCurator.Proofs.Service.Interruption
import PlaylistCurator.Proofs.Text.LowerCasing
import PlaylistCurator.Proofs.Text.Trimming
import PlaylistCurator.Query.Abbreviation
import PlaylistCurator.Query.Error
import PlaylistCurator.Query.Field
import PlaylistCurator.Query.Filter
import PlaylistCurator.Query.Operator
import PlaylistCurator.Query.Sort
import PlaylistCurator.Record
import PlaylistCurator.Record.Value
import PlaylistCurator.Service.Call
import PlaylistCurator.Service.Dialogue
import PlaylistCurator.Service.Run
import PlaylistCurator.Text.Blank
import PlaylistCurator.Text.HexDigit
import PlaylistCurator.Text.LowerCase
import PlaylistCurator.Text.LowerCase.Table
import PlaylistCurator.Text.Occurrence
import PlaylistCurator.Text.SignedInteger
import PlaylistCurator.Toml.Reader
import PlaylistCurator.Toml.Scalar
import PlaylistCurator.Toml.Token
import PlaylistCurator.Toml.Value
