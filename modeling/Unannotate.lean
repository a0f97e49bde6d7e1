import Unannotate.AnnotationTree.Basic
import Unannotate.AnnotationTree.Filter
import Unannotate.Archive.Basic
import Unannotate.Archive.Directory
import Unannotate.Archive.Entry
import Unannotate.Archive.ExtraField
import Unannotate.ArchivePurge
import Unannotate.ArtifactKind
import Unannotate.AttachmentPoint
import Unannotate.Bytes
import Unannotate.ClassFile.Basic
import Unannotate.ClassFile.Code
import Unannotate.ClassFile.ConstantPool
import Unannotate.ClassFile.ConstantText
import Unannotate.ClassFile.Layout
import Unannotate.ClassFile.OffsetReader
import Unannotate.ClassFile.Reader
import Unannotate.ClassFile.Record
import Unannotate.ClassPurge
import Unannotate.CommandLine.Arguments
import Unannotate.CommandLine.Fault
import Unannotate.CommandLine.Settings
import Unannotate.Configuration.Basic
import Unannotate.Configuration.Fault
import Unannotate.Configuration.File
import Unannotate.Configuration.Targets
import Unannotate.Crc32
import Unannotate.Cursor
import Unannotate.Decimal.Shortest
import Unannotate.Deflate.Bits
import Unannotate.Deflate.CodeLengths
import Unannotate.Deflate.Compress
import Unannotate.Deflate.Huffman
import Unannotate.Deflate.Inflate
import Unannotate.Deflate.Matching
import Unannotate.Deflate.Symbol
import Unannotate.Descriptor
import Unannotate.ElementKind
import Unannotate.Endpoint.Authority
import Unannotate.Endpoint.Basic
import Unannotate.Endpoint.Domain
import Unannotate.Endpoint.Fault
import Unannotate.Endpoint.Host
import Unannotate.Endpoint.Percent
import Unannotate.Event
import Unannotate.Failure
import Unannotate.Files.FileTree
import Unannotate.Files.Path
import Unannotate.FilterSet
import Unannotate.Json.Decoding
import Unannotate.Json.Document
import Unannotate.Json.Number
import Unannotate.Main
import Unannotate.Malformation
import Unannotate.Matcher
import Unannotate.ModifiedUtf8
import Unannotate.Pattern.Basic
import Unannotate.Pattern.CharClass
import Unannotate.Pattern.Parser
import Unannotate.Pattern.Reader
import Unannotate.Plan
import Unannotate.Processing
import Unannotate.Proofs.AnnotationTree.Depth
import Unannotate.Proofs.AnnotationTree.Filtering
import Unannotate.Proofs.AnnotationTree.Lossless
import Unannotate.Proofs.Archive.Described
import Unannotate.Proofs.Archive.DirectoryScan
import Unannotate.Proofs.Archive.ExtraFields
import Unannotate.Proofs.Archive.FirstEntries
import Unannotate.Proofs.Archive.Opening
import Unannotate.Proofs.Archive.Records
import Unannotate.Proofs.Archive.Written
import Unannotate.Proofs.ArchivePurge.Contents
import Unannotate.Proofs.ArchivePurge.Copied
import Unannotate.Proofs.ArchivePurge.FirstListed
import Unannotate.Proofs.ArchivePurge.Followed
import Unannotate.Proofs.ArchivePurge.Nesting
import Unannotate.Proofs.ArchivePurge.Outcome
import Unannotate.Proofs.ArchivePurge.Replaced
import Unannotate.Proofs.ArchivePurge.Resources
import Unannotate.Proofs.ArchivePurge.Settled
import Unannotate.Proofs.ArchivePurge.Steps
import Unannotate.Proofs.ArchivePurge.Untouched
import Unannotate.Proofs.ArchivePurge.Visited
import Unannotate.Proofs.ArchivePurge.Walk
import Unannotate.Proofs.BigEndian
import Unannotate.Proofs.ClassFile.Blocks
import Unannotate.Proofs.ClassFile.ConstantPool
import Unannotate.Proofs.ClassFile.Faults
import Unannotate.Proofs.ClassFile.Lossless
import Unannotate.Proofs.ClassFile.Nested
import Unannotate.Proofs.ClassFile.PoolNumbers
import Unannotate.Proofs.ClassFile.PrefixFree
import Unannotate.Proofs.ClassFile.Reading
import Unannotate.Proofs.ClassFile.Sections
import Unannotate.Proofs.ClassFile.Sessions
import Unannotate.Proofs.ClassNames
import Unannotate.Proofs.Configuration.Decoded
import Unannotate.Proofs.Configuration.Documents
import Unannotate.Proofs.Configuration.Equivalent
import Unannotate.Proofs.Configuration.Fields
import Unannotate.Proofs.Configuration.Kinds
import Unannotate.Proofs.Configuration.Reordered
import Unannotate.Proofs.Configuration.Rules
import Unannotate.Proofs.Configuration.Schema
import Unannotate.Proofs.Configuration.StrayKeys
import Unannotate.Proofs.Deflate
import Unannotate.Proofs.Endpoint.Addresses
import Unannotate.Proofs.Endpoint.Authorities
import Unannotate.Proofs.Endpoint.Encoding
import Unannotate.Proofs.Endpoint.Hosts
import Unannotate.Proofs.Endpoint.Names
import Unannotate.Proofs.Endpoint.Normalized
import Unannotate.Proofs.Endpoint.Numerals
import Unannotate.Proofs.Endpoint.Paths
import Unannotate.Proofs.Endpoint.Pieces
import Unannotate.Proofs.Files.Below
import Unannotate.Proofs.Files.Joined
import Unannotate.Proofs.Files.Parents
import Unannotate.Proofs.Files.Places
import Unannotate.Proofs.Json.Texts
import Unannotate.Proofs.Json.Tokens
import Unannotate.Proofs.Layout.Following
import Unannotate.Proofs.Layout.Locality
import Unannotate.Proofs.Layout.Walk
import Unannotate.Proofs.LittleEndian
import Unannotate.Proofs.Marks
import Unannotate.Proofs.ModifiedUtf8
import Unannotate.Proofs.NameEndings
import Unannotate.Proofs.Outcomes
import Unannotate.Proofs.Pattern.Anchored
import Unannotate.Proofs.Pattern.Blanks
import Unannotate.Proofs.Pattern.Bodies
import Unannotate.Proofs.Pattern.Bounded
import Unannotate.Proofs.Pattern.Classes
import Unannotate.Proofs.Pattern.Consuming
import Unannotate.Proofs.Pattern.Locality
import Unannotate.Proofs.Pattern.Matching
import Unannotate.Proofs.Plan.Directory
import Unannotate.Proofs.Plan.Walk
import Unannotate.Proofs.Purge.Acceptance
import Unannotate.Proofs.Purge.AlikeRecords
import Unannotate.Proofs.Purge.Census
import Unannotate.Proofs.Purge.Composition
import Unannotate.Proofs.Purge.Dwindling
import Unannotate.Proofs.Purge.InnerRecords
import Unannotate.Proofs.Purge.OpenedRecords
import Unannotate.Proofs.Purge.OwnOutput
import Unannotate.Proofs.Purge.PassBodies
import Unannotate.Proofs.Purge.PassFile
import Unannotate.Proofs.Purge.Points
import Unannotate.Proofs.Purge.Purgeable
import Unannotate.Proofs.Purge.ReferenceEdit
import Unannotate.Proofs.Purge.Remainder
import Unannotate.Proofs.Purge.Remaining
import Unannotate.Proofs.Purge.Repeated
import Unannotate.Proofs.Purge.Survey
import Unannotate.Proofs.Purge.WalkLeft
import Unannotate.Proofs.Telemetry.Ledger
import Unannotate.Proofs.Telemetry.MirroredWork
import Unannotate.Proofs.Telemetry.PurgeSpans
import Unannotate.Proofs.Telemetry.SpanMoves
import Unannotate.Proofs.Telemetry.TracedSteps
import Unannotate.Proofs.Telemetry.Untraced
import Unannotate.Proofs.Text
import Unannotate.Proofs.Work
import Unannotate.Proofs.Workers.Apart
import Unannotate.Proofs.Workers.Delivered
import Unannotate.Proofs.Workers.Determined
import Unannotate.Proofs.Workers.FailedRun
import Unannotate.Proofs.Workers.Foreseen
import Unannotate.Proofs.Workers.Frame
import Unannotate.Proofs.Workers.InOrder
import Unannotate.Proofs.Workers.Listing
import Unannotate.Proofs.Workers.Moments
import Unannotate.Proofs.Workers.Planned
import Unannotate.Proofs.Workers.Steps
import Unannotate.Proofs.Workers.Target
import Unannotate.PurgedClass
import Unannotate.Run
import Unannotate.Span
import Unannotate.StripFlags
import Unannotate.Summary
import Unannotate.Text.CodePage437
import Unannotate.Text.Ending
import Unannotate.Text.Hexadecimal
import Unannotate.Text.Punycode
import Unannotate.Text.Quoted
import Unannotate.Text.Utf8
import Unannotate.Trace
import Unannotate.TracedWorkers
import Unannotate.Unicode.CaseFolding
import Unannotate.Unicode.CodePointSet
import Unannotate.Unicode.GeneralCategory
import Unannotate.Unicode.Property
import Unannotate.Unicode.Script
import Unannotate.Work
import Unannotate.Workers
