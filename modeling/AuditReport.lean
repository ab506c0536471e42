import AuditReport.Main
import AuditReport.Proofs.Diagnostic.Order
import AuditReport.Proofs.FirstSeen
import AuditReport.Proofs.Diagnostic.Merge
import AuditReport.Proofs.Contract.Combined
import AuditReport.Proofs.Finding.Groups
import AuditReport.Proofs.Finding.Placement
import AuditReport.Proofs.Finding.Format
import AuditReport.Proofs.Contract.Conservation
import AuditReport.Proofs.Bytecode.Disassembly
import AuditReport.Proofs.Location.BytecodeLocation
import AuditReport.Proofs.Diagnostic.Arrangement
import AuditReport.Proofs.Contract.Batches
import AuditReport.Proofs.Contract.LateFilter
import AuditReport.Proofs.Contract.Pool
import AuditReport.Proofs.Contract.Schedule
import AuditReport.Proofs.SourceMap.WrittenRange
import AuditReport.Proofs.Contract.OwnTree
import AuditReport.Proofs.SourceMap.ThirdField
import AuditReport.Proofs.Finding.Partition
import AuditReport.Proofs.Artifact.SourceIds
import AuditReport.Proofs.Contract.LeftOut
import AuditReport.Proofs.Command.ExitStatus
import AuditReport.Proofs.Syntax.Walkable
import AuditReport.Proofs.Bytecode.LoneDigit
import AuditReport.Proofs.Contract.JobFaults
import AuditReport.Proofs.Artifact.Listings
import AuditReport.Proofs.Command.Endings
import AuditReport.Proofs.Syntax.Schemas
import AuditReport.Proofs.SourceMap.Decompression
import AuditReport.Proofs.SourceMap.Rendering
import AuditReport.Proofs.Bytecode.InstructionIndex
import AuditReport.Proofs.Source.Places
import AuditReport.Proofs.Syntax.Outermost
import AuditReport.Proofs.Syntax.FirstFit
import AuditReport.Proofs.Finding.FileIndex
import AuditReport.Proofs.Bytecode.Hexadecimal
import AuditReport.Proofs.SourceMap.EntryText
import AuditReport.Proofs.Contract.TextForm
import AuditReport.Proofs.Contract.Positions
import AuditReport.Proofs.Contract.WellFormed
import AuditReport.Proofs.Syntax.ScalarChildren
import AuditReport.Proofs.Contract.StrangeTrees
import AuditReport.Proofs.SourceMap.Readers
import AuditReport.Proofs.Contract.InputOrder
import AuditReport.Proofs.Json.KeyedOnce
import AuditReport.Proofs.Artifact.DecodedFields
import AuditReport.Proofs.Artifact.SharedSources
import AuditReport.Proofs.Artifact.Reloaded
import AuditReport.Proofs.Config.CanonicalId
import AuditReport.Proofs.Config.Outcome
import AuditReport.Proofs.Command.ProjectFile
import AuditReport.Proofs.Diagnostic.StableSort
import AuditReport.Proofs.Config.IdLists
import AuditReport.Proofs.Command.WrittenReports
