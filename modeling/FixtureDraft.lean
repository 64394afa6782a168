import FixtureDraft.Main
import FixtureDraft.Tool.Definition
import FixtureDraft.Tool.Dispatch
import FixtureDraft.Proofs.Reservation
import FixtureDraft.Proofs.TestNames
import FixtureDraft.Proofs.Members
import FixtureDraft.Proofs.Parts
import FixtureDraft.Proofs.UnitFixtures
import FixtureDraft.Proofs.Stores
import FixtureDraft.Proofs.Targets
import FixtureDraft.Batch.Line
import FixtureDraft.Proofs.Pools
import FixtureDraft.Proofs.Schedules
import FixtureDraft.Proofs.WrittenFiles
import FixtureDraft.Proofs.Ledgers
import FixtureDraft.Proofs.StagedRuns
import FixtureDraft.Proofs.Accounts
import FixtureDraft.Proofs.VerbatimNames
import FixtureDraft.Proofs.FullNames
import FixtureDraft.Proofs.DeclaredTypes
import FixtureDraft.Proofs.Folders
import FixtureDraft.Proofs.SavedFiles
import FixtureDraft.Batch.Strict
import FixtureDraft.Proofs.StrictLines
import FixtureDraft.Proofs.Causes
import FixtureDraft.Proofs.Confluence
import FixtureDraft.Proofs.Walks
import FixtureDraft.Proofs.FileScopes
import FixtureDraft.Proofs.BatchFiles
import FixtureDraft.Proofs.Orders
import FixtureDraft.Proofs.Agreement
import FixtureDraft.Proofs.FlawlessBatches
import FixtureDraft.Proofs.Races
import FixtureDraft.Proofs.CompleteArguments
import FixtureDraft.Proofs.PathTexts
import FixtureDraft.Proofs.ExitCodes
import FixtureDraft.Proofs.FewerFolders
import FixtureDraft.Proofs.Lanes
import FixtureDraft.Proofs.SingleWorkers
import FixtureDraft.Proofs.SingleSources
import FixtureDraft.Proofs.ParameterParts
import FixtureDraft.Proofs.ParameterShapes
import FixtureDraft.Proofs.ParameterExtras
import FixtureDraft.Proofs.Requests
import FixtureDraft.Proofs.Merging
import FixtureDraft.Proofs.Occurrences
import FixtureDraft.Proofs.BaseNames
import FixtureDraft.Proofs.MockedTypes
import FixtureDraft.Proofs.Locals
import FixtureDraft.Proofs.SetupBodies
import FixtureDraft.Proofs.TestBodies
import FixtureDraft.Proofs.Identifiers
import FixtureDraft.Proofs.OwnMembers
import FixtureDraft.Proofs.Arrangements
import FixtureDraft.Proofs.PrintedLines
import FixtureDraft.Proofs.FirstFaults
import FixtureDraft.Proofs.ReadingBack
import FixtureDraft.Proofs.Layouts
import FixtureDraft.Proofs.DocumentOrder
import FixtureDraft.Proofs.TypeNames
