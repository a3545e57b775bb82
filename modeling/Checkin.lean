import Checkin.Main
import Checkin.Message.Reading
import Checkin.Proofs.Builder.Kinds
import Checkin.Proofs.Message.Reading
import Checkin.Proofs.Message.WireForm
import Checkin.Proofs.Shell.ExportLines
import Checkin.Proofs.Tool.Checkin
import Checkin.Proofs.Tool.Endings
import Checkin.Proofs.Tool.IdStability
import Checkin.Proofs.FileTree.Nesting
import Checkin.Proofs.Store.Readers
import Checkin.Proofs.Agreement
import Checkin.Proofs.Tool.Variables
import Checkin.Proofs.EnvironmentFile
import Checkin.Proofs.Tool.EnvironmentFile
import Checkin.Proofs.FileTree.Directory
import Checkin.Proofs.Text.Numeral
import Checkin.Proofs.Store.Uses
import Checkin.Proofs.Tool.Pipeline
import Checkin.Proofs.FileTree.Fresh
import Checkin.Proofs.Tool.ReadOnly
import Checkin.Proofs.Tool.RootChoice
import Checkin.Proofs.Tool.Output
import Checkin.Proofs.Message.Layout
import Checkin.Proofs.CommandLine
import Checkin.Proofs.Tool.Likeness
import Checkin.Proofs.FileTree.Descent
import Checkin.Proofs.FileTree.Twins
import Checkin.Proofs.Shell.Distributions
import Checkin.Proofs.Tool.LogOptions
import Checkin.Proofs.Json.Spelling
import Checkin.Proofs.Message.Spelling
import Checkin.Proofs.Builder.Runs
import Checkin.Proofs.Message.Runs
import Checkin.Proofs.Message.Complaints
import Checkin.Proofs.FileTree.Passage
import Checkin.Proofs.FileTree.Resolution
import Checkin.Proofs.FileTree.Unseen
import Checkin.Proofs.Tool.Exporting
import Checkin.Proofs.Tool.Spellings
import Checkin.Proofs.Tool.Consulted
import Checkin.Proofs.Shell.Exports
import Checkin.Proofs.Store.Times
import Checkin.Proofs.FileTree.Paving
import Checkin.Proofs.Locality
import Checkin.Proofs.Store.Footprint
import Checkin.Proofs.Store.Sharing
import Checkin.Proofs.Tool.Cells
import Checkin.Proofs.Tool.UsageOrder
import Checkin.Proofs.Store.Lasting
import Checkin.Proofs.InstallationId
import Checkin.Proofs.Store.NewIds
import Checkin.Proofs.Reconfiguration
import Checkin.Proofs.Message.Sets
