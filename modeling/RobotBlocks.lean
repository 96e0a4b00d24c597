import RobotBlocks.Keyed
import RobotBlocks.Ascending
import RobotBlocks.Text.Blank
import RobotBlocks.Text.Invisible
import RobotBlocks.Text.Quoted
import RobotBlocks.Json
import RobotBlocks.Json.Number
import RobotBlocks.Json.Real
import RobotBlocks.Json.Escape
import RobotBlocks.Json.Lexeme
import RobotBlocks.Json.Document
import RobotBlocks.Json.Printer
import RobotBlocks.Json.DecodeFault
import RobotBlocks.Json.Record
import RobotBlocks.Graph.CallKind
import RobotBlocks.Graph.Signature
import RobotBlocks.Graph.Definition
import RobotBlocks.Graph.CallNode
import RobotBlocks.Graph.Interchange
import RobotBlocks.Graph.Workspace
import RobotBlocks.Fault
import RobotBlocks.SavedState
import RobotBlocks.SavedState.Interchange
import RobotBlocks.Pass
import RobotBlocks.Pass.Repair
import RobotBlocks.Pass.Report
import RobotBlocks.Code.ModuleKind
import RobotBlocks.Code.Identifier
import RobotBlocks.Code.Precedence
import RobotBlocks.Code.Imports
import RobotBlocks.Code.Context
import RobotBlocks.Code.CalleePath
import RobotBlocks.Code.Fragment
import RobotBlocks.Code.Module
import RobotBlocks.Drawing
import RobotBlocks.Palette
import RobotBlocks.Palette.LibraryFunction
import RobotBlocks.Gamepad.Controller
import RobotBlocks.Gamepad.SlotTable
import RobotBlocks.Gamepad.Profile
import RobotBlocks.Gamepad.Builtin
import RobotBlocks.Gamepad.Labels
import RobotBlocks.Gamepad.Reading
import RobotBlocks.Gamepad.Ports
import RobotBlocks.Settings
import RobotBlocks.Proofs.RepairEffect
import RobotBlocks.Proofs.PassEffect
import RobotBlocks.Proofs.FullPassFixpoint
import RobotBlocks.Proofs.Activity
import RobotBlocks.Proofs.ChangeHistory
import RobotBlocks.Proofs.ComponentIdentity
import RobotBlocks.Proofs.FreshCaller
import RobotBlocks.Proofs.CalleeName
import RobotBlocks.Proofs.PassFindings
import RobotBlocks.Proofs.WarningHistory
import RobotBlocks.Proofs.SavedNode
import RobotBlocks.Proofs.Reopening
import RobotBlocks.Proofs.LoadInPlace
import RobotBlocks.Proofs.PassFrame
import RobotBlocks.Proofs.SignatureNotice
import RobotBlocks.Proofs.IndependentPasses
import RobotBlocks.Proofs.EditCoalescing
import RobotBlocks.Proofs.ModuleContents
import RobotBlocks.Proofs.FailedNodes
import RobotBlocks.Proofs.ComponentAgreement
import RobotBlocks.Proofs.Registration
import RobotBlocks.Proofs.Brackets
import RobotBlocks.Proofs.NameCharacters
import RobotBlocks.Proofs.CodeLayout
import RobotBlocks.Proofs.RecordReading
import RobotBlocks.Proofs.SavedSpelling
import RobotBlocks.Proofs.NameForm
import RobotBlocks.Proofs.NameSpelling
import RobotBlocks.Proofs.SocketReading
import RobotBlocks.Proofs.EventBlock
import RobotBlocks.Proofs.ComponentReceiver
import RobotBlocks.Proofs.PlacedNode
import RobotBlocks.Proofs.TableHistory
import RobotBlocks.Proofs.TableParts
import RobotBlocks.Proofs.DerivedProfile
import RobotBlocks.Proofs.OfferedControls
import RobotBlocks.Proofs.KeyedHistory
import RobotBlocks.Proofs.WorkspaceHistory
import RobotBlocks.Proofs.PortEntries
import RobotBlocks.Proofs.PortCleaning
import RobotBlocks.Proofs.PortSpelling
import RobotBlocks.Proofs.TextReading
import RobotBlocks.Proofs.SettingsRoundTrip
