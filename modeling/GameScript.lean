import GameScript.Abort
import GameScript.Assembly.Cause
import GameScript.Assembly.Diagnostic
import GameScript.Assembly.Draft
import GameScript.Assembly.Operand
import GameScript.Assembly.Pools
import GameScript.Assembly.Source
import GameScript.Assembly.Token
import GameScript.Banks
import GameScript.Codec.Bytes
import GameScript.Codec.Format
import GameScript.CommandLine.Command
import GameScript.CommandLine.Directory
import GameScript.CommandLine.Options
import GameScript.CommandLine.Path
import GameScript.CommandLine.Place
import GameScript.CommandLine.Tool
import GameScript.Config
import GameScript.Double.Basic
import GameScript.Double.Fixed
import GameScript.Double.Reader
import GameScript.Double.Single
import GameScript.Fault
import GameScript.Heap.Arena
import GameScript.Heap.Basic
import GameScript.Heap.Block
import GameScript.Heap.Classes
import GameScript.Heap.Collect
import GameScript.Instruction.Operand
import GameScript.Instruction.Operation
import GameScript.Instruction.Selector
import GameScript.Instruction.Table
import GameScript.Instruction.Word
import GameScript.Library.Basic
import GameScript.Library.Load
import GameScript.Library.Routine
import GameScript.Log
import GameScript.Machine.Action
import GameScript.Machine.Arithmetic
import GameScript.Machine.Basic
import GameScript.Machine.Behaviour
import GameScript.Machine.Call
import GameScript.Machine.Cast
import GameScript.Machine.Cell
import GameScript.Machine.Flow
import GameScript.Machine.Frame
import GameScript.Machine.Memory
import GameScript.Machine.Perform
import GameScript.Machine.World
import GameScript.Main
import GameScript.Names
import GameScript.Pointer
import GameScript.Program.Basic
import GameScript.Program.Image
import GameScript.Program.LineTable
import GameScript.Proofs.AbortAtomicity
import GameScript.Proofs.AbortTrails
import GameScript.Proofs.ActionEffects
import GameScript.Proofs.ArenaHandles
import GameScript.Proofs.ArenaHistory
import GameScript.Proofs.ArgumentPlacement
import GameScript.Proofs.AssembledCode
import GameScript.Proofs.AssembledConstants
import GameScript.Proofs.AssembledRegisters
import GameScript.Proofs.BankFaults
import GameScript.Proofs.BarrierAccounts
import GameScript.Proofs.BlockAccounts
import GameScript.Proofs.BlockSlots
import GameScript.Proofs.ByteWrites
import GameScript.Proofs.CallBalance
import GameScript.Proofs.CallDelivery
import GameScript.Proofs.CallDepth
import GameScript.Proofs.CallInstructions
import GameScript.Proofs.CallProtocol
import GameScript.Proofs.CastSelectors
import GameScript.Proofs.ClassAncestry
import GameScript.Proofs.CodecRoundTrip
import GameScript.Proofs.CollectionRoots
import GameScript.Proofs.ControlFlow
import GameScript.Proofs.FailurePlaces
import GameScript.Proofs.FetchedInstructions
import GameScript.Proofs.FieldEntries
import GameScript.Proofs.HeapCollection
import GameScript.Proofs.HeapHistory
import GameScript.Proofs.HeapSurvival
import GameScript.Proofs.HostResults
import GameScript.Proofs.InstructionAborts
import GameScript.Proofs.InstructionRegisters
import GameScript.Proofs.IntegerArithmetic
import GameScript.Proofs.IntegerTokens
import GameScript.Proofs.InternedNames
import GameScript.Proofs.NameIndexes
import GameScript.Proofs.JumpTargets
import GameScript.Proofs.LeadingIntegers
import GameScript.Proofs.LeadingNumbers
import GameScript.Proofs.LibraryNumbers
import GameScript.Proofs.LineTables
import GameScript.Proofs.LineTokens
import GameScript.Proofs.MachineSteps
import GameScript.Proofs.MemoryAccess
import GameScript.Proofs.MemoryContents
import GameScript.Proofs.OperandForms
import GameScript.Proofs.OperandMeaning
import GameScript.Proofs.PassedCells
import GameScript.Proofs.PointerDistances
import GameScript.Proofs.PointerTexts
import GameScript.Proofs.ProgramImages
import GameScript.Proofs.RaisedAborts
import GameScript.Proofs.RegisterUse
import GameScript.Proofs.RunningRegisters
import GameScript.Proofs.StackChanges
import GameScript.Proofs.StackDiscipline
import GameScript.Proofs.StagedParameters
import GameScript.Proofs.StoreLoadLaws
import GameScript.Proofs.StringLiterals
import GameScript.Proofs.TokenSpelling
import GameScript.Proofs.VectorParameters
import GameScript.Proofs.VirtualTables
import GameScript.Proofs.WordFields
import GameScript.Services
import GameScript.Text.Ascii
import GameScript.Text.Blank
import GameScript.Text.Extending
import GameScript.Text.Integer
import GameScript.Text.Lines
import GameScript.Text.Quoted
import GameScript.Text.Ranges
import GameScript.Text.Unprintable
import GameScript.Text.Utf8
import GameScript.Value
