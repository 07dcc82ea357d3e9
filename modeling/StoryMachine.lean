import StoryMachine.Config.Loading
import StoryMachine.Execution
import StoryMachine.Proofs.InstructionDecoding
import StoryMachine.Proofs.ObjectMoves
import StoryMachine.Proofs.StaticMemory
import StoryMachine.Proofs.TextRoundTrip
import StoryMachine.Random.ChaCha
import StoryMachine.Proofs.Restoring
import StoryMachine.Proofs.Stepping
import StoryMachine.Proofs.ErrorRecovery
import StoryMachine.Proofs.DecodedInstructions
import StoryMachine.Proofs.Operands
import StoryMachine.Proofs.Activations
import StoryMachine.Proofs.CallIsolation
import StoryMachine.Proofs.Resuming
import StoryMachine.Proofs.StoryErrors
import StoryMachine.Proofs.OperationErrors
import StoryMachine.Proofs.StepOutcomes
import StoryMachine.Proofs.PendingReads
import StoryMachine.Proofs.Interrupts
import StoryMachine.Proofs.ReachableStates
import StoryMachine.Proofs.PropertyLists
import StoryMachine.Proofs.Restarting
import StoryMachine.Proofs.RecordedInput
import StoryMachine.Proofs.UndoHistory
import StoryMachine.Proofs.AgreeingOperations
import StoryMachine.Proofs.ErrorPolicies
import StoryMachine.Proofs.DictionaryLookup
import StoryMachine.Proofs.LineInput
import StoryMachine.Proofs.TimedReads
import StoryMachine.Proofs.LoopBounds
import StoryMachine.Proofs.Regions
import StoryMachine.Proofs.LookupRegions
import StoryMachine.Proofs.ParseBuffers
import StoryMachine.Proofs.FinishedLines
import StoryMachine.Proofs.FailedReturns
import StoryMachine.Proofs.Abbreviations
import StoryMachine.Proofs.DictionaryWords
import StoryMachine.Proofs.FailedMoves
import StoryMachine.Proofs.Branching
import StoryMachine.Proofs.CopiedTables
import StoryMachine.Proofs.Throwing
import StoryMachine.Proofs.CapturedOutput
import StoryMachine.Proofs.NumberChecks
import StoryMachine.Proofs.DecodingLocality
import StoryMachine.Proofs.AttributeBits
import StoryMachine.Proofs.RandomNumbers
import StoryMachine.Proofs.UserStacks
import StoryMachine.Proofs.WordSplitting
import StoryMachine.Proofs.VariableAccess
