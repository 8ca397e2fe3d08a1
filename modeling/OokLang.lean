import OokLang.Code.Lowering
import OokLang.Code.Printer
import OokLang.Code.Run
import OokLang.Command.Session
import OokLang.Interpreter
import OokLang.Main
import OokLang.Program.Printer
import OokLang.Program.Reader
import OokLang.Program.Run
import OokLang.Proofs.Calls
import OokLang.Proofs.Change
import OokLang.Proofs.Command.Notes
import OokLang.Proofs.Command.Result
import OokLang.Proofs.Endless.Basic
import OokLang.Proofs.Endless.Dialogue
import OokLang.Proofs.Endless.Runs
import OokLang.Proofs.Faults
import OokLang.Proofs.Loops.Counting
import OokLang.Proofs.Loops.Rounds
import OokLang.Proofs.Lowering.Correctness
import OokLang.Proofs.Lowering.Jumps
import OokLang.Proofs.Lowering.Layout
import OokLang.Proofs.Lowering.Merging
import OokLang.Proofs.Lowering.Repeats
import OokLang.Proofs.Lowering.RunLength
import OokLang.Proofs.Lowering.Surroundings
import OokLang.Proofs.Lowering.Unfolded
import OokLang.Proofs.Output.Bytes
import OokLang.Proofs.Output.Engines
import OokLang.Proofs.Output.Flushing
import OokLang.Proofs.Output.Recorder
import OokLang.Proofs.Reading.Calls
import OokLang.Proofs.Reading.FirstError
import OokLang.Proofs.Reading.Pieces
import OokLang.Proofs.Reading.RoundTrip
import OokLang.Proofs.Reading.Spelling
import OokLang.Proofs.Reading.StackMachine
import OokLang.Proofs.Relocation
import OokLang.Proofs.Simulation
import OokLang.Proofs.Source.Append
import OokLang.Proofs.Source.Calls
import OokLang.Proofs.Source.Grammar
import OokLang.Proofs.Source.Items
import OokLang.Proofs.Source.Leading
import OokLang.Proofs.Source.Scanning
import OokLang.Source.Reader
