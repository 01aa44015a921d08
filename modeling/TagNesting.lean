import TagNesting.Files.Tree
import TagNesting.Main
import TagNesting.Proofs.Nesting.Depth
import TagNesting.Proofs.Nesting.Faults
import TagNesting.Proofs.Nesting.Fragment
import TagNesting.Proofs.Nesting.Growth
import TagNesting.Proofs.Nesting.Layout
import TagNesting.Proofs.Nesting.Operations
import TagNesting.Proofs.Nesting.Policies
import TagNesting.Proofs.Nesting.Projection
import TagNesting.Proofs.Report.Recovery
import TagNesting.Tag.Cursors
import TagNesting.Proofs.Tag.Splitting
import TagNesting.Proofs.Nesting.Positions
import TagNesting.Proofs.Nesting.Names
import TagNesting.Proofs.Report.Decoding
import TagNesting.Proofs.CommandLine.LogLevel
import TagNesting.Proofs.Program.Outcome
import TagNesting.Proofs.Nesting.Insertion
import TagNesting.Proofs.Tag.Interleaving
import TagNesting.Proofs.Nesting.Transcript
import TagNesting.Proofs.Settings.Source
