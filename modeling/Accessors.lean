import Accessors.Files.Store
import Accessors.Main
import Accessors.Proofs.Blanks
import Accessors.Proofs.LineForms
import Accessors.Proofs.Outcomes
import Accessors.Proofs.Wrapping
import Accessors.Proofs.StackMachine
import Accessors.Proofs.Relocation
import Accessors.Proofs.Layout
import Accessors.Proofs.Segments
import Accessors.Proofs.SubscriptReader
import Accessors.Proofs.Trace
import Accessors.Proofs.Emitters
import Accessors.Proofs.Verdict
import Accessors.Proofs.Spelling
import Accessors.Proofs.Printing
import Accessors.Proofs.Origins
import Accessors.Proofs.Correspondence
import Accessors.Proofs.ScalarPaths
import Accessors.Proofs.Naming
import Accessors.Proofs.Outline
import Accessors.Proofs.Blocks
import Accessors.Proofs.Agreement
import Accessors.Proofs.Duplicates
import Accessors.Proofs.Lockstep
import Accessors.Proofs.Refusals
import Accessors.Proofs.Places
import Accessors.Proofs.Accesses
import Accessors.Proofs.Directories
import Accessors.Proofs.Paths
import Accessors.Proofs.Courses
import Accessors.Proofs.RunFrames
import Accessors.Proofs.Reruns
import Accessors.Proofs.ArrayForms
import Accessors.Proofs.Fragments
import Accessors.Proofs.Reports
import Accessors.Proofs.DumpedTrees
import Accessors.Proofs.Loading
import Accessors.Proofs.Substitution
import Accessors.Proofs.Cutting
import Accessors.Proofs.ComposedAddresses
import Accessors.Proofs.WalkRuns
import Accessors.Proofs.ClassNames
import Accessors.Proofs.PaddedNames
import Accessors.Proofs.ReadingReports
import Accessors.Proofs.SchemaLines
