import TspSolver.Machine.Int64
import TspSolver.Machine.UInt64
import TspSolver.Machine.Mask
import TspSolver.Loop.Fold
import TspSolver.Loop.Scan
import TspSolver.Core
import TspSolver.Walk.Cost
import TspSolver.LocalSearch
import TspSolver.SplitMix
import TspSolver.HeldKarp
import TspSolver.HeldKarp.Tables
import TspSolver.CApi
import TspSolver.Store.Entries
import TspSolver.Store.Allocation
import TspSolver.LocalSearch.NearestNeighbor
import TspSolver.Store.LastWrites
import TspSolver.LocalSearch.Visited
import TspSolver.LocalSearch.CheapestInsertion
import TspSolver.LocalSearch.TwoOpt
import TspSolver.HeldKarp.Trails
import TspSolver.HeldKarp.Closing
import TspSolver.HeldKarp.Exhaustive
import TspSolver.HeldKarp.Optimality
import TspSolver.Solve.Dispatch
import TspSolver.Solve.Overflow
import TspSolver.Solve.Coherence
import TspSolver.Solve.Permutation
import TspSolver.Solve.ImprovementChain
import TspSolver.LocalSearch.LocalOptimum
import TspSolver.Solve.Average
import TspSolver.Solve.HeldKarp
import TspSolver.SplitMix.Period
import TspSolver.LocalSearch.Perturbation
import TspSolver.HeldKarp.Backtracking
import TspSolver.LocalSearch.GreedyOrder
import TspSolver.Solve.GreedyInsertion
import TspSolver.Solve.ImprovingMoves
import TspSolver.Solve.TwoOptOptimum
import TspSolver.Walk.Cuts
import TspSolver.Walk.Metric
import TspSolver.Solve.DoubleOptimum
import TspSolver.Solve.LogarithmicBound
import TspSolver.Solve.Recosting
import TspSolver.Solve.LockStep
import TspSolver.Store.Writes
import TspSolver.Handles.Heap
import TspSolver.Handles.Ownership
import TspSolver.Walk.Exchange
import TspSolver.Solve.Exact
import TspSolver.Solve.Sums
import TspSolver.CApi.Memory
import TspSolver.Effect.Program
import TspSolver.Bindings.Python
import TspSolver.Session.Objects
import TspSolver.CApi.Results
import TspSolver.Bindings.PythonRefinement
import TspSolver.Session.Invariants
import TspSolver.Effect.Machine
import TspSolver.Bindings.Session
import TspSolver.Bindings.Language
import TspSolver.Session.Results
import TspSolver.Bindings.PythonResults
import TspSolver.Bindings.Java
import TspSolver.Bindings.JavaRefinement
import TspSolver.Bindings.Agreement
import TspSolver.Store.Failures
import TspSolver.Loop.Checked
import TspSolver.Checked
import TspSolver.Checked.LocalSearch
import TspSolver.Checked.HeldKarp
import TspSolver.Checked.Solve
import TspSolver.Walk.Symmetry
import TspSolver.Solve.Optimum
import TspSolver.Solve.Symmetry
import TspSolver.SplitMix.Fairness
import TspSolver.Effect.Ensures
import TspSolver.Text.InputStream
import TspSolver.Compare
import TspSolver.Compare.Parsing
import TspSolver.Compare.Building
import TspSolver.Compare.Outcome
import TspSolver.Solve.Failures
