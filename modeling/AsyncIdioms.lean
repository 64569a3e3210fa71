import AsyncIdioms.Catalog.Builtin
import AsyncIdioms.Project
import AsyncIdioms.Syntax.Declaration
import AsyncIdioms.Syntax.Display
import AsyncIdioms.Syntax.Invocation
import AsyncIdioms.Syntax.Replace
import AsyncIdioms.Proofs.Catalog.MergedRules
import AsyncIdioms.Proofs.Catalog.RoundTrip
import AsyncIdioms.Proofs.Catalog.Strict
import AsyncIdioms.Proofs.Classifier.Agreement
import AsyncIdioms.Proofs.Classifier.BuiltinTable
import AsyncIdioms.Proofs.Classifier.Cycles
import AsyncIdioms.Proofs.Classifier.Faults
import AsyncIdioms.Proofs.Classifier.IgnoreCase
import AsyncIdioms.Proofs.Classifier.Merge
import AsyncIdioms.Proofs.Classifier.Positive
import AsyncIdioms.Proofs.Classifier.Stability
import AsyncIdioms.Proofs.Classifier.TaskRun
import AsyncIdioms.Proofs.Method.Rendering
import AsyncIdioms.Proofs.Method.Segments
import AsyncIdioms.Proofs.Method.Tiling
import AsyncIdioms.Proofs.Method.TypeNames
import AsyncIdioms.Proofs.Platform
import AsyncIdioms.Proofs.Platform.Spelling
import AsyncIdioms.Proofs.Regex.Pattern
import AsyncIdioms.Proofs.Syntax.Copy
import AsyncIdioms.Proofs.Syntax.EventBased
import AsyncIdioms.Proofs.Syntax.OneByOne
import AsyncIdioms.Proofs.Syntax.Outcome
import AsyncIdioms.Proofs.Syntax.Splicing
import AsyncIdioms.Proofs.Syntax.Telling
import AsyncIdioms.Proofs.Syntax.WellFormed
import AsyncIdioms.Proofs.Text.Spelling
