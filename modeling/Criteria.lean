import Criteria.Eval.Behaviour
import Criteria.Proofs.Eval.Consumption
import Criteria.Proofs.Render.Logic
import Criteria.Render.Dump
import Criteria.Render.Source
import Criteria.Proofs.Eval.Combinators
import Criteria.Proofs.Render.Flattening
import Criteria.Proofs.Eval.Lockstep
import Criteria.Proofs.Eval.Padding
import Criteria.Proofs.Eval.Slices
import Criteria.Proofs.Eval.Effects
import Criteria.Proofs.Eval.Provenance
import Criteria.Proofs.Eval.Duality
import Criteria.Proofs.Store.Captures
import Criteria.Proofs.Eval.Frame
import Criteria.Proofs.Session.Basic
import Criteria.Proofs.Session.Bare
import Criteria.Proofs.Session.Caches
import Criteria.Proofs.Session.Mirror
import Criteria.Proofs.Session.Invisible
import Criteria.Proofs.Session.Trails
import Criteria.Proofs.Session.CacheState
import Criteria.Proofs.Render.Supply
import Criteria.Proofs.Eval.Ranges
import Criteria.Proofs.Faults
import Criteria.Proofs.Eval.Integers
import Criteria.Proofs.Render.Integers
import Criteria.Proofs.Store.Entries
import Criteria.Proofs.Store.Prototypes
import Criteria.Proofs.Eval.Exports
import Criteria.Proofs.Render.Failure
import Criteria.Proofs.Render.Capacity
import Criteria.Proofs.Render.Splice
import Criteria.Proofs.Predicate.Counts
import Criteria.Proofs.Render.Skipping
import Criteria.Proofs.Render.Paths
import Criteria.Proofs.Render.Shadowing
import Criteria.Proofs.Eval.Members
import Criteria.Proofs.Store.Elements
import Criteria.Proofs.Store.Equality
import Criteria.Proofs.Render.Indexing
import Criteria.Proofs.Render.Patterns
import Criteria.Proofs.Text.Reading
import Criteria.Proofs.Store.Literals
import Criteria.Proofs.Render.Escapes
import Criteria.Proofs.Render.DumpText
import Criteria.Proofs.Render.Dumps
import Criteria.Proofs.Number.Rounding
import Criteria.Proofs.Store.Transitivity
import Criteria.Proofs.Render.Starts
import Criteria.Proofs.Eval.Categories
import Criteria.Proofs.Store.Conversion
import Criteria.Proofs.Cursor.Runs
import Criteria.Proofs.Eval.ExclusiveOr
import Criteria.Proofs.Regex.Flags
import Criteria.Proofs.Render.Header
import Criteria.Proofs.Render.QuotedTrees
import Criteria.Proofs.Render.Letters
