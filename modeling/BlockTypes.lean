import BlockTypes.RunSort
import BlockTypes.Text.Cased
import BlockTypes.Text.Characters
import BlockTypes.Text.Lower
import BlockTypes.Text.Quoted
import BlockTypes.Text.Upper
import BlockTypes.Text.Wide
import BlockTypes.SortedSet
import BlockTypes.TypeClass
import BlockTypes.TypeExpr.Basic
import BlockTypes.TypeExpr.Layout
import BlockTypes.Store.Forest
import BlockTypes.Store.Basic
import BlockTypes.Store.Resolve
import BlockTypes.Store.Layout
import BlockTypes.Unify
import BlockTypes.Signature.Error
import BlockTypes.Signature.Token
import BlockTypes.Signature.Reading
import BlockTypes.Signature.Basic
import BlockTypes.Expr
import BlockTypes.TypeError
import BlockTypes.Log.Entry
import BlockTypes.Log.Level
import BlockTypes.Check
import BlockTypes.Decimal.Binary
import BlockTypes.Decimal.Number
import BlockTypes.Decimal.Shortest
import BlockTypes.Config.Moment
import BlockTypes.Config.Data
import BlockTypes.Config.Path
import BlockTypes.Config.Files
import BlockTypes.Config.Yaml.Fault
import BlockTypes.Config.Yaml.Timestamp
import BlockTypes.Config.Yaml.Tag
import BlockTypes.Config.Yaml.Value
import BlockTypes.Config.Yaml.Cursor
import BlockTypes.Config.Yaml.Property
import BlockTypes.Config.Yaml.Scalar
import BlockTypes.Config.Yaml.Token
import BlockTypes.Config.Yaml.Node
import BlockTypes.Config.Yaml.Document
import BlockTypes.Config.Settings
import BlockTypes.Catalog.Basic
import BlockTypes.Catalog.Standard
import BlockTypes.Catalog.Load
import BlockTypes.Proofs.TypeExpr
import BlockTypes.Proofs.Store.Graph
import BlockTypes.Proofs.Store.Write
import BlockTypes.Proofs.Store.Solution
import BlockTypes.Proofs.Unify.Step
import BlockTypes.Proofs.Unify.Depth
import BlockTypes.Proofs.Unify.MostGeneral
import BlockTypes.Proofs.Store.Copy
import BlockTypes.Proofs.Check.FindType
import BlockTypes.Proofs.Check.Kept
import BlockTypes.Proofs.Session.Basic
import BlockTypes.Proofs.Session.Invariants
import BlockTypes.Proofs.Check.Typing
import BlockTypes.Proofs.Check.Principal
import BlockTypes.Proofs.Unify.Again
import BlockTypes.Proofs.Session.Permanence
import BlockTypes.Proofs.Store.Mirror
import BlockTypes.Proofs.Unify.Mirror
import BlockTypes.Proofs.Unify.Retry
import BlockTypes.Proofs.Check.Stuck
import BlockTypes.Proofs.Session.Retry
import BlockTypes.Proofs.Check.Twin
import BlockTypes.Proofs.Check.Bench
import BlockTypes.Proofs.Check.Independence
import BlockTypes.Proofs.Signature.Grammar
import BlockTypes.Proofs.Signature.Reading
import BlockTypes.Proofs.Store.Calls
import BlockTypes.Proofs.Store.Partition
import BlockTypes.Proofs.Unify.Order
import BlockTypes.Proofs.Signature.Denotation
import BlockTypes.Proofs.Signature.Lexing
import BlockTypes.Proofs.Signature.Writing
import BlockTypes.Proofs.Signature.RoundTrip
import BlockTypes.Proofs.Unify.Symmetry
import BlockTypes.Proofs.Unify.Frame
import BlockTypes.Proofs.Store.Renaming
import BlockTypes.Proofs.Session.Blame
import BlockTypes.Proofs.Signature.Cutting
import BlockTypes.Proofs.Signature.Position
import BlockTypes.Proofs.Signature.Scope
import BlockTypes.Proofs.Store.Descent
import BlockTypes.Proofs.Catalog.Document
import BlockTypes.Proofs.Catalog.History
import BlockTypes.Proofs.Session.Naming
