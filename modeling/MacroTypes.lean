import MacroTypes.Catalog.Change
import MacroTypes.ClassName.Generated
import MacroTypes.Document.Query
import MacroTypes.Expectation
import MacroTypes.Script
import MacroTypes.Session
import MacroTypes.Tree.Lemmas
import MacroTypes.Proofs.Session.Invoking
import MacroTypes.Proofs.Session.Isolation
import MacroTypes.Proofs.Session.Refreshing
import MacroTypes.Proofs.Session.Releasing
import MacroTypes.Proofs.Session.Repeating
import MacroTypes.Proofs.Session.Orders
import MacroTypes.Proofs.Catalog.Resolution
import MacroTypes.Proofs.ClassName.Reading
import MacroTypes.Proofs.Tree.Forest
import MacroTypes.Proofs.Catalog.Effects
import MacroTypes.Proofs.Session.Generations
import MacroTypes.Proofs.Session.Shapes
import MacroTypes.Proofs.Session.Deriving
import MacroTypes.Proofs.Catalog.Removals
import MacroTypes.Proofs.Tree.Removal
import MacroTypes.Proofs.Session.Forgetting
import MacroTypes.Proofs.Tree.Ascent
import MacroTypes.Proofs.ClassName.Nesting
import MacroTypes.Proofs.Bindings.Histories
import MacroTypes.Proofs.ElementType.Building
import MacroTypes.Proofs.Script.Adding
