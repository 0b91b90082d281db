import Recast.Catalog.SharedState
import Recast.Catalog.SeparateState
import Recast.Catalog.Leftovers
import Recast.Catalog.ColumnTypes

/-!
The catalog: one transformation of each kind.
-/

namespace Recast

def Kind.transformation : Kind → Transformation
  | .fixHandlers => Catalog.fixHandlersTransformation
  | .revertHandlers => Catalog.revertHandlersTransformation
  | .finalFix => Catalog.finalFixTransformation
  | .sqlxTypeFix => Catalog.sqlxTypeTransformation

theorem Kind.transformation_kind (kind : Kind) : kind.transformation.kind = kind := by
  cases kind <;> rfl

end Recast
