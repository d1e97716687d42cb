import PduExamObserver.Models.Importable
import PduExamObserver.Training.OuterFolds

/-! # Held-out participants

What the fit of a fold has seen. -/

namespace PduExamObserver.Models
open Training
set_option autoImplicit false

variable {people seen participants : List String} {corpus other : Corpus} {fold : OuterFold} {folds : List OuterFold}

namespace Sample

end Sample

end PduExamObserver.Models
