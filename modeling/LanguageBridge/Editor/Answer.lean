import LanguageBridge.Editor.Feature
import LanguageBridge.Editor.Result

/-!
# Answers for the editor

Whatever happens to a request, the editor gets an answer of the kind it asked for.  When there is
nothing to tell, that is the empty answer of the feature.
-/

namespace LanguageBridge.Editor

/-- The answer to a request for a feature. -/
inductive Answer where
  | completion (suggestions : Suggestions)
  | hover (result : Option Hover)
  | signatureHelp (result : SignatureHelp)
  deriving DecidableEq, Repr

/-- The answer that tells nothing. -/
def Feature.nothing : Feature → Answer
  | .completion => .completion .none
  | .hover => .hover none
  | .signatureHelp => .signatureHelp .none

namespace Answer

/-- The feature that an answer belongs to. -/
def feature : Answer → Feature
  | .completion _ => .completion
  | .hover _ => .hover
  | .signatureHelp _ => .signatureHelp

/-- The written form of an answer. -/
def toJson : Answer → Json
  | .completion suggestions => suggestions.toJson
  | .hover none => .null
  | .hover (some result) => result.toJson
  | .signatureHelp result => result.toJson

theorem feature_nothing (f : Feature) : f.nothing.feature = f := by cases f <;> rfl

end Answer
end LanguageBridge.Editor
