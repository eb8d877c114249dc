import Foldmark.Pattern.Escape
import Foldmark.Rule.Basic

/-! Why a rule cannot be used. -/
namespace Foldmark

inductive RuleError
  /-- The markers make up no shape. -/
  | missingPattern
  /-- The marker would be found everywhere. -/
  | emptyMatch (role : Role)
  | invalidPattern (role : Role) (reason : Pattern.PatternError)
  /-- The closing marker refers to a group that the opening marker does not have. -/
  | unresolvedReference (group available : Nat)
  /-- The rule's patterns cannot stand beside those of the rules before it. -/
  | masterConflict (reason : Pattern.PatternError)
deriving DecidableEq, Repr

namespace RuleError

/-- What stands in a message for the reason why a pattern is refused, which has no fixed wording. -/
def patternReason : String := "<regex>"

def message : RuleError → String
  | .missingPattern => "no begin/end, begin/continuation or separator pattern"
  | .emptyMatch role => s!"{role.tag} pattern matches the empty string"
  | .invalidPattern role _ => s!"invalid {role.tag} pattern: {patternReason}"
  | .unresolvedReference group available =>
    s!"end pattern refers to group {group} but the begin pattern has {available} groups"
  | .masterConflict _ =>
    s!"rule does not combine with the rules declared before it: {patternReason}"

end RuleError

end Foldmark
