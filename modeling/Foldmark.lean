import Foldmark.Cache
import Foldmark.Main
import Foldmark.Proofs.Fold.Reach
import Foldmark.Proofs.Fold.Stack
import Foldmark.Proofs.Fold.Ranges
import Foldmark.Proofs.Fold.Order
import Foldmark.Proofs.Pattern.Reader
import Foldmark.Proofs.Pattern.ClassReader
import Foldmark.Proofs.Pattern.Enclosed
import Foldmark.Proofs.Pattern.Alternation
import Foldmark.Proofs.Rule.GroupName
import Foldmark.Proofs.Rule.Master
import Foldmark.Proofs.Fold.State
import Foldmark.Proofs.Pattern.Extent
import Foldmark.Proofs.Text.Line
import Foldmark.Proofs.Fold.Progress
import Foldmark.Proofs.Fold.Offsets
import Foldmark.Proofs.Rule.OpeningGroup
import Foldmark.Proofs.Rule.Declaring
import Foldmark.Proofs.Fold.Mirrored
import Foldmark.Proofs.Fold.Chain
import Foldmark.Proofs.Fold.Sections
import Foldmark.Proofs.Pattern.Literal
import Foldmark.Proofs.Rule.Literal
import Foldmark.Proofs.Fold.Brackets
import Foldmark.Proofs.Fold.Flat
import Foldmark.Proofs.Fold.Transport
import Foldmark.Proofs.Fold.Joined
import Foldmark.Proofs.Fold.Reordered
import Foldmark.Proofs.Fold.Continued
import Foldmark.Proofs.Fold.Origin
import Foldmark.Proofs.Rule.Coherent
import Foldmark.Proofs.KeyMap
import Foldmark.Proofs.Config.Record
import Foldmark.Proofs.Store
import Foldmark.Proofs.Action
import Foldmark.Proofs.Config.Session
import Foldmark.Proofs.Rule.Sole
import Foldmark.Proofs.Rule.Combining
import Foldmark.Proofs.Fold.Divided
import Foldmark.Proofs.Config.Validation
import Foldmark.Proofs.Format.Ascii
import Foldmark.Proofs.Config.Adding
import Foldmark.Proofs.Config.Imported
import Foldmark.Proofs.Fold.Delimited
import Foldmark.Proofs.Fold.Looks
import Foldmark.Proofs.Config.Exported
import Foldmark.Proofs.Cache
import Foldmark.Proofs.Config.RuleList
import Foldmark.Proofs.Rule.Expected
import Foldmark.Proofs.Fold.Suffixed
import Foldmark.Proofs.Location
import Foldmark.Proofs.Config.Initialized
import Foldmark.Proofs.Config.Nearest
import Foldmark.Proofs.Command
import Foldmark.Proofs.Rule.Division
import Foldmark.Proofs.Text.Splitting
import Foldmark.Proofs.Rule.Ignored
import Foldmark.Proofs.Config.Warned
