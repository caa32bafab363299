import FeatureFlags.Value
import FeatureFlags.Digest.Md5
import FeatureFlags.Encoding.Base64

/-!
# Operations on texts

`digest`, `concatenation` and `decoding`. Operands that are not texts yield undefined.
-/

namespace FeatureFlags.Operation

def digest : Value → Value
  | .text s => .text (Md5.hexDigest s)
  | _ => .undefined

def concatenation : Value → Value → Value
  | .text a, .text b => .text (a ++ b)
  | _, _ => .undefined

/-- The text that letters in base 64 stand for. -/
def decoding : Value → Value
  | .text s => .ofOption ((Base64.decodeText? s).map .text)
  | _ => .undefined

end FeatureFlags.Operation
