import Reconciler.Resource.Metadata

/-!
# Secrets

A secret holds bytes under keys.  It has no status.
-/

namespace Reconciler

/-- What a secret holds beside its metadata. -/
structure SecretContent where
  data : Option (StringMap (List UInt8))
  stringData : Option (StringMap String)
  type : Option String
  immutable : Option Bool
deriving DecidableEq, Inhabited

abbrev Secret := Object SecretContent Unit

namespace Secret

/-- The key of the bootstrap data. -/
def bootstrapKey : String := "value"

/-- The text under a key, if the key is there and its bytes are UTF-8. -/
def text? (key : String) (secret : Secret) : Option String := do
  let bytes ← (← secret.spec.data).get? key
  String.fromUTF8? ⟨bytes.toArray⟩

end Secret

end Reconciler
