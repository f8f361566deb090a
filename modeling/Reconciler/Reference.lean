/-!
# References to cloud resources
-/

namespace Reconciler

/-- Points at a cloud resource by its id or by its name. -/
structure ResourceReference where
  id : Option String := none
  name : Option String := none
deriving DecidableEq, Inhabited

namespace ResourceReference

def byId (id : String) : ResourceReference := ⟨some id, none⟩

def byName (name : String) : ResourceReference := ⟨none, some name⟩

/-- What the reference is called in messages: its id, or else its name. -/
def describe (reference : ResourceReference) : String :=
  (reference.id <|> reference.name).getD ""

end ResourceReference

end Reconciler
