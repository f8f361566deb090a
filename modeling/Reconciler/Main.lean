import Reconciler.Schema.Catalogue

/-!
# The definitions as a program

Prints the definition of every published kind, ready to be handed to the API server.
-/

def main : IO Unit := IO.print (Reconciler.Definition.stream Reconciler.Definition.all)
