import EntityModel.Kinds

/-!
# EntityModel.Trace

The lines that building and traversing a model report: a model was built, a traversal span was
opened, entered and left, a node was entered.
-/

namespace EntityModel

inductive TraceLine where
  | modelBuilt (namespaces containers : Nat)
  | spanOpened (model : String)
  | entered
  | exited
  | visited (kind : NodeKind) (name? : Option String)
deriving DecidableEq

end EntityModel
