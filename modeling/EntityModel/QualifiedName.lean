/-!
# EntityModel.QualifiedName

Qualified names `Namespace.Type`. A namespace name may itself hold dots, so the type name is what
follows the last one; neither half may be empty.

* `splitAtLastDot`: the text before and after the last dot.
* `QualifiedName.parse?`: the reading of a text, and `QualifiedName.text`: the writing.
-/

namespace EntityModel

/-- The characters before and after the last dot, if there is a dot. -/
def splitAtLastDot : List Char → Option (List Char × List Char)
  | [] => none
  | c :: rest =>
    match splitAtLastDot rest with
    | some (before, after) => some (c :: before, after)
    | none => if c = '.' then some ([], rest) else none

/-- A name inside a namespace. -/
structure QualifiedName where
  ns : String
  name : String
deriving DecidableEq

namespace QualifiedName

def parse? (text : String) : Option QualifiedName :=
  match splitAtLastDot text.toList with
  | none => none
  | some (before, after) =>
    if before.isEmpty || after.isEmpty then none
    else some ⟨String.ofList before, String.ofList after⟩

def text (q : QualifiedName) : String :=
  q.ns ++ "." ++ q.name

end QualifiedName

end EntityModel
