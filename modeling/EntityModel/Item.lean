import EntityModel.Kinds
import EntityModel.Annotations

/-!
# EntityModel.Item

The tiers that nodes share. Every node has a kind; a metadata node adds annotations, a named node a
name. `MetadataItem` and `NamedItem` are what a tier sees of a node, whatever its kind.

* `MetadataNode`, `NamedNode`: the node types of each tier.
* `annotate`: one more annotation on a node.
* `findNamed?`: the first node of a list with a given name.
-/

namespace EntityModel

/-- What the metadata tier sees of a node. -/
structure MetadataItem where
  kind : NodeKind
  annotations : Annotations AnnotationValue

def MetadataItem.hasAnnotations (item : MetadataItem) : Bool :=
  !item.annotations.isEmpty

/-- What the named tier sees of a node. -/
structure NamedItem extends MetadataItem where
  name : String

/-- A type of node that carries annotations. -/
class MetadataNode (α : Type) where
  kind : NodeKind
  annotations : α → Annotations AnnotationValue
  setAnnotations : Annotations AnnotationValue → α → α
  annotations_setAnnotations :
    ∀ store node, annotations (setAnnotations store node) = store := by intros; rfl

/-- A type of node that also carries a name. -/
class NamedNode (α : Type) extends MetadataNode α where
  name : α → String

section Nodes

variable {α : Type}

/-- A node with `value` written under `key` in its annotations. -/
def annotate [MetadataNode α] (key : String) (value : AnnotationValue) (node : α) : α :=
  MetadataNode.setAnnotations ((MetadataNode.annotations node).insert key value) node

def metadataItem [MetadataNode α] (node : α) : MetadataItem :=
  ⟨MetadataNode.kind α, MetadataNode.annotations node⟩

def namedItem [NamedNode α] (node : α) : NamedItem :=
  ⟨metadataItem node, NamedNode.name node⟩

/-- Of several nodes with the name, the first declared is found. -/
def findNamed? [NamedNode α] (name : String) (nodes : List α) : Option α :=
  nodes.find? fun node => NamedNode.name node == name

end Nodes

end EntityModel
