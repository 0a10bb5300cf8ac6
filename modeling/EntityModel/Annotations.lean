/-!
# EntityModel.Annotations

Annotations: values attached to a node under distinct keys, in the order in which the keys first
arrived.

* `Annotations`: the store, with `get?`, `contains`, `insert` and `exchange`. It holds values of any
  type and never looks into them.
* `AnnotationValue`: what the nodes of a model store, a value of any type that has a name.
-/

namespace EntityModel

/-! ## Stores -/

section Store

variable {Value : Type}

structure AnnotationEntry (Value : Type) where
  key : String
  value : Value
deriving DecidableEq

/-- Writes `value` under `key`: in place if the key is there, at the end otherwise. -/
def AnnotationEntry.put (key : String) (value : Value) :
    List (AnnotationEntry Value) → List (AnnotationEntry Value)
  | [] => [⟨key, value⟩]
  | entry :: rest =>
    if entry.key = key then ⟨key, value⟩ :: rest else entry :: AnnotationEntry.put key value rest

/-- `AnnotationEntry.put`, together with the value that it replaces. -/
def AnnotationEntry.swap (key : String) (value : Value) :
    List (AnnotationEntry Value) → Option Value × List (AnnotationEntry Value)
  | [] => (none, [⟨key, value⟩])
  | entry :: rest =>
    if entry.key = key then (some entry.value, ⟨key, value⟩ :: rest)
    else
      match AnnotationEntry.swap key value rest with
      | (previous?, rest') => (previous?, entry :: rest')

/-- An annotation store in order of first arrival. -/
structure Annotations (Value : Type) where
  entries : List (AnnotationEntry Value) := []
deriving DecidableEq

namespace Annotations

def get? (store : Annotations Value) (key : String) : Option Value :=
  (store.entries.find? fun entry => entry.key == key).map (·.value)

def contains (store : Annotations Value) (key : String) : Bool :=
  (store.get? key).isSome

def keys (store : Annotations Value) : List String :=
  store.entries.map (·.key)

def size (store : Annotations Value) : Nat :=
  store.entries.length

def isEmpty (store : Annotations Value) : Bool :=
  store.entries.isEmpty

/-- A key that is present keeps its place and takes the new value. -/
def insert (store : Annotations Value) (key : String) (value : Value) : Annotations Value :=
  ⟨AnnotationEntry.put key value store.entries⟩

/-- `insert`, together with the value that the key had before. -/
def exchange (store : Annotations Value) (key : String) (value : Value) :
    Option Value × Annotations Value :=
  match AnnotationEntry.swap key value store.entries with
  | (previous?, entries) => (previous?, ⟨entries⟩)

end Annotations

end Store

/-! ## Values -/

/-- A value of any type: the name of the type, and the value as it is written. Values of different
types differ, also where they are written alike. -/
structure AnnotationValue where
  typeName : String
  content : String
deriving DecidableEq

end EntityModel
