import EntityModel.Toml.Value

/-!
# EntityModel.Toml.Draft

A table while its document is being read. Headers and dotted keys add to tables that are already
there, within limits that depend on how a table came to be:

* a header may declare a table that so far was only implied by longer headers, once;
* a header in double brackets starts a new element of a list of tables;
* a dotted key may go through tables that headers or dotted keys implied, and takes these over: no
  header can declare them from then on;
* through the last element of a list of tables a dotted key may pass, but not end there;
* what was written as a value is closed.

`declare`, `append` and `assign` apply these rules and `finish` forgets them.
-/

namespace EntityModel
namespace Toml

/-- How a table came to be: declared by its own header, implied by a longer one, or made or taken
over by a dotted key. -/
inductive TableForm where
  | declared
  | implied
  | dotted
deriving DecidableEq

/-- What a key of a draft stands for: a closed value, a table that is open, or a list of tables of
which the last is open. -/
inductive Entry where
  | value (value : Value)
  | table (form : TableForm) (entries : List (String × Entry))
  | tables (earlier : List Value) (last : List (String × Entry))

abbrev Draft := List (String × Entry)

/-- The keys that lead to a table, and a key inside it. -/
structure KeyPath where
  parents : List String
  key : String
deriving DecidableEq

namespace KeyPath

/-- All keys, the last one as well. -/
def keys (path : KeyPath) : List String :=
  path.parents ++ [path.key]

end KeyPath

mutual

def Entry.finish : Entry → Value
  | .value value => value
  | .table _ entries => .table (Draft.finish entries)
  | .tables earlier last => .array (earlier ++ [.table (Draft.finish last)])

/-- The table as it stands. -/
def Draft.finish : Draft → Table
  | [] => []
  | (key, entry) :: rest => (key, entry.finish) :: Draft.finish rest

end

namespace Draft

def entry? (key : String) (draft : Draft) : Option Entry :=
  (draft.find? fun e => e.1 == key).map (·.2)

/-- Gives a key another entry, in its place or at the end. -/
def put (key : String) (entry : Entry) : Draft → Draft
  | [] => [(key, entry)]
  | e :: rest => if e.1 = key then (key, entry) :: rest else e :: put key entry rest

/-- Adds an entry under a key that is free. -/
def insertNew (key : String) (entry : Entry) (draft : Draft) : Option Draft :=
  match draft.entry? key with
  | none => some (draft.put key entry)
  | some _ => none

/-- Edits the open table under the first key of a header, which implies it if it is missing. -/
def editUnder (key : String) (edit : Draft → Option Draft) (draft : Draft) : Option Draft :=
  match draft.entry? key with
  | none => (edit []).map fun inner => draft.put key (.table .implied inner)
  | some (.table form inner) => (edit inner).map fun inner => draft.put key (.table form inner)
  | some (.tables earlier last) => (edit last).map fun last => draft.put key (.tables earlier last)
  | some (.value _) => none

/-- Edits the table that the keys of a header lead to. -/
def editAt (keys : List String) (edit : Draft → Option Draft) : Draft → Option Draft :=
  keys.foldr editUnder edit

/-- The header `[path]`. -/
def declare (path : KeyPath) : Draft → Option Draft :=
  editAt path.parents fun draft =>
    match draft.entry? path.key with
    | none => some (draft.put path.key (.table .declared []))
    | some (.table .implied inner) => some (draft.put path.key (.table .declared inner))
    | some _ => none

/-- The header `[[path]]`. -/
def append (path : KeyPath) : Draft → Option Draft :=
  editAt path.parents fun draft =>
    match draft.entry? path.key with
    | none => some (draft.put path.key (.tables [] []))
    | some (.tables earlier last) =>
      some (draft.put path.key (.tables (earlier ++ [.table (finish last)]) []))
    | some _ => none

/-- Assigns below the tables that the parents of a dotted key name. -/
def assignBelow (key : String) (value : Value) : List String → Draft → Option Draft
  | [], draft => draft.insertNew key (.value value)
  | parent :: rest, draft =>
    match draft.entry? parent with
    | none =>
      (assignBelow key value rest []).map fun inner => draft.put parent (.table .dotted inner)
    | some (.table .declared _) => none
    | some (.table _ inner) =>
      (assignBelow key value rest inner).map fun inner => draft.put parent (.table .dotted inner)
    | some (.tables earlier last) =>
      if rest.isEmpty then none
      else
        (assignBelow key value rest last).map fun last => draft.put parent (.tables earlier last)
    | some (.value _) => none

/-- The line `path = value`. -/
def assign (path : KeyPath) (value : Value) (draft : Draft) : Option Draft :=
  draft.assignBelow path.key value path.parents

/-- A table written in braces, which its closing brace completes. -/
def ofAssignments? (assignments : List (KeyPath × Value)) : Option Draft :=
  assignments.foldlM (fun draft a => draft.assign a.1 a.2) []

end Draft

end Toml
end EntityModel
