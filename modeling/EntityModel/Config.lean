import EntityModel.Binary64.Decimal
import EntityModel.Text.Quoted
import EntityModel.Toml.Value

/-!
# EntityModel.Config

What a traversal is asked to do beyond its default: whether it takes functions. The configuration is
a TOML document with at most one table, `functions`, and in it at most one key, `enabled`.

* `TraversalConfig.ofTable`: the configuration in a table. The keys of a table are looked at in
  ascending order, so the first of them that is unknown or has a wrong value is reported.
* `TraversalConfig.ofToml`: the configuration in a text, by any parser of documents.
-/

namespace EntityModel

/-- Function groups and function imports are not visited unless they are enabled. -/
structure TraversalConfig where
  functionsEnabled : Bool := false
deriving DecidableEq

namespace TraversalConfig

def withFunctions (config : TraversalConfig) (enabled : Bool) : TraversalConfig :=
  { config with functionsEnabled := enabled }

end TraversalConfig

/-! ## Errors -/

/-- The keys that a configuration knows, one for each of its tables. -/
inductive ConfigKey where
  | functions
  | enabled
deriving DecidableEq

namespace ConfigKey

def name : ConfigKey → String
  | functions => "functions"
  | enabled => "enabled"

/-- What the value of a key should be. -/
def expectation : ConfigKey → String
  | functions => "struct FunctionsConfig"
  | enabled => "a boolean"

end ConfigKey

/-- A text that the parser refuses; a key other than the one its table knows; a value that its key
cannot have. -/
inductive ConfigError where
  | malformed (cause : Toml.SyntaxError)
  | unknownKey (key : String) (known : ConfigKey)
  | wrongValue (key : ConfigKey) (value : Toml.Value)

namespace ConfigError

def ticked (text : String) : String :=
  "\x60" ++ text ++ "\x60"

/-- A value as messages name it. -/
def describe : Toml.Value → String
  | .boolean value => "boolean " ++ ticked (if value then "true" else "false")
  | .integer value => "integer " ++ ticked (toString value)
  | .float value => "floating point " ++ ticked value.text
  | .string value => "string " ++ Text.quoted value
  | .dateTime => "map"
  | .unreadable => "number"
  | .array _ => "sequence"
  | .table _ => "map"

def reason : ConfigError → String
  | malformed cause => cause.message
  | unknownKey key known => "unknown field " ++ ticked key ++ ", expected " ++ ticked known.name
  | wrongValue key value => "invalid type: " ++ describe value ++ ", expected " ++ key.expectation

def message (e : ConfigError) : String :=
  "invalid traversal config: " ++ e.reason

end ConfigError

/-! ## Reading -/

namespace TraversalConfig

def inKeyOrder (table : Toml.Table) : Toml.Table :=
  table.mergeSort fun a b => a.1 ≤ b.1

/-- The value of the only key that a table may have, read by `read`. -/
def readKnown {α : Type} (known : ConfigKey) (read : Toml.Value → Except ConfigError α) (absent : α)
    (table : Toml.Table) : Except ConfigError α :=
  (inKeyOrder table).foldlM
    (fun _ e => if e.1 = known.name then read e.2 else .error (.unknownKey e.1 known)) absent

def readEnabled : Toml.Value → Except ConfigError Bool
  | .boolean value => .ok value
  | value => .error (.wrongValue .enabled value)

/-- The settings for functions. An array stands for the values of the table in order, and what goes
beyond them is ignored. -/
def readFunctions : Toml.Value → Except ConfigError Bool
  | .table entries => readKnown .enabled readEnabled false entries
  | .array [] => .ok false
  | .array (value :: _) => readEnabled value
  | .dateTime => .error (.unknownKey Toml.dateTimeKey .enabled)
  | value => .error (.wrongValue .functions value)

def ofTable (table : Toml.Table) : Except ConfigError TraversalConfig :=
  match readKnown .functions readFunctions false table with
  | .ok enabled => .ok ⟨enabled⟩
  | .error e => .error e

/-- The configuration in a text. What the parser says of a text that it refuses is passed on. -/
def ofToml (parse : Toml.Parser) (text : String) : Except ConfigError TraversalConfig :=
  match parse text with
  | .ok table => ofTable table
  | .error cause => .error (.malformed cause)

end TraversalConfig

end EntityModel
