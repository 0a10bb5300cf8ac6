import EntityModel.Binary64

/-!
# EntityModel.Toml.Value

What a TOML document says once it is read: scalars, arrays and tables. The keys of a table stand in
the order of the document.

* `Value`, `Table`: what a document says.
* `Parser`: what makes a table of a text, or says why the text is no document. Nothing else is known
  of it here.
-/

namespace EntityModel
namespace Toml

/-- A value. Of a date or a time it is only known that it is one; an unreadable value is written
like a number and stands for none. -/
inductive Value where
  | boolean (value : Bool)
  | integer (value : Int)
  | float (value : Binary64)
  | string (value : String)
  | dateTime
  | unreadable
  | array (items : List Value)
  | table (entries : List (String × Value))

/-- The entries of a table. -/
abbrev Table := List (String × Value)

/-- The key under which a date or a time holds its text where a table is expected. -/
def dateTimeKey : String := "$__toml_private_datetime"

/-- Why a text is no document, in the words of the parser. -/
structure SyntaxError where
  message : String
deriving DecidableEq

/-- A parser of documents. -/
abbrev Parser := String → Except SyntaxError Table

end Toml
end EntityModel
