import EntityModel.Config
import EntityModel.Model.Defect

/-!
# EntityModel.Error

All failures of the library in one type. Each keeps its own message.
-/

namespace EntityModel

def libraryVersion : String := "0.4.0"

inductive Error where
  | config (error : ConfigError)
  | schema (defect : Defect)
  | visit (reference : BrokenReference)

def Error.message : Error → String
  | config error => error.message
  | schema defect => defect.message
  | visit reference => reference.message

end EntityModel
