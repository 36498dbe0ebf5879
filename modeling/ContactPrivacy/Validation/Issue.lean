/-
What is wrong with a value that was to be read, and where.
-/
import ContactPrivacy.Json.Value

namespace ContactPrivacy

/-- One step into a value: a member of an object or an item of a list. -/
inductive Step where
  | key (name : String)
  | index (position : Nat)
deriving DecidableEq, Repr

def Step.toJson : Step → Json
  | .key name => .string name
  | .index position => Json.int position

/-- Why a value is not accepted. -/
inductive Fault where
  | notBool
  | unclearBool
  | notText
  | notInt
  | unclearInt
  | fractional
  | longInt
  | infinite
  | notSet
  | notList
  | notDictionary
  | notModel (model : String)
  | notRequestModel
  | notChoice (choices : List String)
  | missing
  | notJson
  | above (limit : Int)
deriving DecidableEq, Repr

namespace Fault

/-- The short name of a fault. -/
def code : Fault → String
  | .notBool => "bool_type"
  | .unclearBool => "bool_parsing"
  | .notText => "string_type"
  | .notInt => "int_type"
  | .unclearInt => "int_parsing"
  | .fractional => "int_from_float"
  | .longInt => "int_parsing_size"
  | .infinite => "finite_number"
  | .notSet => "frozen_set_type"
  | .notList => "list_type"
  | .notDictionary => "dict_type"
  | .notModel _ => "model_type"
  | .notRequestModel => "model_attributes_type"
  | .notChoice _ => "enum"
  | .missing => "missing"
  | .notJson => "json_invalid"
  | .above _ => "less_than_equal"

/-- Choices in quotes, the last two with an "or" between them. -/
def listChoices : List String → String
  | [] => ""
  | [last] => "'" ++ last ++ "'"
  | [first, last] => "'" ++ first ++ "' or '" ++ last ++ "'"
  | first :: next :: rest => "'" ++ first ++ "', " ++ listChoices (next :: rest)

/-- The sentence that tells a fault. -/
def message : Fault → String
  | .notBool => "Input should be a valid boolean"
  | .unclearBool => "Input should be a valid boolean, unable to interpret input"
  | .notText => "Input should be a valid string"
  | .notInt => "Input should be a valid integer"
  | .unclearInt => "Input should be a valid integer, unable to parse string as an integer"
  | .fractional => "Input should be a valid integer, got a number with a fractional part"
  | .longInt => "Unable to parse input string as an integer, exceeded maximum size"
  | .infinite => "Input should be a finite number"
  | .notSet => "Input should be a valid frozenset"
  | .notList => "Input should be a valid list"
  | .notDictionary => "Input should be a valid dictionary"
  | .notModel model => "Input should be a valid dictionary or instance of " ++ model
  | .notRequestModel => "Input should be a valid dictionary or object to extract fields from"
  | .notChoice choices => "Input should be " ++ listChoices choices
  | .missing => "Field required"
  | .notJson => "JSON decode error"
  | .above limit => "Input should be less than or equal to " ++ toString limit

end Fault

/-- A fault and the way to the value that has it. -/
structure Issue where
  place : List Step
  fault : Fault
deriving DecidableEq, Repr

namespace Issue

/-- The same issue seen from one step further out. -/
def under (step : Step) (issue : Issue) : Issue := ⟨step :: issue.place, issue.fault⟩

def toJson (issue : Issue) : Json :=
  .object [("type", .string issue.fault.code), ("loc", .list (issue.place.map Step.toJson)),
    ("msg", .string issue.fault.message)]

/-- The headline over the issues of a model. -/
def headline (model : String) (issues : List Issue) : String :=
  toString issues.length ++ " validation error" ++ (if issues.length = 1 then "" else "s") ++
    " for " ++ model

end Issue

end ContactPrivacy
