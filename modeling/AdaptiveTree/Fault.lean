import AdaptiveTree.Key
import AdaptiveTree.Pattern.Basic

/-!
# Faults

What can go wrong while a program runs or one of its parts is prepared. Each constructor is a cause;
the category that a cause belongs to and its wording are functions of it.
-/

set_option autoImplicit false

namespace AdaptiveTree

/-- Why an object refuses a store. -/
inductive Rejection where
  | frozen
  | notExtensible
deriving DecidableEq, Repr

/-- A cause of failure. Types of values are given by their names, values by their texts. -/
inductive Fault where
  | notConvertible (type : String)
  | unreadable (type : String) (key : Key)
  | unwritable (type : String) (key : Key)
  | rejected (why : Rejection) (own : Bool) (key : Key)
  | primitiveTarget (key : Key) (type text : String)
  | notPattern (text : String)
  | nullArgument
  | localeNotString (type : String)
  | invalidLength
  | invalidTag (tag : String)
  | optionOutOfRange (value name : String)
  | narrowNeedsUnit
  | refusedPattern (why : Pattern.Refusal)
  | noListPatterns (locale : String)
  | argumentCount (count : Nat)
  | argumentNotString (argument type : String)
deriving DecidableEq, Repr

namespace Fault

/-- The categories of faults. -/
inductive Category where
  | coercion | type | range | patternSyntax | resource | arity | argument
deriving DecidableEq, Repr

/-- The category of a fault. -/
def category : Fault → Category
  | .notConvertible _ | .unreadable .. | .unwritable .. => .coercion
  | .rejected .. | .primitiveTarget .. | .notPattern _ | .nullArgument | .localeNotString _ => .type
  | .invalidLength | .invalidTag _ | .optionOutOfRange .. | .narrowNeedsUnit => .range
  | .refusedPattern .. => .patternSyntax
  | .noListPatterns _ => .resource
  | .argumentCount _ => .arity
  | .argumentNotString .. => .argument

/-- The class of errors that a category is reported as. -/
def Category.className : Category → String
  | .coercion | .type | .arity | .argument => "TypeError"
  | .range => "RangeError"
  | .patternSyntax => "SyntaxError"
  | .resource => "Error"

/-- The wording of a rejected store. -/
def rejectionText (why : Rejection) (own : Bool) (key : Key) : String :=
  match why, own with
  | .frozen, true => "Cannot redefine property: " ++ key.text
  | .frozen, false => "Cannot assign to read only property '" ++ key.text ++ "' of object"
  | .notExtensible, true => "Cannot define property " ++ key.text ++ ", object is not extensible"
  | .notExtensible, false => "Cannot add property " ++ key.text ++ ", object is not extensible"

section

-- how the library words what is wrong with an expression
variable (library : String → Regex.Mode → String)

/-- The wording of what is wrong with a pattern. -/
def complaintText : Pattern.Complaint → String
  | .flags fault => fault.message
  | .expression given mode => library given mode

/-- The wording of a fault, without its class. -/
def detail : Fault → String
  | .notConvertible type => "Cannot convert " ++ type ++ " to object"
  | .unreadable type key =>
    "Cannot read properties of " ++ type ++ " (reading '" ++ key.text ++ "')"
  | .unwritable type key =>
    "Cannot set properties of " ++ type ++ " (setting '" ++ key.text ++ "')"
  | .rejected why own key => rejectionText why own key
  | .primitiveTarget key type text =>
    "Cannot create property '" ++ key.text ++ "' on " ++ type ++ " '" ++ text ++ "'"
  | .notPattern text => text ++ " is not a compiled pattern"
  | .nullArgument => "Cannot convert undefined or null to object"
  | .localeNotString type => "Language ID should be string or object, got " ++ type
  | .invalidLength => "Invalid array length"
  | .invalidTag tag => "Incorrect locale information provided: " ++ tag
  | .optionOutOfRange value name =>
    "Value " ++ value ++ " out of range for Intl.ListFormat options property " ++ name
  | .narrowNeedsUnit =>
    "When style is 'narrow', 'unit' is the only allowed value for the type option."
  | .refusedPattern why =>
    "Invalid regular expression: /" ++ why.source ++ "/: " ++ complaintText library why.complaint
  | .noListPatterns locale => "No list format data for locale '" ++ locale ++ "'"
  | .argumentCount count => "expected at most 2 arguments, got " ++ Number.intText count
  | .argumentNotString argument type =>
    "unsupported argument: " ++ argument ++ " must be a string, got " ++ type

/-- The full text of a fault: its class and its wording. -/
def message (f : Fault) : String :=
  f.category.className ++ ": " ++ f.detail library

end

end Fault

end AdaptiveTree
