/-! # Attributes of records

What a record can be asked for by name, besides its own name and the records that it
refers to.  A record of a sort starts with the attributes of that sort, and any attribute
can be assigned to any record. -/

namespace JavaFragments

/-- What a class can be asked to do. -/
inductive ClassAction
  | isRoot
  | ancestors
  | attachField
  | attachMethod
deriving DecidableEq, Repr

/-- The name of an action. -/
def ClassAction.key : ClassAction → String
  | isRoot => "is_root"
  | ancestors => "ancestors"
  | attachField => "add_field"
  | attachMethod => "add_method"

/-- The attributes of records. -/
inductive Attribute
  /-- The type of a variable or field. -/
  | type
  /-- Whether a variable is declared already, so that its type is not to be written again. -/
  | declared
  /-- Whether a variable certainly has a value. -/
  | available
  /-- The text of the initial value of a field, or null. -/
  | initialValue
  /-- The type of what a method returns. -/
  | returnType
  /-- The body of a method. -/
  | body
  /-- The name of the class that a method belongs to. -/
  | owner
  /-- Whether a method throws an exception. -/
  | throws
  /-- The number that the next method of a class gets. -/
  | methodCount
  /-- The number that the next field of a class gets. -/
  | fieldCount
  /-- A value in the place of an action. -/
  | action (a : ClassAction)
deriving DecidableEq, Repr

namespace Attribute

/-- The name of an attribute. -/
def key : Attribute → String
  | type => "type"
  | declared => "exists"
  | available => "available"
  | initialValue => "initial_value"
  | returnType => "return_type"
  | body => "body"
  | owner => "clazz"
  | throws => "throws"
  | methodCount => "method_count"
  | fieldCount => "field_count"
  | action a => a.key

/-- All attributes. -/
def all : List Attribute := [
  type, declared, available, initialValue, returnType, body, owner, throws, methodCount,
  fieldCount, action .isRoot, action .ancestors, action .attachField, action .attachMethod]

/-- The attribute of a name. -/
def ofKey? (key : String) : Option Attribute := all.find? fun a => a.key = key

/-- Every attribute is listed. -/
theorem mem_all (a : Attribute) : a ∈ all := by
  rcases a with _ | _ | _ | _ | _ | _ | _ | _ | _ | _ | (_ | _ | _ | _) <;> decide

end Attribute

/-- The name of what refers to the parent of a class. -/
def parentKey : String := "parent_class"

end JavaFragments
