import JavaFragments.Options.Configuration
import JavaFragments.Record.View
import JavaFragments.Session.Calls
import JavaFragments.Session.Naming

/-! # Operations as data

A script is a list of operations on records and on a session.  Operations refer to records
by labels that the script chooses when a record comes into being, so that one script can
be run from different states. -/

namespace JavaFragments.Script

/-- A name that a script gives to a record. -/
abbrev Label := String

/-- The parts of records that can be named in an assignment. -/
inductive Part
  | name
  | ofAttribute (a : Attribute)
  | parent
  | fields
  | methods
  | params
  /-- An attribute that cannot be assigned to. -/
  | reserved (a : Reserved)
  /-- A part that nothing is asked for. -/
  | other
deriving DecidableEq, Repr

/-- The part of a name. -/
def Part.ofKey (key : String) : Part :=
  match Attribute.ofKey? key, Reserved.ofKey? key with
  | some a, _ => .ofAttribute a
  | none, some a => .reserved a
  | none, none =>
    if key = parentKey then .parent
    else match key with
      | "name" => .name
      | "fields" => .fields
      | "methods" => .methods
      | "params" => .params
      | _ => .other

/-- Operations on records alone. -/
inductive RecordOp
  | addClass (name : String) (parent? : Option Label) (methodCount fieldCount : Int)
      (label? : Option Label)
  | addMethod (name : String) (returnType : Value) (body : String) (params : List Label)
      (owner : String) (throws : Bool) (label? : Option Label)
  | addField (name : String) (type : Value) (initialValue : Option String) (label? : Option Label)
  | addVar (name : String) (type : Value) (declared available : Bool) (label? : Option Label)
  | view (label : Label)
  | assign (label : Label) (part : Part) (v : Value)
  | setParent (label : Label) (parent? : Option Label)
  | ancestors (label : Label)
  | isRoot (label : Label)
  | attachField (label field : Label)
  | attachMethod (label method : Label)
  | same (a b : Label)
  | typePrefix (target : Label)
  | argumentText (args : List Label)
  | javaType (type : Value)

/-- How an operation refers to a class: by label, or by a value that should be a name. -/
inductive ClassArg
  | labelled (label : Label)
  | named (v : Value)

/-- Operations of a session. -/
inductive SessionOp
  | reset
  | dump
  | setOption (target : Options.Assignable) (v : Value)
  | options
  | random
  | draws
  | nextClassName
  | newClass (parent? : Option Label) (label? : Option Label)
  | registerClass (label : Label)
  | getClass (arg : ClassArg) (label? : Option Label)
  | nextMethodName (arg : ClassArg)
  | nextFieldName (arg : ClassArg)
  | nextVarName (methodName : String)
  | randomType (allowVoid : Option Bool)
  | literal (type : Value)
  | classDeclaration (name : String) (parent? : Option Label)
  | methodDeclaration (method : Label) (declareThrows : Option Bool)
  | fieldDeclaration (field : Label)
  | variableDeclaration (target : Label)
  | openBlock
  | closeBlock
  | semicolon
  | elseStatement
  | ifStatement (condition : String)
  | forStatement (target : Label) (bound start : String)
  | defaultReturn (type : Value)
  | throwStatement (exception? message? : Option String)
  | assignment (method target : Label) (args : List Label)
  | methodCall (method target : Label) (args : List Label)

/-- An operation on records or of a session. -/
inductive Op
  | record (op : RecordOp)
  | session (op : SessionOp)

/-- What an operation answers. -/
inductive Answer
  | done
  | text (s : String)
  | truth (b : Bool)
  | count (n : Nat)
  | float (x : Number.Binary64)
  | kind (k : Kind)
  | names (ns : List Value)
  | record (v : RecordView)
  | call (site : Fragment.CallSite) (available : Value)
  | options (listing : List (OptionName × Value))
  | registry (seed : Value) (classCount : Nat) (classes : List (Value × RecordView))
  | started (seed : Value)
  | common (sameAs : List String) (seed : Value)
  | several (answers : List Answer)

/-- Why an operation fails. -/
inductive Failure
  /-- There is no record under a label. -/
  | noRecord (label : Label)
  /-- There is no session of this name. -/
  | noSession (name : String)
  /-- The session refuses. -/
  | session (f : Fragment.Failure)
  /-- The options of a session are refused. -/
  | options (f : Options.Failure)

end JavaFragments.Script
