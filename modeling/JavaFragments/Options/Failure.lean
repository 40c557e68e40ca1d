import JavaFragments.FileTree.Creation
import JavaFragments.Ini.Error
import JavaFragments.Options.Basic
import JavaFragments.Text.Utf8
import JavaFragments.Value.Misuse

/-! # Failures of options -/

namespace JavaFragments

open Number

namespace OptionType

/-- What an override of this type must be. -/
def expected : OptionType → String
  | seed => "an integer or None"
  | float => "a float"
  | bool => "a boolean"
  | int => "an integer"
  | str => "a string"

/-- What a text read for this type must be. -/
def readAs : OptionType → String
  | seed | int => "an integer"
  | float => "a float"
  | bool => "a boolean"
  | str => "a string"

end OptionType

namespace Options

/-- Why options are refused. -/
inductive Rejection
  /-- An override names no option. -/
  | unknownOption (name : String)
  /-- An override has the wrong type; the value is described. -/
  | wrongType (name : OptionName) (value : String)
  /-- A text cannot be read as a value of its type. -/
  | unreadable (key sectionName : String) (type : OptionType) (cause : NotANumeral)
  /-- There is no directory to look for the file in. -/
  | noHome
  /-- The weight is no probability; it is written out. -/
  | weight (text : String)
  /-- A lower bound is not below its upper bound; both are written out. -/
  | bounds (low high : OptionName) (lowText highText : String)
  /-- The bounds of the length of strings are wrong; both are written out. -/
  | lengths (minText maxText : String)
  /-- A size is not positive. -/
  | notPositive (name : OptionName)
  /-- A sample file would replace something. -/
  | fileExists (path : String)
deriving DecidableEq

/-- Wording of a refusal. -/
def Rejection.message : Rejection → String
  | unknownOption name => s!"Unknown option: {name}"
  | wrongType name value => s!"Option {name.key} is not {name.type.expected}: {value}"
  | unreadable key sectionName type cause =>
    s!"Value {key} of section {sectionName} is not {type.readAs}! {cause.message}"
  | noHome => "Unable to retrieve user home directory: empty HOME environment variable"
  | weight text => s!"try_catch_weight must be in [0, 1], not {text}"
  | bounds low high lowText highText =>
    s!"{low.key} ({lowText}) must be smaller than {high.key} ({highText})"
  | lengths minText maxText => s!"Invalid String length range: [{minText}, {maxText}]"
  | notPositive name => s!"{name.key} must be positive"
  | fileExists path => s!"Configuration file already exists: {path}"

/-- What a configuration is made from besides the overrides. -/
inductive Argument
  | fileName
  | directory
  | read
  /-- The configuration itself. -/
  | itself
deriving DecidableEq, Repr

/-- The name of an argument. -/
def Argument.key : Argument → String
  | fileName => "filename"
  | directory => "configdir"
  | read => "read"
  | itself => "self"

/-- Wording of the refusal of an argument that is given twice. -/
def Argument.message : Argument → String
  | itself => s!"GeneratorConfig.__init__() got multiple values for argument '{itself.key}'"
  | a => s!"javagen.config.GeneratorConfig() got multiple values for keyword argument '{a.key}'"

/-- Why an operation on options fails. -/
inductive Failure
  /-- The options themselves are refused. -/
  | rejected (r : Rejection)
  /-- The file cannot be read as sectioned text, or a reference in it not be followed. -/
  | ini (e : Ini.Error)
  /-- The file is no text. -/
  | encoding (f : Text.Utf8.Fault)
  /-- A file cannot be put in place. -/
  | storage (e : FileTree.Error)
  /-- A number is too long to be shown. -/
  | tooLong (e : TooLong)
  /-- An integer is too large for a floating-point option. -/
  | tooLarge
  /-- The seed to fall back on is neither a number nor a text. -/
  | seedNotText
  /-- A value does not do what is asked of it. -/
  | misuse (m : Misuse)
  /-- An override has the name of something else that a configuration is made from. -/
  | repeatedArgument (a : Argument)
deriving DecidableEq

/-- Wording of a failure. -/
def Failure.message : Failure → String
  | rejected r => r.message
  | ini e => e.message
  | encoding f => f.message
  | storage e => e.message
  | tooLong e => e.message
  | tooLarge => "int too large to convert to float"
  | seedNotText => "int() can't convert non-string with explicit base"
  | misuse m => m.message
  | repeatedArgument a => a.message

end Options

end JavaFragments
