import JavaFragments.Ini.Annotated
import JavaFragments.Options.Configuration

/-! # The sample file

The sample file gives every option its default, with what the option is for as a comment
above it. -/

namespace JavaFragments.Options

open Number

/-- How a default is written into a file. -/
def optionText : (t : OptionType) → t.Carrier → String
  | .seed, none => "None"
  | .seed, some n => toString n
  | .float, x => x.text
  | .bool, true => "True"
  | .bool, false => "False"
  | .int, n => let m : Int := n; toString m
  | .str, s => s

/-- The document with an option and what it is for. -/
def addOption (o : Options) (a : Ini.Annotated) (n : OptionName) : Ini.Annotated :=
  (a.set optionSection n.key (some (optionText n.type (o.get n))) (some n.help)).2

/-- The document that gives every option its default. -/
def sampleDocument : Ini.Annotated := OptionName.all.foldl (addOption defaults) .empty

/-- The text of the sample file. -/
def sampleText : String := "# javagen default configuration file\n" ++ sampleDocument.write

/-- The path at which a configuration has its file. -/
def Configuration.filePath (c : Configuration) (env : Environment) : Except Failure String :=
  if c.path.truth then pathText c.path else Options.filePath env c.name c.directory

/-- The text of the sample file, and the tree after it was put in place if asked for, where
    nothing is yet; there is room for so many directories above the last one. -/
def Configuration.sample (c : Configuration) (env : Environment) (room : Nat) (tree : FileTree)
    (write : Bool) : Except Failure String × FileTree :=
  match c.checkService .sample *> c.filePath env with
  | .error f => (.error f, tree)
  | .ok path =>
    let place := (Path.ofText path).tidy
    if !write then (.ok sampleText, tree)
    else
      match tree.exists? place with
      | .error e => (.error (.storage e), tree)
      | .ok true => (.error (.rejected (.fileExists path)), tree)
      | .ok false =>
        match tree.store room place (.text sampleText) with
        | (.ok (), tree) => (.ok sampleText, tree)
        | (.error e, tree) => (.error (.storage e), tree)

end JavaFragments.Options
