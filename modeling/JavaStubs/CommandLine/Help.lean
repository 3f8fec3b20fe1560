import JavaStubs.CommandLine.Options

/-!
# Usage texts

The short help gives each argument and option one line; the long help puts what it does on lines of
its own, indented. Both show the current values of the variables that stand in for options.
-/

namespace JavaStubs
namespace CommandLine

/-- An argument or option of a usage text: how it is written, what it does, and a remark. -/
structure HelpRow where
  form : String
  text : String
  remark : Option String := none

namespace HelpRow

/-- How far the long help is indented. -/
def indent : String := "          "

/-- The form, filled up with blanks. -/
def padded (width : Nat) (form : String) : String :=
  form ++ String.ofList (List.replicate (width - form.length) ' ')

/-- The row with its text on lines of its own. -/
def long (r : HelpRow) : String :=
  let remark := match r.remark with
    | some s => indent ++ "\n" ++ indent ++ s ++ "\n"
    | none => ""
  r.form ++ "\n" ++ indent ++ r.text ++ "\n" ++ remark

/-- The row on one line, its text beginning in a given column. -/
def short (column : Nat) (r : HelpRow) : String :=
  let remark := match r.remark with
    | some s => " " ++ s
    | none => ""
  padded column r.form ++ r.text ++ remark ++ "\n"

/-- Rows below each other. The long ones have an empty line between them; the texts of short ones
begin two columns behind the longest form. -/
def block (isLong : Bool) (rows : List HelpRow) : String :=
  if isLong then "\n".intercalate (rows.map long)
  else
    let widest := (rows.map fun r => r.form.length).foldl max 0
    String.join (rows.map (short (widest + 2)))

end HelpRow

def ValueOption.description : ValueOption → String
  | .catalog => "Type metadata catalog (YAML or JSON); may be repeated"
  | .classpath => "Classpath used when compiling, in the platform's path-list format"
  | .javac => "The `javac` executable to use"
  | .scratchDir => "Directory under which scratch workspaces are created"

/-- The variable of an option with its value. -/
def ValueOption.remark (env : Environment) (o : ValueOption) : Option String :=
  o.variableName?.map fun name =>
    "[env: " ++ name ++ "="
      ++ Text.withoutControls (((env.get? name).map OsText.display).getD "") ++ "]"

def ValueOption.row (env : Environment) (o : ValueOption) : HelpRow :=
  ⟨"      " ++ o.usage, o.description, o.remark env⟩

def argumentRows : List HelpRow :=
  [⟨"  [ARGS]...", "The fully qualified type name followed by the output location", none⟩]

def optionRows (env : Environment) (isLong : Bool) : List HelpRow :=
  [⟨"      --jar", "Compile the implementation and package it into a jar", none⟩]
    ++ ValueOption.all.map (ValueOption.row env) ++
  [⟨"  -h, --help",
      if isLong then "Print help (see a summary with '-h')"
      else "Print help (see more with '--help')", none⟩,
    ⟨"  -V, --version", "Print version", none⟩]

def about (isLong : Bool) : String :=
  if isLong then
    "Top-level CLI parser for `implement`.\n\n"
      ++ "Usage is `implement <TYPE> <OUTPUT_DIR>` to generate source, or "
      ++ "`implement -jar <TYPE> <OUTPUT_JAR>` to also compile and package it."
  else "Generate stub implementations of Java interfaces and abstract classes"

def helpText (env : Environment) (isLong : Bool) : String :=
  about isLong ++ "\n\nUsage: " ++ programName ++ " [OPTIONS] [ARGS]...\n\nArguments:\n"
    ++ HelpRow.block isLong argumentRows ++ "\nOptions:\n"
    ++ HelpRow.block isLong (optionRows env isLong)

def versionText : String := programName ++ " " ++ programVersion ++ "\n"

end CommandLine
end JavaStubs
