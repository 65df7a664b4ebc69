import ViewAudit.Guide.Loading
import ViewAudit.Report.Render

/-!
The command lines of the tools. Arguments are read from left to right and the
first one that settles the matter counts: a fault, or the wish for help or the
version.
-/

namespace ViewAudit

/-- An option that has a value. -/
inductive ValueOption where
  | file
  | format
  /-- The check or code to explain. -/
  | explain
  /-- The directory of guides. -/
  | root
  deriving DecidableEq, Repr

def ValueOption.name : ValueOption → String
  | file => "file"
  | format => "format"
  | explain => "explain"
  | root => "root"

/-- The options with values that a tool knows. -/
def Tool.valueOptions : Tool → List ValueOption
  | .accessibilityCheck => [.file, .format, .explain]
  | .guidelineAdvisor => [.root, .file, .format]

/-- What the options of a command line say. -/
structure Options where
  file : Option String := none
  format : Option OutputFormat := none
  explain : Option String := none
  root : Option String := none
  verbose : Bool := false
  deriving DecidableEq, Repr

namespace Options

def outputFormat (options : Options) : OutputFormat := options.format.getD .standard

def guideRoot (options : Options) : String := options.root.getD defaultGuideRoot

/-- Fills a field that is still empty. -/
def fill? {α : Type} (value : α) : Option α → Option (Option α)
  | none => some (some value)
  | some _ => none

/-- Sets an option, which may be done once. -/
def set? (options : Options) (option : ValueOption) (value : String) : Option Options :=
  match option with
  | .file => (fill? value options.file).map fun file => { options with file }
  | .explain => (fill? value options.explain).map fun explain => { options with explain }
  | .root => (fill? value options.root).map fun root => { options with root }
  | .format =>
      match OutputFormat.ofName value with
      | .ok format => (fill? format options.format).map fun format => { options with format }
      | .error _ => none

def setVerbose? (options : Options) : Option Options :=
  if options.verbose then none else some { options with verbose := true }

end Options

/-- What a command line asks for. -/
inductive Invocation where
  | run (options : Options)
  | help
  | version
  /-- The command line is not well-formed. -/
  | usageError
  deriving DecidableEq, Repr

namespace Invocation

/-- Reads the letters of an argument with one dash. -/
def readLetters (options : Options) (next : Options → Invocation) : List Char → Invocation
  | [] => next options
  | 'v' :: letters =>
      match options.setVerbose? with
      | some options => readLetters options next letters
      | none => usageError
  | 'h' :: _ => help
  | 'V' :: _ => version
  | _ => usageError

/-- Whether an argument can be the value of the option before it. -/
def isValue (argument : String) : Bool :=
  argument.toList.head? != some '-' || argument == "-"

/-- The part of an argument after its first equals sign, if it has one, and the
part before. -/
def splitValue (argument : List Char) : List Char × Option (List Char) :=
  (argument.takeWhile (· != '='),
    match argument.dropWhile (· != '=') with
    | [] => none
    | _ :: value => some value)

/-- Reads arguments after those that gave `options`. -/
def readArguments (tool : Tool) (options : Options) : List String → Invocation
  | [] => run options
  | argument :: rest =>
      match argument.toList with
      | ['-', '-'] => if rest.isEmpty then run options else usageError
      | '-' :: '-' :: long =>
          let (name, value) := splitValue long
          match tool.valueOptions.find? (·.name.toList == name), value, rest with
          | some option, some value, rest =>
              match options.set? option (String.ofList value) with
              | some options => readArguments tool options rest
              | none => usageError
          | some option, none, value :: rest =>
              if isValue value then
                match options.set? option value with
                | some options => readArguments tool options rest
                | none => usageError
              else usageError
          | none, none, rest =>
              if name = "help".toList then help
              else if name = "version".toList then version
              else if name = "verbose".toList then
                match options.setVerbose? with
                | some options => readArguments tool options rest
                | none => usageError
              else usageError
          | _, _, _ => usageError
      | '-' :: letter :: letters =>
          readLetters options (fun options => readArguments tool options rest)
            (letter :: letters)
      | _ => usageError

/-- Reads the arguments of a tool. -/
def ofArguments (tool : Tool) (arguments : List String) : Invocation :=
  readArguments tool {} arguments

end Invocation

end ViewAudit
