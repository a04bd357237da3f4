import Docblocks.Command.Usage

/-!
The command line of this program: its options and commands, and what a line of words asks for.
-/

set_option autoImplicit false
set_option relaxedAutoImplicit false

namespace Docblocks.Command

/-- Where the settings and the manifest are, when a command line says so. -/
structure Sources where
  settings? : Option Text := none
  manifest? : Option Text := none
  deriving DecidableEq, Repr

/-- What a command line asks for. -/
inductive Task
  | annotate (module? className? : Option Text) (dryRun force : Bool)
  | check (module? : Option Text)
  | classes (module? : Option Text)
  | strip (className? : Option Text) (dryRun : Bool)
  deriving DecidableEq, Repr

/-- A task with its sources. -/
structure Invocation where
  sources : Sources
  task : Task
  deriving DecidableEq, Repr

/-- The request for help. -/
def helpOption : Opt where
  names := ["-h".points, "--help".points]
  role := .help
  about := "show this help message and exit".points

/-- An option with a value. -/
def valueOption (name value about : String) : Opt where
  names := [name.points]
  role := .value value.points
  about := about.points

/-- An option without a value. -/
def flagOption (name about : String) : Opt where
  names := [name.points]
  role := .flag
  about := about.points

/-- The option for the settings. -/
def settingsOption : Opt := valueOption "--config" "CONFIG" "Path to annotator.yaml"

/-- The option for the manifest. -/
def manifestOption : Opt :=
  valueOption "--manifest" "MANIFEST" "Path to annotator-manifest.yaml"

/-- The option for a module. -/
def moduleOption (about : String) : Opt := valueOption "--module" "MODULE" about

/-- The module of an annotation. -/
def annotateModuleOption : Opt := moduleOption "Only run if this module is enabled"

/-- The module of a check. -/
def checkModuleOption : Opt := moduleOption "Limit to an enabled module"

/-- The module of a list of classes. -/
def classesModuleOption : Opt := moduleOption "Filter to a module"

/-- The class of an annotation. -/
def annotateClassOption : Opt := valueOption "--class" "CLASS_NAME" "Single class"

/-- The class whose markers are stripped. -/
def stripClassOption : Opt :=
  { valueOption "--class" "CLASS_NAME" "Class name" with required := true }

/-- The flag for an annotation that writes nothing. -/
def annotateDryOption : Opt := flagOption "--dry-run" "Report changes without writing"

/-- The flag for a strip that writes nothing. -/
def stripDryOption : Opt := flagOption "--dry-run" "Report without writing"

/-- The flag that overrides settings in which generation is off. -/
def forceOption : Opt := flagOption "--force" "Run even when 'enabled' is false in the config"

/-- The name of the program. -/
def programName : Text := "orm-annotator".points

/-- The grammar of a command. -/
def commandGrammar (name : String) (options : List Opt) : Grammar where
  program := programName ++ " ".points ++ name.points
  options := helpOption :: options

/-- A command: its name, what it does, its grammar, and the task of the words it took up. -/
structure Entry where
  name : Text
  about : Text
  grammar : Grammar
  task : Taken → Task

/-- The commands of the program. -/
def entries : List Entry :=
  [ { name := "annotate".points
      about := "Insert or refresh generated docblocks".points
      grammar := commandGrammar "annotate"
        [annotateModuleOption, annotateClassOption, annotateDryOption, forceOption]
      task := fun t => .annotate (t.value? annotateModuleOption) (t.value? annotateClassOption)
        (t.flag annotateDryOption) (t.flag forceOption) },
    { name := "check".points
      about := "Fail if any generated docblock is stale".points
      grammar := commandGrammar "check" [checkModuleOption]
      task := fun t => .check (t.value? checkModuleOption) },
    { name := "classes".points
      about := "List the class worklist".points
      grammar := commandGrammar "classes" [classesModuleOption]
      task := fun t => .classes (t.value? classesModuleOption) },
    { name := "strip".points
      about := "Remove the block marker lines of a class".points
      grammar := commandGrammar "strip" [stripClassOption, stripDryOption]
      task := fun t => .strip (t.value? stripClassOption) (t.flag stripDryOption) } ]

/-- The grammar of the program. -/
def mainGrammar : Grammar where
  program := programName
  about := "Generate IDE docblocks for ORM entity and extension classes".points
  options := [helpOption, settingsOption, manifestOption]
  commands := entries.map fun e => (e.name, e.about)

/-- A command line that asks for nothing to be done: the grammar concerned, and why. -/
structure Refusal where
  grammar : Grammar
  stop : Stop

/-- The complaint about a word that is no command. -/
def unknownCommand (word : Text) : Stop :=
  .wrong ("argument command: invalid choice: ".points ++ Text.quoted word ++
    " (choose from ".points ++
    Text.join ", ".points (entries.map fun e => Text.quoted e.name) ++ ")".points)

/-- The complaint about words that nothing takes. -/
def leftOver (words : List Text) : Stop :=
  .wrong ("unrecognized arguments: ".points ++ Text.join " ".points words)

/-- Reads the words of the command after the program's own options. -/
def readCommand (t : Taken) (word : Text) (rest : List Text) : Except Refusal Invocation :=
  match entries.find? fun e => e.name == word with
  | none => .error ⟨mainGrammar, unknownCommand word⟩
  | some e =>
    match e.grammar.read rest with
    | .error s => .error ⟨e.grammar, s⟩
    | .ok u =>
      match t.extras ++ u.extras with
      | [] =>
        let sources : Sources := ⟨t.value? settingsOption, t.value? manifestOption⟩
        .ok ⟨sources, e.task u⟩
      | words => .error ⟨mainGrammar, leftOver words⟩

/-- Reads a command line; without a command it asks for help. -/
def Invocation.read (words : List Text) : Except Refusal Invocation :=
  match mainGrammar.read words with
  | .error s => .error ⟨mainGrammar, s⟩
  | .ok t =>
    match t.command, t.extras with
    | word :: rest, _ => readCommand t word rest
    | [], [] => .error ⟨mainGrammar, .help⟩
    | [], words => .error ⟨mainGrammar, leftOver words⟩

end Docblocks.Command
