import Docblocks.Command.Invocation
import Docblocks.Project
import Docblocks.Run.Basic

/-!
Carrying out a command line: what is printed, the exit code or the fault that ends the program, and
the world afterwards.
-/

set_option autoImplicit false
set_option relaxedAutoImplicit false

namespace Docblocks.Command

open Docblocks.Number (natText)
open Docblocks.Text (padRight unlines)
open Docblocks.Schema (Descriptor)

/-- What a command line leaves behind. -/
structure Ended where
  exit : Except Fault Nat
  stdout : Text := []
  stderr : Text := []
  world : World

/-- The end of a task: the lines it prints after its notices, its exit code, and the world. -/
def ended (exit : Except Fault Nat) (lines : List Text) (w : World) : Ended where
  exit := exit
  stdout := unlines (w.notices.map (fun n => "  ".points ++ n.message) ++ lines)
  world := w

/-- The message that generation is off. -/
def disabledMessage : Text :=
  "Annotation is disabled. Set 'enabled: true' in the config or pass --force.".points

/-- The message that a module is not allowed. -/
def moduleMessage (module : Text) : Text :=
  "Module '".points ++ module ++ "' is not enabled for annotation.".points

/-- The message that a class is not allowed or has no file. -/
def classMessage (name : Text) : Text :=
  name ++ " is not allowed or has no writable file.".points

/-- The line on the failure of a class. -/
def failureLine (name : Text) (f : Fault) : Text :=
  name ++ ": ".points ++ f.message

/-- The lines at the end of a run that writes nothing. -/
def dryLines (dryRun : Bool) : List Text :=
  if dryRun then [[], "[DRY RUN] No files were modified.".points] else []

/-- The lines of a report. -/
def reportLines (r : Report) : List Text :=
  [ "Docblock Annotation Results".points,
    List.replicate 40 (.char '─'),
    "  Updated:   ".points ++ natText r.updated.length,
    "  Unchanged: ".points ++ natText r.unchanged.length,
    "  Skipped:   ".points ++ natText r.skipped.length ] ++
  if r.errors.isEmpty then []
  else
    ("  Errors:    ".points ++ natText r.errors.length) ::
      r.errors.map fun e => "    - ".points ++ failureLine e.1 e.2

/-- The end of an annotation that ran. -/
def reported (r : Run) (w : World) : Ended :=
  ended (.ok (if w.report.passed then 0 else 1)) (reportLines w.report ++ dryLines r.dryRun) w

/-- Whether the failure of a single class is told in one line; a schema of the wrong types ends the
program. -/
def isReported : Fault → Bool
  | .tags (.number _) => true
  | .tags _ => false
  | _ => true

/-- Annotates one class. -/
def annotateOne (r : Run) (name : Text) (w : World) : Ended :=
  if r.enabled then
    match r.annotateClass name w with
    | (.ok true, w) => reported r w
    | (.ok false, w) => ended (.ok 1) [classMessage name] w
    | (.error f, w) =>
      if isReported f then ended (.ok 1) ["ERROR: ".points ++ failureLine name f] w
      else ended (.error f) [] w
  else ended (.ok 1) [disabledMessage] w

/-- Annotates everything if a module is allowed. -/
def annotateIn (r : Run) (module : Text) (w : World) : Ended :=
  match r.annotateModule module w with
  | (.ok true, w) => reported r w
  | (.ok false, w) => ended (.ok 1) [moduleMessage module] w
  | (.error f, w) => ended (.error f) [] w

/-- Annotates everything. -/
def annotateEverything (r : Run) (w : World) : Ended :=
  match r.annotateAll w with
  | (.ok true, w) => reported r w
  | (.ok false, w) => ended (.ok 1) [disabledMessage] w
  | (.error f, w) => ended (.error f) [] w

/-- A name that is given and not empty. -/
def given? : Option Text → Option Text
  | some (c :: t) => some (c :: t)
  | _ => none

/-- The command that annotates. -/
def performAnnotate (r : Run) (module? className? : Option Text) (w : World) : Ended :=
  match given? className?, given? module? with
  | some name, _ => annotateOne r name w
  | none, some module => annotateIn r module w
  | none, none => annotateEverything r w

/-- The end of a check that ran: it fails when a block is stale or a class fails. -/
def checked (w : World) : Ended :=
  let r := w.report
  let stale :=
    if r.updated.isEmpty then []
    else
      ("Stale docblocks (".points ++ natText r.updated.length ++ "):".points) ::
        r.updated.map fun name => "  ".points ++ name
  let failures := r.errors.map fun e => "ERROR: ".points ++ failureLine e.1 e.2
  let clean := r.updated.isEmpty && r.errors.isEmpty
  ended (.ok (if clean then 0 else 1))
    (stale ++ failures ++ if clean then ["All docblocks up to date.".points] else []) w

/-- The command that checks. -/
def performCheck (r : Run) (module? : Option Text) (w : World) : Ended :=
  match given? module? with
  | some module =>
    match r.annotateModule module w with
    | (.ok true, w) => checked w
    | (.ok false, w) => ended (.ok 1) [moduleMessage module] w
    | (.error f, w) => ended (.error f) [] w
  | none =>
    match r.annotateAll w with
    | (.ok _, w) => checked w
    | (.error f, w) => ended (.error f) [] w

/-- A row of the table of classes. -/
def classRow (name kind module allowed file : Text) : Text :=
  Text.join " ".points
    [padRight 32 name, padRight 10 kind, padRight 16 module, padRight 8 allowed, file]

/-- The rows of some classes, up to the first whose file is a fault. -/
def classRows (r : Run) (disk : Disk) : List Descriptor → Except Fault Unit × List Text
  | [] => (.ok (), [])
  | d :: ds =>
    match disk.classFile? d with
    | .error f => (.error (.disk f), [])
    | .ok file? =>
      let allowed := if r.settings.allowsClass r.classes d.name then "yes" else "no"
      let file := (file?.map fun f => f.1.written).getD "-".points
      let row := classRow d.name d.kind.name d.module allowed.points file
      let rest := classRows r disk ds
      (rest.1, row :: rest.2)

/-- The command that lists the classes. -/
def performClasses (r : Run) (module? : Option Text) (w : World) : Ended :=
  let shown :=
    match given? module? with
    | some module => r.classes.filter fun d => d.module == module
    | none => r.classes
  let head :=
    [ classRow "Class".points "Kind".points "Module".points "Allowed".points "File".points,
      List.replicate 90 (.char '─') ]
  match classRows r w.disk shown with
  | (.error f, rows) => ended (.error f) (head ++ rows) w
  | (.ok _, rows) =>
    ended (.ok 0) (head ++ rows ++ [[], natText shown.length ++ " classes".points]) w

/-- Strips the markers of a class. -/
def stripOne (r : Run) (name : Text) (w : World) : Ended :=
  match r.stripClass name w with
  | (.error f, w) => ended (.error f) [] w
  | (.ok false, w) => ended (.ok 1) [classMessage name] w
  | (.ok true, w) =>
    let line :=
      if w.report.updated.isEmpty then "No block markers in ".points ++ name
      else "Removed block markers from ".points ++ name
    ended (.ok 0) (line :: dryLines r.dryRun) w

/-- The command that strips the markers of a class, which has to have a name. -/
def performStrip (r : Run) (className? : Option Text) (w : World) : Ended :=
  match className? with
  | some name => stripOne r name w
  | none => ended (.error .unnamed) [] w

/-- The run of a task over the classes of a manifest; only an annotation tells what it writes. -/
def Task.run (settings : Settings) (classes : List Descriptor) (device : Disk.Device) : Task → Run
  | .annotate _ _ dryRun force => { settings, classes, device, dryRun, force }
  | .check _ => { settings, classes, device, dryRun := true, force := true, notifies := false }
  | .classes _ => { settings, classes, device, notifies := false }
  | .strip _ dryRun => { settings, classes, device, dryRun, notifies := false }

/-- Carries out a task. -/
def Task.perform (t : Task) (r : Run) (w : World) : Ended :=
  match t with
  | .annotate module? className? _ _ => performAnnotate r module? className? w
  | .check module? => performCheck r module? w
  | .classes module? => performClasses r module? w
  | .strip name _ => performStrip r name w

/-- Reads the settings and the manifest, then carries out the task. -/
def Invocation.perform (i : Invocation) (env : Environment) (disk : Disk)
    (device : Disk.Device := {}) : Ended :=
  let w : World := { disk := disk }
  match loadSettings env disk i.sources.settings? with
  | .error f => ended (.error f) [] w
  | .ok settings =>
    match loadManifest env disk i.sources.manifest? with
    | .error f => ended (.error f) [] w
    | .ok classes => i.task.perform (i.task.run settings classes device) w

/-- A file that is missing is reported, all other faults end the program. -/
def Ended.reportMissing (e : Ended) : Ended :=
  match e.exit with
  | .error f =>
    if f.isMissing then
      { e with exit := .ok 1, stdout := e.stdout ++ unlines ["ERROR: ".points ++ f.message] }
    else e
  | .ok _ => e

/-- What a refused command line prints: the help page, or the usage lines and a complaint. -/
def Refusal.answer (r : Refusal) (w : World) : Ended :=
  match r.stop with
  | .help => { exit := .ok 0, stdout := r.grammar.help, world := w }
  | .wrong complaint =>
    { exit := .ok 2
      stderr := r.grammar.usage ++
        unlines [r.grammar.program ++ ": error: ".points ++ complaint]
      world := w }

/-- Carries out a command line, with a device that answers when files are written. -/
def execute (words : List Text) (env : Environment) (disk : Disk) (device : Disk.Device := {}) :
    Ended :=
  match Invocation.read words with
  | .error r => r.answer { disk := disk }
  | .ok i => (i.perform env disk device).reportMissing

end Docblocks.Command
