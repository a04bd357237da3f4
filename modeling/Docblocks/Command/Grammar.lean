import Docblocks.Text.Digit
import Docblocks.Text.Layout
import Docblocks.Text.Quoted
import Docblocks.Text.Search

/-!
Command lines with options and commands.

A word that starts with a dash is an option, if need be by an unambiguous beginning of its name, and
may carry its value after an equals sign. Letters after a short option are short options too. The
first plain word is a command, where the grammar has commands, and takes all words after it. What
nothing takes is left over.
-/

set_option autoImplicit false
set_option relaxedAutoImplicit false

namespace Docblocks.Command

open Docblocks.Text (join quoted)

/-- What an option does: it asks for help, it is a flag, or it takes a value of the given name. -/
inductive Role
  | help
  | flag
  | value (name : Text)
  deriving DecidableEq, Repr

/-- An option with its names, of which short ones take no value. -/
structure Opt where
  names : List Text
  role : Role
  required : Bool := false
  about : Text
  deriving DecidableEq, Repr

/-- The options and commands of a program or of one of its commands. -/
structure Grammar where
  program : Text
  about : Text := []
  options : List Opt
  commands : List (Text × Text) := []
  deriving Repr

/-- Why the words of a command line are not taken up: help is asked for, or something is wrong. -/
inductive Stop
  | help
  | wrong (complaint : Text)
  deriving DecidableEq, Repr

/-- What a word of a command line is. -/
inductive Word
  | plain
  | separator
  | option (opt : Opt) (long : Bool) (given? : Option Text)
  | unknown
  deriving Repr

/-- The words of a command line that were taken up, options with their values if they have one, and
those that are left over. -/
structure Taken where
  values : List (Opt × Option Text) := []
  command : List Text := []
  extras : List Text := []

/-- The names of an option in a complaint. -/
def Opt.label (o : Opt) : Text := join "/".points o.names

/-- A complaint about an option. -/
def Opt.wrong (o : Opt) (complaint : Text) : Stop :=
  .wrong ("argument ".points ++ o.label ++ ": ".points ++ complaint)

/-- The complaint about a value that an option does not take. -/
def Opt.ignored (o : Opt) (given : Text) : Stop :=
  o.wrong ("ignored explicit argument ".points ++ quoted given)

/-- Whether a text is a number after its sign: digits of any script, or a point between digits and
more digits. -/
def isUnsignedNumber (t : Text) : Bool :=
  match t.dropWhile Text.isDecimal with
  | [] => !t.isEmpty
  | .char '.' :: ds => !ds.isEmpty && ds.all Text.isDecimal
  | _ => false

/-- Whether a text is a negative number, which is no option; a line end may follow it. -/
def isNegativeNumber : Text → Bool
  | .char '-' :: t => isUnsignedNumber (Text.dropFinalBreak t)
  | _ => false

/-- The separator of options and plain words. -/
def separator : Text := "--".points

/-- The value that a word after an equals sign gives; the separator gives none. -/
def givenValue? (t : Text) : Option Text :=
  if t = separator then none else some t

namespace Grammar

/-- All names of options, each with its option. -/
def names (g : Grammar) : List (Text × Opt) :=
  g.options.flatMap fun o => o.names.map fun n => (n, o)

/-- The option of a full name. -/
def named? (g : Grammar) (name : Text) : Option Opt :=
  g.names.lookup name

/-- The name in front of an equals sign, and the value after it if there is one. -/
def splitValue (t : Text) : Text × Option Text :=
  match Text.cut? "=".points t with
  | some (name, v) => (name, some v)
  | none => (t, none)

/-- The options that a word may mean when it is no full name: long ones by a beginning of the name,
short ones by their first letter, with what follows as a value. -/
def candidates (g : Grammar) (t : Text) : List (Text × Word) :=
  match t with
  | .char '-' :: .char '-' :: _ =>
    let s := splitValue t
    (g.names.filter fun e => s.1.isPrefixOf e.1).map fun e => (e.1, .option e.2 true s.2)
  | .char '-' :: p :: rest =>
    g.names.filterMap fun e =>
      if e.1 = [.char '-', p] then some (e.1, .option e.2 false (some rest))
      else if t.isPrefixOf e.1 then some (e.1, .option e.2 true none)
      else none
  | _ => []

/-- Whether a name starts with two dashes. -/
def isLong (name : Text) : Bool := separator.isPrefixOf name

/-- What a word is, on its own. -/
def classify (g : Grammar) (t : Text) : Except Stop Word :=
  match t with
  | .char '-' :: _ :: _ =>
    match g.named? t with
    | some o => .ok (.option o (isLong t) none)
    | none =>
      let s := splitValue t
      match s.2, g.named? s.1 with
      | some v, some o => .ok (.option o (isLong s.1) (some v))
      | _, _ =>
        match g.candidates t with
        | [] => .ok (if isNegativeNumber t || t.contains (.char ' ') then .plain else .unknown)
        | [(_, w)] => .ok w
        | ws =>
          .error (.wrong ("ambiguous option: ".points ++ t ++ " could match ".points ++
            join ", ".points (ws.map (·.1))))
  | _ => .ok .plain

/-- What the words of a command line are; after a separator all words are plain. -/
def classifyAll (g : Grammar) : List Text → Except Stop (List (Text × Word))
  | [] => .ok []
  | t :: ts =>
    if t = separator then .ok ((t, .separator) :: ts.map fun u => (u, .plain))
    else
      match g.classify t with
      | .error s => .error s
      | .ok w => (g.classifyAll ts).map ((t, w) :: ·)

/-- Reads the letters after a short option as further short options. -/
def cluster (g : Grammar) (o : Opt) : Text → Except Stop (List Opt)
  | [] => .error (o.ignored [])
  | p :: t =>
    match g.named? [.char '-', p] with
    | none => .error (o.ignored (p :: t))
    | some next => if t.isEmpty then .ok [o, next] else (g.cluster next t).map (o :: ·)

/-- Takes up options without values. -/
def takeFlags (t : Taken) : List Opt → Except Stop Taken
  | [] => .ok t
  | o :: os =>
    if o.role = .help then .error .help
    else takeFlags { t with values := t.values ++ [(o, none)] } os

/-- Takes up the words of a command line from left to right. -/
def take (g : Grammar) (t : Taken) : List (Text × Word) → Except Stop Taken
  | [] => .ok t
  | (text, w) :: rest =>
    let all := text :: rest.map (·.1)
    match w with
    | .plain =>
      if g.commands.isEmpty then g.take { t with extras := t.extras ++ [text] } rest
      else .ok { t with command := all }
    | .separator =>
      if g.commands.isEmpty || rest.isEmpty then .ok { t with extras := t.extras ++ all }
      else .ok { t with command := all }
    | .unknown => g.take { t with extras := t.extras ++ [text] } rest
    | .option o long given? =>
      match o.role, given? with
      | .value _, some v => g.take { t with values := t.values ++ [(o, givenValue? v)] } rest
      | .value _, none =>
        match rest with
        | (v, .plain) :: rest => g.take { t with values := t.values ++ [(o, some v)] } rest
        | _ => .error (o.wrong "expected one argument".points)
      | _, none =>
        match takeFlags t [o] with
        | .error s => .error s
        | .ok t => g.take t rest
      | _, some v =>
        match if long then .error (o.ignored v) else g.cluster o v with
        | .error s => .error s
        | .ok os =>
          match takeFlags t os with
          | .error s => .error s
          | .ok t => g.take t rest

/-- The labels of the required options that are missing. -/
def missing (g : Grammar) (t : Taken) : List Text :=
  (g.options.filter fun o => o.required && !t.values.any fun v => v.1 == o).map Opt.label

/-- Reads the words of a command line. -/
def read (g : Grammar) (words : List Text) : Except Stop Taken :=
  match g.classifyAll words with
  | .error s => .error s
  | .ok ws =>
    match g.take {} ws with
    | .error s => .error s
    | .ok t =>
      match g.missing t with
      | [] => .ok t
      | ms =>
        .error (.wrong ("the following arguments are required: ".points ++ join ", ".points ms))

end Grammar

/-- The last value of an option. -/
def Taken.value? (t : Taken) (o : Opt) : Option Text :=
  (t.values.reverse.lookup o).join

/-- Whether a flag was set. -/
def Taken.flag (t : Taken) (o : Opt) : Bool :=
  (t.values.lookup o).isSome

end Docblocks.Command
