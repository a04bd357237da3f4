import Docblocks.Command.Grammar

/-!
Usage lines and help pages of a grammar, for a terminal of eighty columns.
-/

set_option autoImplicit false
set_option relaxedAutoImplicit false

namespace Docblocks.Command

open Docblocks.Text (join padRight unlines)

/-- The number of columns that text may fill. -/
def textWidth : Nat := 78

/-- The column at which explanations start at the latest. -/
def widestColumn : Nat := 24

/-- An option with the name of its value. -/
def Opt.form (o : Opt) (name : Text) : Text :=
  match o.role with
  | .value v => name ++ " ".points ++ v
  | _ => name

/-- An option in a usage line: its first name, in brackets unless it is required. -/
def Opt.usage (o : Opt) : Text :=
  let t := o.form (o.names.headD [])
  if o.required then t else "[".points ++ t ++ "]".points

/-- An option on a help page: all its names. -/
def Opt.entry (o : Opt) : Text :=
  join ", ".points (o.names.map o.form)

/-- The choice of commands. -/
def Grammar.choice (g : Grammar) : Text :=
  "\x7b".points ++ join ",".points (g.commands.map (·.1)) ++ "\x7d".points

/-- Fills lines with words up to the text width, each line after an indentation. -/
def fill (indent : Nat) (line : List Text) (width : Nat) : List Text → List Text
  | [] => if line.isEmpty then [] else [List.replicate indent (.char ' ') ++ join " ".points line]
  | w :: ws =>
    if textWidth < width + 1 + w.length && !line.isEmpty then
      (List.replicate indent (.char ' ') ++ join " ".points line) ::
        fill indent [w] (indent - 1 + w.length + 1) ws
    else fill indent (line ++ [w]) (width + w.length + 1) ws

/-- The usage lines: on one line if they fit, else the options and then the commands, indented below
the name of the program. -/
def Grammar.usage (g : Grammar) : Text :=
  let head := "usage: ".points ++ g.program
  let options := g.options.map Opt.usage
  let commands := if g.commands.isEmpty then [] else [g.choice ++ " ...".points]
  let whole := join " ".points (head :: options ++ commands)
  if whole.length ≤ textWidth then whole ++ "\n".points
  else
    let indent := head.length + 1
    let lines := fill indent [] (indent - 1) options
    let first := head ++ " ".points ++ (lines.headD []).drop indent
    let more := if commands.isEmpty then [] else fill indent [] (indent - 1) commands
    unlines (first :: lines.drop 1 ++ more)

/-- An entry of a help page: its form, then its explanation at a column or on the next line. -/
def helpEntry (column indent : Nat) (form about : Text) : List Text :=
  let head := List.replicate indent (.char ' ') ++ form
  if about.isEmpty then [head]
  else if head.length + 2 ≤ column then [padRight column head ++ about]
  else [head, List.replicate column (.char ' ') ++ about]

/-- The column at which the explanations of a help page start. -/
def Grammar.column (g : Grammar) : Nat :=
  let forms := g.options.map Opt.entry ++
    if g.commands.isEmpty then [] else g.choice :: g.commands.map (·.1)
  min widestColumn ((forms.map List.length).foldl max 0 + 4)

/-- The part of a help page on the commands. -/
def Grammar.commandHelp (g : Grammar) : Text :=
  if g.commands.isEmpty then []
  else
    unlines ([[], "positional arguments:".points] ++ helpEntry g.column 2 g.choice [] ++
      g.commands.flatMap fun c => helpEntry g.column 4 c.1 c.2)

/-- The part of a help page on the options. -/
def Grammar.optionHelp (g : Grammar) : Text :=
  unlines ([[], "options:".points] ++ g.options.flatMap fun o =>
    helpEntry g.column 2 o.entry o.about)

/-- The help page. -/
def Grammar.help (g : Grammar) : Text :=
  g.usage ++ (if g.about.isEmpty then [] else unlines [[], g.about]) ++ g.commandHelp ++
    g.optionHelp

end Docblocks.Command
