import Formulary.Command.Request
import Formulary.Text.Search
import Formulary.Text.Terminal

/-!
How the program tells what it can be asked to do: of the whole program its commands and common
options, of a command its operand and its options. Names stand in one column and what they mean in
another. Help is written for a terminal, with what is typed as it stands in bold, and printed
without the control sequences of terminals; those that come from the environment go too.
-/

namespace Formulary.Command

open Text.Terminal (bold plain)

def lines (texts : List String) : String := String.join (texts.map (· ++ "\n"))

def Name.text : Name → String
  | vars => "vars"
  | fill => "fill"
  | .export => "export"
  | plan => "plan"

def Name.about : Name → String
  | vars => "List the placeholders of a template"
  | fill => "Substitute values into a template and write the HTML"
  | .export => "Fill a template and export it as a paginated PDF"
  | plan => "Show how a capture of the given size is split into pages"

/-- What stands behind the options of a command that must be there. -/
def Name.required : Name → List String
  | plan => ["--width <WIDTH>", "--height <HEIGHT>"]
  | .export => ["--bitmap <BITMAP>", "<TEMPLATE>"]
  | _ => ["<TEMPLATE>"]

def aboutHelp : String := "Print this message or the help of the given subcommand(s)"

/-- An option as it is written; `environment` is the configuration that the environment names. -/
def OptionForm.entry (environment : Option String) (f : OptionForm) : String × String :=
  let letter := match f.short with
    | some c => bold ("-" ++ String.singleton c) ++ ", "
    | none => "    "
  let value := match f.value with
    | some name => " <" ++ name ++ ">"
    | none => ""
  let named := if f = configForm then " [env: MINUTA_CONFIG=" ++ environment.getD "" ++ "]" else ""
  (letter ++ bold ("--" ++ f.name) ++ value, f.about ++ named)

def shownWidth (s : String) : Nat := (plain s).length

/-- A text whose lines behind the first stand `width` characters further in. -/
def indented (width : Nat) (s : String) : String :=
  let between := ("\n".pushn ' ' width).toList
  String.ofList (between.intercalate (Text.cutAt '\n' s.toList))

def columns (heading : String) (entries : List (String × String)) : List String :=
  let width := entries.foldl (fun n e => max n (shownWidth e.1)) 0
  ("" :: bold heading :: entries.map fun e =>
    "  " ++ e.1 ++ "".pushn ' ' (width - shownWidth e.1) ++ "  " ++ indented (width + 4) e.2)

def commandEntries : List (String × String) :=
  [Name.vars, .fill, .export, .plan].map (fun n => (bold n.text, n.about)) ++
    [(bold "help", aboutHelp)]

/-- Help on a topic, for a terminal; `environment` is the configuration that the environment
names. -/
def Topic.styled (environment : Option String) : Topic → String
  | program => lines
      (["Fill certificate templates and export them as paginated PDFs", "",
        bold "Usage:" ++ " " ++ bold "minuta" ++ " [OPTIONS] <COMMAND>"] ++
        columns "Commands:" commandEntries ++
        columns "Options:" (topForms.map (OptionForm.entry environment)))
  | command name => lines
      ([name.about, "",
        bold "Usage:" ++ " " ++ bold ("minuta " ++ name.text) ++ " " ++
          " ".intercalate ("[OPTIONS]" :: name.required)] ++
        (if name.arity = 0 then [] else columns "Arguments:" [("<TEMPLATE>", "HTML template")]) ++
        columns "Options:" (name.forms.map (OptionForm.entry environment)))
  | help => lines
      ([aboutHelp, "", bold "Usage:" ++ " " ++ bold "minuta help" ++ " [COMMAND]..."] ++
        columns "Arguments:" [("[COMMAND]...", "Print help for the subcommand(s)")])

def Topic.text (environment : Option String) (topic : Topic) : String :=
  plain (topic.styled environment)

end Formulary.Command
