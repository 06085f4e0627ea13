import Formulary.Command.Arguments
import Formulary.Text.Numeral

/-!
What the program can be asked to do. A command line names a command and its options; the options
that are common to all commands may stand before the command or behind it. A command line that asks
for something else is a misuse.
-/

namespace Formulary.Command

inductive Name where
  | vars
  | fill
  | «export»
  | plan
deriving DecidableEq, Repr

def Name.ofText? : String → Option Name
  | "vars" => some .vars
  | "fill" => some .fill
  | "export" => some .export
  | "plan" => some .plan
  | _ => none

inductive Topic where
  | program
  | command (name : Name)
  | help
deriving DecidableEq, Repr

/-- Where the values of a template come from. -/
structure ValueSources where
  autofill : Bool
  seed : Option Nat
  /-- The identifier of a record, and the file with the records. -/
  record : Option (String × String)
  values : Option String
  assignments : List (String × String)
deriving DecidableEq, Repr

inductive Request where
  | vars (template : String) (json : Bool)
  | fill (template : String) (sources : ValueSources) (edit : Bool) (out : Option String)
  | «export» (template bitmap : String) (sources : ValueSources) (edit : Bool) (outDir : String)
      (json : Bool)
  | plan (width height : Nat) (json : Bool)
deriving DecidableEq, Repr

inductive Asked where
  | run (config : Option String) (request : Request)
  | help (topic : Topic)
  | version
  | misuse
deriving DecidableEq, Repr

def ValueSources.paths (sources : ValueSources) : List String :=
  (sources.record.map (·.2)).toList ++ sources.values.toList

def Request.paths : Request → List String
  | vars template _ => [template]
  | fill template sources _ out => template :: sources.paths ++ out.toList
  | .export template bitmap sources _ outDir _ => template :: bitmap :: sources.paths ++ [outDir]
  | plan .. => []

/-! ## Options -/

def verboseForm : OptionForm := ⟨"verbose", some 'v', none, "Log debug output to stderr"⟩

def configForm : OptionForm :=
  ⟨"config", none, "CONFIG", "Configuration file (defaults to ./minuta.toml when present)"⟩

def helpForm : OptionForm := ⟨"help", some 'h', none, "Print help"⟩

def versionForm : OptionForm := ⟨"version", some 'V', none, "Print version"⟩

def jsonForm : OptionForm := ⟨"json", none, none, "Output as JSON"⟩

def editForm : OptionForm :=
  ⟨"edit", none, none, "Revise the generated document in an external editor first"⟩

def sourceForms : List OptionForm :=
  [⟨"autofill", none, none, "Fill every placeholder with synthetic data"⟩,
   ⟨"seed", none, "SEED", "Seed for --autofill"⟩,
   ⟨"record", none, "RECORD", "Record id to look up in --records"⟩,
   ⟨"records", none, "RECORDS", "JSON record store"⟩]

def valuesForm : OptionForm :=
  ⟨"values", none, "VALUES", "TOML file with `name = \"value\"` pairs"⟩

def setForm : OptionForm := ⟨"set", none, "NAME=VALUE", "Set a single value (repeatable)"⟩

/-- The options that stand before a command, in the order of their help. -/
def topForms : List OptionForm := [verboseForm, configForm, helpForm, versionForm]

def Name.forms : Name → List OptionForm
  | vars => [jsonForm, verboseForm, configForm, helpForm]
  | fill =>
    sourceForms ++ [verboseForm, valuesForm, configForm, setForm, editForm,
      ⟨"out", some 'o', "OUT", "Output file (stdout when omitted)"⟩, helpForm]
  | .export =>
    ⟨"bitmap", none, "BITMAP",
      "Capture of the filled document (PNG or JPEG) from an external renderer"⟩ :: sourceForms ++
      [verboseForm, configForm, valuesForm, setForm, editForm,
       ⟨"out-dir", none, "OUT_DIR", "Directory the PDF is written to [default: .]"⟩,
       jsonForm, helpForm]
  | plan =>
    [⟨"width", none, "WIDTH", "Capture width in pixels"⟩,
     ⟨"height", none, "HEIGHT", "Capture height in pixels"⟩,
     jsonForm, verboseForm, configForm, helpForm]

/-- How many operands a command takes: a template, but for a plan. -/
def Name.arity : Name → Nat
  | plan => 0
  | _ => 1

/-! ## Values of options -/

def repeatable : List String := ["set"]

def pathOptions : List String := ["config", "records", "values", "out", "bitmap", "out-dir"]

/-- A whole number, perhaps with a sign; a minus is allowed before zero where `signed` holds. -/
def readWhole (signed : Bool) (bound : Nat) (text : String) : Option Nat :=
  let (negative, ds) := match text.toList with
    | '+' :: ds => (false, ds)
    | '-' :: ds => (true, ds)
    | ds => (false, ds)
  if ds.isEmpty || !ds.all Text.isDigit || (negative && !signed) then none
  else
    let n := Text.digitsValue ds
    if bound < n ∨ (negative ∧ n ≠ 0) then none else some n

def readPixels : String → Option Nat := readWhole true (UInt32.size - 1)

def readSeed : String → Option Nat := readWhole false (UInt64.size - 1)

/-- A name and a value, with an equals sign between them; the name is not empty. -/
def readAssignment (text : String) : Option (String × String) :=
  match splitAtEquals text.toList with
  | ([], _) => none
  | (name, some value) => some (String.ofList name, String.ofList value)
  | (_, none) => none

def isReadable (name value : String) : Bool :=
  if name ∈ pathOptions then !value.isEmpty
  else
    match name with
    | "seed" => (readSeed value).isSome
    | "width" | "height" => (readPixels value).isSome
    | "set" => (readAssignment value).isSome
    | _ => true

def Item.isReadable : Item → Bool
  | .setting name value => Command.isReadable name value
  | .operand text => !text.isEmpty
  | _ => true

/-! ## Requests -/

/-- Whether items are in order as far as they go: options once, readable values, few operands. -/
def areInOrder (forms : List OptionForm) (arity : Nat) (items : List Item) : Bool :=
  noneTwice forms repeatable items && items.all Item.isReadable &&
    decide ((operands items).length ≤ arity)

def valueOf? (name : String) (items : List Item) : Option String := (valuesOf name items).head?

/-- The value sources that items name. A seed wants values to be invented, and a record and a file
with records want each other. -/
def sourcesOf (items : List Item) : Option ValueSources := do
  let autofill := isGiven "autofill" items
  let seed := (valueOf? "seed" items).bind readSeed
  if seed.isSome && !autofill then none
  let record ← match valueOf? "record" items, valueOf? "records" items with
    | some id, some path => some (some (id, path))
    | none, none => some none
    | _, _ => none
  some ⟨autofill, seed, record, valueOf? "values" items,
    (valuesOf "set" items).filterMap readAssignment⟩

def Name.request (name : Name) (items : List Item) : Option Request := do
  let json := isGiven "json" items
  let edit := isGiven "edit" items
  match name with
  | vars => do
    let template ← (operands items).head?
    some (.vars template json)
  | fill => do
    let template ← (operands items).head?
    let sources ← sourcesOf items
    some (.fill template sources edit (valueOf? "out" items))
  | .export => do
    let template ← (operands items).head?
    let bitmap ← valueOf? "bitmap" items
    let sources ← sourcesOf items
    some (.export template bitmap sources edit ((valueOf? "out-dir" items).getD ".") json)
  | plan => do
    let width ← (valueOf? "width" items).bind readPixels
    let height ← (valueOf? "height" items).bind readPixels
    some (.plan width height json)

/-- What the arguments behind a command ask for. `config` is the configuration named before them;
one that is named behind the command comes first, one in the environment last. The environment is
looked at in both places where the configuration may be named, so that an empty name there is a
misuse unless it is named in both. -/
def askedBehind (config environment : Option String) (name : Name) (arguments : List String) :
    Asked :=
  match readArguments name.forms false .anything arguments with
  | none => .misuse
  | some items =>
    if !areInOrder name.forms name.arity items then .misuse
    else if isGiven "help" items then .help (.command name)
    else
      match name.request items with
      | none => .misuse
      | some request =>
        let named := valueOf? "config" items
        if environment = some "" ∧ (named.isNone ∨ config.isNone) then .misuse
        else .run (named <|> config <|> environment) request

/-- What is asked for with the word for help, and perhaps a command, behind it. -/
def askedForHelp : List String → Asked
  | [] => .help .program
  | ["help"] => .help .help
  | [name] =>
    match Name.ofText? name with
    | some name => .help (.command name)
    | none => .misuse
  | _ => .misuse

/-- What a command line asks for; `environment` is the configuration that the environment names. -/
def asked (environment : Option String) (arguments : List String) : Asked :=
  match readArguments topForms true .anything arguments with
  | none => .misuse
  | some items =>
    if !areInOrder topForms 0 items then .misuse
    else if isGiven "help" items then .help .program
    else if isGiven "version" items then .version
    else
      match items.getLast? with
      | some (.command name arguments) =>
        if name = "help" then askedForHelp arguments
        else
          match Name.ofText? name with
          | some name => askedBehind (valueOf? "config" items) environment name arguments
          | none => .misuse
      | _ => .misuse

end Formulary.Command
