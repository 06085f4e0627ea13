/-!
Command lines. An argument is an option, an operand, or the value of the option before it. Options
are written long, as `--name value` or `--name=value`, or short, as `-n value`, `-nvalue` or
`-n=value`; short options without a value may share a hyphen. Two hyphens alone make operands of all
that follows.
-/

namespace Formulary.Command

structure OptionForm where
  name : String
  short : Option Char
  /-- What its value is called; an option without one only stands there. -/
  value : Option String
  about : String
deriving DecidableEq, Repr

def OptionForm.takesValue (f : OptionForm) : Bool := f.value.isSome

/-- One thing that a command line says. -/
inductive Item where
  | flag (name : String)
  | setting (name value : String)
  | operand (text : String)
  | command (name : String) (arguments : List String)
deriving DecidableEq, Repr

inductive Expecting where
  | anything
  | valueOf (name : String)
  | operandsOnly
deriving DecidableEq, Repr

def findLong? (forms : List OptionForm) (name : String) : Option OptionForm :=
  forms.find? fun f => f.name == name

def findShort? (forms : List OptionForm) (letter : Char) : Option OptionForm :=
  forms.find? fun f => f.short == some letter

/-- What is behind the equals sign, if there is one, and what is before it. -/
def splitAtEquals : List Char → List Char × Option (List Char)
  | [] => ([], none)
  | c :: s =>
    if c = '=' then ([], some s)
    else
      let (before, after) := splitAtEquals s
      (c :: before, after)

def dropEquals : List Char → List Char
  | '=' :: s => s
  | s => s

def readLong (forms : List OptionForm) (s : List Char) : Option (List Item × Expecting) := do
  let (name, value) := splitAtEquals s
  let f ← findLong? forms (String.ofList name)
  match f.takesValue, value with
  | true, some value => some ([.setting f.name (String.ofList value)], .anything)
  | true, none => some ([], .valueOf f.name)
  | false, none => some ([.flag f.name], .anything)
  | false, some _ => none

/-- The flags after which nothing more is read. -/
def lastWords : List String := ["help", "version"]

/-- Reads options by their letters; what follows the letter of one that takes a value is its value,
and what follows a last word is not looked at. -/
def readShort (forms : List OptionForm) : List Char → Option (List Item × Expecting)
  | [] => some ([], .anything)
  | c :: s => do
    let f ← findShort? forms c
    if f.takesValue then
      if s.isEmpty then some ([], .valueOf f.name)
      else some ([.setting f.name (String.ofList (dropEquals s))], .anything)
    else if f.name ∈ lastWords then some ([.flag f.name], .anything)
    else
      let (items, expecting) ← readShort forms s
      some (.flag f.name :: items, expecting)

def upToLastWord : List Item → Option (List Item)
  | [] => none
  | .flag name :: rest =>
    if name ∈ lastWords then some [.flag name] else (upToLastWord rest).map (.flag name :: ·)
  | i :: rest => (upToLastWord rest).map (i :: ·)

/-- Reads arguments. Where `commands` holds, the first operand is a command and ends the reading. -/
def readArguments (forms : List OptionForm) (commands : Bool) :
    Expecting → List String → Option (List Item)
  | .valueOf _, [] => none
  | _, [] => some []
  | .operandsOnly, argument :: rest =>
    if commands then none
    else (.operand argument :: ·) <$> readArguments forms commands .operandsOnly rest
  | .valueOf name, argument :: rest =>
    match argument.toList with
    | '-' :: _ :: _ => none
    | _ => (.setting name argument :: ·) <$> readArguments forms commands .anything rest
  | .anything, argument :: rest =>
    match argument.toList with
    | ['-', '-'] => readArguments forms commands .operandsOnly rest
    | '-' :: '-' :: s => do
      let (items, expecting) ← readLong forms s
      match upToLastWord items with
      | some items => some items
      | none => (items ++ ·) <$> readArguments forms commands expecting rest
    | '-' :: c :: s => do
      let (items, expecting) ← readShort forms (c :: s)
      match upToLastWord items with
      | some items => some items
      | none => (items ++ ·) <$> readArguments forms commands expecting rest
    | _ =>
      if commands then some [.command argument rest]
      else (.operand argument :: ·) <$> readArguments forms commands .anything rest

/-! ## What was said -/

def isGiven (name : String) (items : List Item) : Bool := items.contains (.flag name)

def valuesOf (name : String) : List Item → List String
  | [] => []
  | .setting n value :: rest =>
    if n = name then value :: valuesOf name rest else valuesOf name rest
  | _ :: rest => valuesOf name rest

def operands : List Item → List String
  | [] => []
  | .operand text :: rest => text :: operands rest
  | _ :: rest => operands rest

def timesGiven (name : String) (items : List Item) : Nat :=
  (items.filter fun
    | .flag n => n == name
    | .setting n _ => n == name
    | _ => false).length

/-- No option is given twice, but for those that may be. -/
def noneTwice (forms : List OptionForm) (repeatable : List String) (items : List Item) : Bool :=
  forms.all fun f => repeatable.contains f.name || timesGiven f.name items ≤ 1

end Formulary.Command
