import Formulary.Config.Basic
import Formulary.Toml.Reader

/-!
Reading configurations. Each section is a table with a setting to a key; keys that name no setting
say nothing. A section may also be an array, which gives the settings in their order. A setting that
is not there keeps its standard value, and one of the wrong kind makes the configuration unreadable.
-/

namespace Formulary.Config

open Number Toml

/-! ## Single settings -/

def readString : Value → Option String
  | .string s => some s
  | _ => none

def readBool : Value → Option Bool
  | .boolean b => some b
  | _ => none

def readNat (bound : Nat) : Value → Option Nat
  | .integer n => if 0 ≤ n ∧ n ≤ bound then some n.toNat else none
  | _ => none

/-- A number; a whole one will do. -/
def readNumber {f : Format} : Value → Option (Binary f)
  | .integer n => some (.round n)
  | .float x => some x.convert
  | _ => none

def readList {α : Type} (element : Value → Option α) : Value → Option (List α)
  | .array vs => vs.mapM element
  | _ => none

/-- A page format by name. A table with that name for its only key will do, if nothing is in it. -/
def readPageFormat : Value → Option PageFormat
  | .string s => named s
  | .table [(name, .table [])] => named name
  | .table [(name, .array [])] => named name
  | _ => none
where
  named : String → Option PageFormat
    | "a4" => some .a4
    | "letter" => some .letter
    | "custom" => some .custom
    | _ => none

/-! ## Sections -/

/-- Where the settings of a section are found. -/
inductive Fields where
  | named (entries : List (String × Value))
  | listed (values : List Value)

namespace Fields

/-- The settings that a value gives. A moment gives none. -/
def ofValue? : Value → Option Fields
  | .table entries => some (named entries)
  | .array values => some (listed values)
  | .moment _ => some (named [])
  | _ => none

def get? (fields : Fields) (place : Nat) (name : String) : Option Value :=
  match fields with
  | named entries => findEntry name entries
  | listed values => values[place]?

/-- Reads a setting; `standard` is its value where it is not there. -/
def read {α : Type} (fields : Fields) (place : Nat) (name : String)
    (reader : Value → Option α) (standard : α) : Option α :=
  match fields.get? place name with
  | some v => reader v
  | none => some standard

def require {α : Type} (fields : Fields) (place : Nat) (name : String)
    (reader : Value → Option α) : Option α :=
  (fields.get? place name).bind reader

end Fields

def readFontFamily (v : Value) : Option FontFamily := do
  let fields ← Fields.ofValue? v
  let label ← fields.require 0 "label" readString
  let stack ← fields.require 1 "stack" readString
  pure ⟨label, stack⟩

def readPage (v : Value) : Option PageSettings := do
  let fields ← Fields.ofValue? v
  let standard := PageSettings.standard
  let format ← fields.read 0 "format" readPageFormat standard.format
  let width ← fields.read 1 "width_mm" (fun v => some <$> readNumber v) standard.width
  let height ← fields.read 2 "height_mm" (fun v => some <$> readNumber v) standard.height
  let scale ← fields.read 3 "render_scale" readNumber standard.scale
  let quality ← fields.read 4 "jpeg_quality" (readNat 255) standard.quality
  pure ⟨format, width, height, scale, quality⟩

def readStyle (v : Value) : Option Template.Style := do
  let fields ← Fields.ofValue? v
  let standard := Template.Style.standard
  let sentinel ← fields.read 0 "sentinel" readString standard.sentinel
  let highlight ← fields.read 1 "highlight_style" readString standard.highlight
  pure ⟨sentinel, highlight⟩

def readOutput (v : Value) : Option OutputSettings := do
  let fields ← Fields.ofValue? v
  let standard := OutputSettings.standard
  let opening ← fields.read 0 "file_prefix" readString standard.opening
  let defaultTitle ← fields.read 1 "default_title" readString standard.defaultTitle
  let actType ← fields.read 2 "act_type" readString standard.actType
  pure ⟨opening, defaultTitle, actType⟩

def readRecords (v : Value) : Option Record.Conventions := do
  let fields ← Fields.ofValue? v
  let standard := Record.Conventions.standard
  let dateToken ← fields.read 0 "date_token" readString standard.dateToken
  let longDateSuffix ← fields.read 1 "long_date_suffix" readString standard.longDateSuffix
  let timePrefix ← fields.read 2 "time_prefix" readString standard.timePrefix
  let eventTokens ← fields.read 3 "event_tokens" (readList readString) standard.eventTokens
  pure ⟨dateToken, longDateSuffix, timePrefix, eventTokens⟩

def largestPixels : Nat := UInt32.size - 1

def readEditor (v : Value) : Option EditorSettings := do
  let fields ← Fields.ofValue? v
  let standard := EditorSettings.standard
  let width ← fields.read 0 "width_px" (readNat largestPixels) standard.width
  let height ← fields.read 1 "height_px" (readNat largestPixels) standard.height
  let toolbar ← fields.read 2 "toolbar" (readList readString) standard.toolbar
  let fontSizes ← fields.read 3 "font_sizes" (readList readString) standard.fontSizes
  let fontFamilies ←
    fields.read 4 "font_families" (readList readFontFamily) standard.fontFamilies
  let baseFontSize ← fields.read 5 "base_font_size" readString standard.baseFontSize
  let spellcheck ← fields.read 6 "spellcheck" readBool standard.spellcheck
  let command ← fields.read 7 "command" (fun v => some <$> readString v) standard.command
  pure ⟨width, height, toolbar, fontSizes, fontFamilies, baseFontSize, spellcheck, command⟩

def ofEntries (entries : List (String × Value)) : Option Config := do
  let fields := Fields.named entries
  let standard := Config.standard
  let page ← fields.read 0 "page" readPage standard.page
  let style ← fields.read 1 "substitution" readStyle standard.style
  let output ← fields.read 2 "output" readOutput standard.output
  let records ← fields.read 3 "records" readRecords standard.records
  let editor ← fields.read 4 "editor" readEditor standard.editor
  pure ⟨page, style, output, records, editor⟩

def parse (text : String) : Except ConfigFault Config :=
  match (Toml.parse text).bind ofEntries with
  | some c => .ok c
  | none => .error .unreadable

/-- Reads a configuration and refuses one without a page size. -/
def parseUsable (text : String) : Except ConfigFault Config := do
  let c ← parse text
  match c.page.size with
  | .ok _ => .ok c
  | .error fault => .error (.size fault)

end Formulary.Config
