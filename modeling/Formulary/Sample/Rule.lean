import Formulary.Calendar.Written
import Formulary.Sample.Draw
import Formulary.Sample.Pool
import Formulary.Template.Fill
import Formulary.Text.Lowercase
import Formulary.Text.Search
import Formulary.Text.Slice

/-!
Invented values. What is invented for a variable is settled by its name: the first rule with a
pattern that occurs in the name, in small letters, draws the value. Several rules may have such a
pattern, so that their order matters; a name that no rule knows gets a few letters and figures.
-/

namespace Formulary.Sample

open Draw Template

/-- How the day that lies a number of days before today is written. -/
structure Almanac where
  short : Nat → String
  long : Nat → String

/-- The day a number of days before another, or that day itself where there is none. -/
def dayBefore (reference : Calendar.Date) (days : Nat) : Calendar.Date :=
  (reference.back? days).getD reference

def Almanac.on (today : Calendar.Date) : Almanac :=
  ⟨fun days => (dayBefore today days).short, fun days => (dayBefore today days).long⟩

/-- A way to invent the values of some variables. -/
structure Rule (σ : Type) where
  label : String
  /-- The rule is for names in which one of these occurs. -/
  patterns : List String
  draw : Draw σ String

def Rule.appliesTo {σ : Type} (r : Rule σ) (lowered : String) : Bool :=
  r.patterns.any fun pattern => Text.occursIn pattern lowered

variable {σ : Type} [WordSource σ]

/-! ## Persons and places -/

inductive Sex where
  | male
  | female
deriving DecidableEq, Repr

def Sex.firstNames : Sex → List String
  | male => Pool.maleFirstNames
  | female => Pool.femaleFirstNames

/-- Words of 64 bits below this are one half of all. -/
def half : Nat := 9223372036854775808

def twoFifths : Nat := 7378697629483821056

/-- A first name, two surnames, and between these perhaps a particle. A sex is drawn even where it
is given. -/
def fullName (given : Option Sex) : Draw σ String := do
  let drawn := if ← chance half then Sex.male else Sex.female
  let first ← oneOf (given.getD drawn).firstNames
  let middle ← oneOf Pool.surnames
  let last ← oneOf Pool.surnames
  if ← chance twoFifths then
    let particle ← oneOf Pool.particles
    pure (first ++ " " ++ middle ++ " " ++ particle ++ " " ++ last)
  else
    pure (first ++ " " ++ middle ++ " " ++ last)

def couple : Draw σ String := do
  let he ← fullName (some .male)
  let she ← fullName (some .female)
  pure (he ++ " e " ++ she)

/-- A street and a house number, a dwelling and its number. -/
def address : Draw σ String := do
  let kind ← oneOf Pool.streetTypes
  let name ← oneOf Pool.streetNames
  let house ← between 1 2000
  let dwelling ← oneOf Pool.dwellings
  let number ← between 1 500
  pure (kind ++ " " ++ name ++ ", " ++ toString house ++ ", " ++ dwelling ++ " " ++ toString number)

/-! ## Figures and dates -/

def figures (n : Nat) : Draw σ String := String.ofList <$> digits n

/-- Eleven digits: three groups of three with points between them, and two behind a hyphen. -/
def taxNumber : Draw σ String := do
  let drawn ← figures 11
  let group := Text.slice drawn.toByteArray
  pure (group 0 3 ++ "." ++ group 3 6 ++ "." ++ group 6 9 ++ "-" ++ group 9 11)

/-- How many days an invented date may lie in the past: thirty years without leap days. -/
def pastDays : Nat := 30 * 365

def daysBack : Draw σ Nat := (1 + ·) <$> below64 pastDays

/-- The day that dates of birth are counted back from, or the first day of 1970 where the calendar
has no such day. -/
def birthReference : Calendar.Date := (Calendar.Date.of? 2004 1 1).getD ⟨1970, 1, 1⟩

def birthDate : Draw σ String := do
  let days ← daysBack
  pure (dayBefore birthReference days).short

/-- The time of day in hours and minutes, or midnight where there is none; the day is any. -/
def timeOfDay (hour minute : Nat) : Calendar.Timestamp :=
  (Calendar.Timestamp.of? birthReference hour minute 0 0).getD ⟨birthReference, 0, 0, 0, 0⟩

def officeHour : Draw σ String := do
  let hour ← between 8 19
  let minute ← between 0 60
  pure (timeOfDay hour minute).clock

/-! ## Rules -/

/-- The rules of a civil registry, the more particular ones first. -/
def standardRules (almanac : Almanac) : List (Rule σ) :=
  [⟨"full_name", ["nome_completo", "nome_registrado"], fullName none⟩,
   ⟨"male_name", ["nome_pai", "nome_contraente_1"], fullName (some .male)⟩,
   ⟨"female_name", ["nome_mae", "nome_contraente_2"], fullName (some .female)⟩,
   ⟨"grandparents", ["avos"], couple⟩,
   ⟨"officer_name", ["nome_oficial"], fullName none⟩,
   ⟨"married_surname", ["nome_apos_casamento"], oneOf Pool.surnames⟩,
   ⟨"cpf", ["cpf"], taxNumber⟩,
   ⟨"registration_number", ["matricula", "termo"], figures 16⟩,
   ⟨"long_date", ["data_extenso"], almanac.long <$> daysBack⟩,
   ⟨"birth_date", ["nascimento"], birthDate⟩,
   ⟨"date", ["data"], almanac.short <$> daysBack⟩,
   ⟨"time", ["hora"], officeHour⟩,
   ⟨"city", ["cidade", "naturalidade"], oneOf Pool.cities⟩,
   ⟨"address", ["residencia", "endereco"], address⟩,
   ⟨"state", ["uf", "estado"], oneOf Pool.states⟩,
   ⟨"occupation", ["profissao"], oneOf Pool.occupations⟩,
   ⟨"nationality", ["nacionalidade"], pure "Brasileiro(a)"⟩,
   ⟨"book", ["livro"], ("B-" ++ ·) <$> figures 3⟩,
   ⟨"page", ["folha"], figures 3⟩,
   ⟨"property_regime", ["regime_bens"], oneOf Pool.propertyRegimes⟩,
   ⟨"officer_role", ["cargo"], oneOf Pool.officerRoles⟩]

/-- The first rule for a name. -/
def ruleFor (rules : List (Rule σ)) (name : String) : Option (Rule σ) :=
  let lowered := Text.lowercase name
  rules.find? fun r => r.appliesTo lowered

def fallbackLength : Nat := 5

/-- A value for a name. -/
def invent (rules : List (Rule σ)) (name : String) : Draw σ String :=
  match ruleFor rules name with
  | some r => r.draw
  | none => String.ofList <$> alphanumericText fallbackLength

/-- A value for each name, drawn in turn. -/
def autofill (rules : List (Rule σ)) (names : List String) : Draw σ Values := do
  let entries ← names.mapM fun name => (name, ·) <$> invent rules name
  pure (Table.ofList entries)

end Formulary.Sample
