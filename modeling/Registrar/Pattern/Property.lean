import Registrar.Pattern.CharSet
import Registrar.Text.Break
import Registrar.Text.Edition
import Registrar.Text.Script

/-!
# Properties of characters by name

A pattern may ask for a property of characters by its name, long or short: a general category, a
script or a property that holds or does not; or for the characters for which a property has some
value. Names are compared without regard to case, spaces, hyphens, underscores and a leading `is`
(`normalName`).
-/

namespace Registrar.Pattern

open Text (Category)

/-- A name as it is compared, after a leading `is`: what is not within the first 128 characters is
left out, too. -/
def plainName (cs : List Char) : List Char :=
  (cs.filter fun c => c.toNat < 128 && c != ' ' && c != '_' && c != '-').map Char.toLower

/-- A property name as it is compared. The name `isc` is the only one that `is` belongs to. -/
def normalName (name : String) : String :=
  match name.toList with
  | a :: b :: rest =>
    if a.toLower = 'i' ∧ b.toLower = 's' then
      let kept := plainName rest
      if kept = ['c'] then "isc" else String.ofList kept
    else String.ofList (plainName (a :: b :: rest))
  | cs => String.ofList (plainName cs)

/-- General categories, and unions of them, by the names they go by. -/
def categoryNames : List (List String × List Category) :=
  [(["l", "letter"], [.lu, .ll, .lt, .lm, .lo]),
   (["lc", "casedletter"], [.lu, .ll, .lt]),
   (["lu", "uppercaseletter"], [.lu]),
   (["ll", "lowercaseletter"], [.ll]),
   (["lt", "titlecaseletter"], [.lt]),
   (["lm", "modifierletter"], [.lm]),
   (["lo", "otherletter"], [.lo]),
   (["m", "mark", "combiningmark"], [.mn, .mc, .me]),
   (["mn", "nonspacingmark"], [.mn]),
   (["mc", "spacingmark"], [.mc]),
   (["me", "enclosingmark"], [.me]),
   (["n", "number"], [.nd, .nl, .no]),
   (["nd", "decimalnumber", "digit"], [.nd]),
   (["nl", "letternumber"], [.nl]),
   (["no", "othernumber"], [.no]),
   (["p", "punctuation", "punct"], [.pc, .pd, .ps, .pe, .pi, .pf, .po]),
   (["pc", "connectorpunctuation"], [.pc]),
   (["pd", "dashpunctuation"], [.pd]),
   (["ps", "openpunctuation"], [.ps]),
   (["pe", "closepunctuation"], [.pe]),
   (["pi", "initialpunctuation"], [.pi]),
   (["pf", "finalpunctuation"], [.pf]),
   (["po", "otherpunctuation"], [.po]),
   (["s", "symbol"], [.sm, .sc, .sk, .so]),
   (["sm", "mathsymbol"], [.sm]),
   (["sc", "currencysymbol"], [.sc]),
   (["sk", "modifiersymbol"], [.sk]),
   (["so", "othersymbol"], [.so]),
   (["z", "separator"], [.zs, .zl, .zp]),
   (["zs", "spaceseparator"], [.zs]),
   (["zl", "lineseparator"], [.zl]),
   (["zp", "paragraphseparator"], [.zp]),
   (["c", "other"], [.cc, .cf, .co, .cn]),
   (["cc", "control", "cntrl"], [.cc]),
   (["cf", "format"], [.cf]),
   (["co", "privateuse"], [.co]),
   (["cn", "unassigned"], [.cn])]

/-- The set of a general category, by its name as compared. -/
def categorySet? (name : String) : Option CharSet :=
  match name with
  | "any" => some .any
  | "ascii" => some (.range 0 127)
  | "assigned" => some (.compl (.categories [.cn]))
  | _ => (categoryNames.find? (·.1.contains name)).map fun e => .categories e.2

/-- The characters of some ranges. -/
def rangeSet (lines : List String) : CharSet :=
  .unions ((Text.readRanges lines).map fun r => .range r.1 r.2)

/-- The characters that have a property. -/
def propertySet (p : Text.Property) : CharSet :=
  .diff (.union (.categories p.categories) (rangeSet p.others)) (rangeSet p.exceptions)

/-- The set of a property, by its name as compared. -/
def binarySet? (name : String) : Option CharSet :=
  match name with
  | "whitespace" | "wspace" | "space" => some .blank
  | _ => (Text.Property.ofName? name).map propertySet

/-- The set of a class among others, by its name as compared. -/
def classSet? (classes : List Text.Property) (name : String) : Option CharSet :=
  (classes.find? (·.names.contains name)).map propertySet

/-- The set of the characters of a script, by its name as compared. -/
def scriptSet? (name : String) : Option CharSet :=
  (Text.Script.ofName? name).map fun s => rangeSet s.own

/-- The set of the characters that are used with a script, by its name as compared. -/
def sharedScriptSet? (name : String) : Option CharSet :=
  (Text.Script.ofName? name).map fun s =>
    .diff (.union (rangeSet s.own) (rangeSet s.shared)) (rangeSet s.lent)

/-- The set a property name stands for: that of a property, of a category, or of a script. -/
def property? (name : String) : Option CharSet :=
  let n := normalName name
  (binarySet? n).or ((categorySet? n).or (scriptSet? n))

/-- The set of the characters for which a property has a value. -/
def propertyValue? (property value : String) : Option CharSet :=
  let v := normalName value
  match normalName property with
  | "gc" | "generalcategory" => categorySet? v
  | "sc" | "script" => scriptSet? v
  | "scx" | "scriptextensions" => sharedScriptSet? v
  | "age" => (Text.Edition.assigned? v).map rangeSet
  | "gcb" | "graphemeclusterbreak" => classSet? Text.Break.graphemes v
  | "wb" | "wordbreak" => classSet? Text.Break.words v
  | "sb" | "sentencebreak" => classSet? Text.Break.sentences v
  | _ => none

end Registrar.Pattern
