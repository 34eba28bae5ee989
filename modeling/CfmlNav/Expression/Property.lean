import CfmlNav.Character.Age
import CfmlNav.Character.Property
import CfmlNav.Character.Script
import CfmlNav.Character.Segmentation
import CfmlNav.Text.Ascii

/-!
# Properties of characters by name

A written pattern can ask for the characters with a property of Unicode. Properties and their
values are named loosely: case, blanks, hyphens, underscores, an `is` in front and everything
outside ASCII do not count. A name alone is that of a property with two values, of a category
or of a script, in this order; a name with a value says which property is meant.
-/

namespace CfmlNav.Expression

/-- The plain form of a name. A single `c` behind `is` is the name of something else, and keeps
it. -/
def plainName (name : Text) : String :=
  let (marked, name) := match name with
    | 'i' :: 's' :: rest | 'I' :: 's' :: rest | 'i' :: 'S' :: rest | 'I' :: 'S' :: rest =>
      (true, rest)
    | _ => (false, name)
  let isSignificant (c : Char) : Bool := c.toNat < 128 && c != ' ' && c != '_' && c != '-'
  let plain := Text.asciiLowercase (name.filter isSignificant)
  if marked && plain == ['c'] then "isc" else String.ofList plain

/-- The characters with the value of a property. -/
def valueSet? (property value : Text) : Option CharacterSet :=
  let value := plainName value
  let among (tables : List CharacterTable) : Option CharacterSet :=
    (CharacterTable.find? tables value).map CharacterTable.set
  match plainName property with
  | "gc" | "generalcategory" => among Category.named
  | "sc" | "script" => among Character.scripts
  | "scx" | "scriptextensions" =>
    (CharacterTable.find? Character.scripts value).map Character.extendedScript
  | "age" => Character.knownIn? value
  | "gcb" | "graphemeclusterbreak" => among Character.clusterBreaks
  | "wb" | "wordbreak" => among Character.wordBreaks
  | "sb" | "sentencebreak" => among Character.sentenceBreaks
  | _ => none

/-- The characters with a property, or in a category or script. -/
def nameSet? (name : Text) : Option CharacterSet :=
  let name := plainName name
  let table := CharacterTable.find? Character.properties name <|>
    CharacterTable.find? Category.named name <|> CharacterTable.find? Character.scripts name
  table.map CharacterTable.set

/-- What stands before the first occurrence of a mark and what stands behind it, if it occurs. -/
def splitAtMark? (mark : Text) : Text → Option (Text × Text)
  | [] => none
  | c :: rest =>
    if mark.isPrefixOf (c :: rest) then some ([], (c :: rest).drop mark.length)
    else (splitAtMark? mark rest).map fun (front, back) => (c :: front, back)

/-- The characters that a name between braces speaks of, and whether it asks for all others
instead: a property, or with one of the signs `!=`, `:` and `=`, looked for in this order, a
property and its value. -/
def propertySet? (text : Text) : Option (CharacterSet × Bool) :=
  match splitAtMark? ['!', '='] text with
  | some (property, value) => (valueSet? property value).map (·, true)
  | none =>
    match splitAtMark? [':'] text <|> splitAtMark? ['='] text with
    | some (property, value) => (valueSet? property value).map (·, false)
    | none => (nameSet? text).map (·, false)

end CfmlNav.Expression
