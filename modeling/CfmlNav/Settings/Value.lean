import CfmlNav.Settings.Basic

/-!
# Settings as structured values

Settings arrive as a structured value, either an object with named fields or a list with the
fields in their order. Fields may be missing and unknown ones are passed over, but a field that
is there has to be of its kind.
-/

namespace CfmlNav

/-- A structured value. -/
inductive Value where
  | null
  | bool (value : Bool)
  /-- A number without sign, point and exponent. -/
  | natural (value : Nat)
  /-- Any other number. -/
  | number
  | text (value : Text)
  | list (values : List Value)
  | object (fields : List (Text × Value))
  deriving Inhabited

namespace Value

/-- The field of an object, if it is there. -/
def field? (fields : List (Text × Value)) (name : String) : Option Value :=
  fields.lookup name.toList

/-- A number that fits a machine word, or nothing for a value that is absent. -/
def depth? : Option Value → Option (Option Nat)
  | none | some null => some none
  | some (natural n) => if n < 0x10000000000000000 then some (some n) else none
  | _ => none

/-- A truth value, or nothing for a value that is absent. -/
def flag? : Option Value → Option (Option Bool)
  | none | some null => some none
  | some (bool value) => some (some value)
  | _ => none

/-- A pattern with its name: as an object, or as a list of the two. -/
def patternSetting? : Value → Option PatternSetting
  | object fields =>
    match field? fields "name", field? fields "pattern" with
    | some (text name), some (text pattern) => some ⟨name, pattern⟩
    | _, _ => none
  | list [text name, text pattern] => some ⟨name, pattern⟩
  | _ => none

/-- A list of patterns; a list that is absent is empty. -/
def patternSettings? : Option Value → Option (List PatternSetting)
  | none => some []
  | some (list values) => values.mapM patternSetting?
  | _ => none

/-- The settings that a value describes. -/
def settings? : Value → Option Settings
  | object fields => do
    return {
      inheritanceDepth := ← depth? (field? fields "maxInheritanceDepth")
      applicationScope := ← flag? (field? fields "applicationScope")
      referencePatterns := ← patternSettings? (field? fields "referencePatterns") }
  | list values =>
    if values.length ≤ 3 then do
      return {
        inheritanceDepth := ← depth? values[0]?
        applicationScope := ← flag? values[1]?
        referencePatterns := ← patternSettings? values[2]? }
    else none
  | _ => none

end Value

end CfmlNav
