import CfmlNav.Reference

/-!
# Settings and options

Settings are what a user writes; options are what a request needs. Building the options reads
the user's patterns, which come behind the built-in ones.
-/

namespace CfmlNav

/-- A form of reference that a user wrote. -/
structure PatternSetting where
  name : Text
  pattern : Text
  deriving DecidableEq, Repr

/-- What a user can set. Absent settings leave the default. -/
structure Settings where
  inheritanceDepth : Option Nat := none
  applicationScope : Option Bool := none
  referencePatterns : List PatternSetting := []
  deriving DecidableEq, Repr

/-- What a request needs to know. -/
structure Options where
  /-- The forms of reference that are looked for. -/
  references : List ReferencePattern := ReferencePattern.builtIn
  /-- The most components that one walk along the inheritance chain visits. -/
  inheritanceDepth : Nat := 64
  /-- Whether variables of the application are looked up in the application file. -/
  applicationScope : Bool := true

/-- The options that settings ask for. The first pattern that cannot be used is the error. -/
def Settings.options (settings : Settings) : Except Error Options := do
  let defaults : Options := {}
  let extra ← settings.referencePatterns.mapM fun setting =>
    ReferencePattern.compile setting.name setting.pattern
  return {
    references := defaults.references ++ extra
    inheritanceDepth := settings.inheritanceDepth.getD defaults.inheritanceDepth
    applicationScope := settings.applicationScope.getD defaults.applicationScope }

end CfmlNav
