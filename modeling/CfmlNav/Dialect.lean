/-!
# Dialects

A document is written either as script throughout or as tag markup, which may contain blocks
of script.
-/

namespace CfmlNav

/-- How a document is written. -/
inductive Dialect where
  /-- Script throughout. -/
  | script
  /-- Markup with tags, and script only inside script blocks. -/
  | tag
  deriving DecidableEq, Repr

namespace Dialect

/-- Whether a document is script throughout. -/
def isScript : Dialect → Bool
  | script => true
  | tag => false

/-- The dialect of a document that is script throughout, or is not. -/
def ofScript (isScript : Bool) : Dialect :=
  if isScript then script else tag

end Dialect

end CfmlNav
