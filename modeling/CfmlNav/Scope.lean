import CfmlNav.Text.Basic
import CfmlNav.Name

/-!
# Scopes

The named scopes in which identifiers are looked up. All but `unknown` have a keyword that
qualifies an identifier in a document.
-/

namespace CfmlNav

/-- A scope of identifiers. -/
inductive Scope where
  | application
  | arguments
  | cgi
  | client
  | cookie
  | form
  | locals
  | request
  | server
  | session
  | super
  | this
  | url
  | vars
  | unknown
  deriving DecidableEq, Repr

namespace Scope

/-- The scopes that a document can name. -/
def qualifiers : List Scope :=
  [application, arguments, cgi, client, cookie, form, locals, request, server, session, super,
    this, url, vars]

/-- The keyword of a scope, as it is written in a document. -/
def keyword : Scope → String
  | application => "application"
  | arguments => "arguments"
  | cgi => "cgi"
  | client => "client"
  | cookie => "cookie"
  | form => "form"
  | locals => "local"
  | request => "request"
  | server => "server"
  | session => "session"
  | super => "super"
  | this => "this"
  | url => "url"
  | vars => "variables"
  | unknown => "unknown"

/-- The keyword of a scope as text. -/
def word (scope : Scope) : Text :=
  scope.keyword.toList

/-- The scope of a keyword, whatever the case of its ASCII letters; anything else is of no
known scope. -/
def parse (value : Text) : Scope :=
  (qualifiers.find? fun scope => scope.word == value.asciiLowercase).getD unknown

end Scope

end CfmlNav
