import CfmlNav.Comment.Lemmas
import CfmlNav.Proofs.Comment.MarkupDocument
import CfmlNav.Proofs.Inheritance
import CfmlNav.Proofs.LetterCase.Request
import CfmlNav.Proofs.Text.Boundary
import CfmlNav.Session
import CfmlNav.Settings.Value
import CfmlNav.Proofs.Comment.Blanking
import CfmlNav.Proofs.Comment.Stripping
import CfmlNav.Proofs.Pattern.Fit
import CfmlNav.Proofs.Pattern.Search
import CfmlNav.Proofs.Character
import CfmlNav.Proofs.Text.Block
import CfmlNav.Proofs.Variable.Form
import CfmlNav.Proofs.Variable.Collection
import CfmlNav.Proofs.Variable.WholeWord
import CfmlNav.Proofs.Variable.Neighbour
import CfmlNav.Proofs.Qualifier.Grammar
import CfmlNav.Proofs.Qualifier.Word
import CfmlNav.Proofs.Pattern.Capture
import CfmlNav.Proofs.Text.Order
import CfmlNav.Proofs.Variable.Order
import CfmlNav.Proofs.Variable.Source
import CfmlNav.Proofs.Request
import CfmlNav.Proofs.Qualifier.Other
import CfmlNav.Proofs.Comment.Extent
import CfmlNav.Proofs.Context.Comment
import CfmlNav.Proofs.Context.Word
import CfmlNav.Proofs.Application
import CfmlNav.Proofs.Session
import CfmlNav.Proofs.Resolution.Search
import CfmlNav.Proofs.Resolution.Spelling
import CfmlNav.Proofs.Reference
import CfmlNav.Proofs.Inheritance.Depth
import CfmlNav.Proofs.Inheritance.Qualified
import CfmlNav.Proofs.Variable.CommentedOut
import CfmlNav.Proofs.Name
import CfmlNav.Proofs.Component.Declaration
import CfmlNav.Proofs.Component.Accessor
import CfmlNav.Proofs.Path.Ancestor
import CfmlNav.Proofs.Application.Nearest
import CfmlNav.Proofs.LineBreak.Context
import CfmlNav.Proofs.Checked.Lookup
import CfmlNav.Proofs.Text.Position
import CfmlNav.Proofs.Text.Word
import CfmlNav.Proofs.Variable.Scope
