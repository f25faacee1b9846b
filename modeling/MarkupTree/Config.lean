import MarkupTree.Error
import MarkupTree.Text.Blank

/-! # Configurations of factories

A configuration says which kind of markup a factory builds, which tag name it takes when
a selector has none, and whether it gives tag names their canonical capitals back.
-/

namespace MarkupTree

/-- A kind of markup. -/
inductive Space where
  | html
  | svg
deriving Repr, DecidableEq

namespace Space

def name : Space → String
  | .html => "html"
  | .svg => "svg"

def ofName? (name : String) : Option Space :=
  if name = "html" then some .html else if name = "svg" then some .svg else none

/-- Reads the name of a kind of markup, in any case of its letters. -/
def parse (text : String) : Except ConfigError Space :=
  match ofName? text.toLower with
  | some space => .ok space
  | none => .error (.unknownSpace text)

end Space

/-- What a factory is made from. -/
structure FactoryConfig where
  space : Space
  defaultTagName : String
  adjustCase : Bool
deriving Repr, DecidableEq

namespace FactoryConfig

def html : FactoryConfig := ⟨.html, "div", false⟩

def svg : FactoryConfig := ⟨.svg, "g", true⟩

/-- The configuration that is taken when none is given. -/
def standard : FactoryConfig := html

/-- Checks that the default tag name is not blank. -/
def validate (config : FactoryConfig) : Except ConfigError Unit :=
  if Text.isBlankText config.defaultTagName then .error .emptyDefaultTagName else .ok ()

end FactoryConfig

end MarkupTree
