/-! # What can go wrong

Building a node fails on a value that is no child and on an object that names a kind of
node but does not describe one. A factory cannot be made for an unknown kind of markup
or without a default tag name.
-/

namespace MarkupTree

/-- Why an object does not describe a node. -/
inductive NodeFault where
  | noValue
  | noTagName
  | badProperties
  | unsupported
deriving Repr, DecidableEq

def NodeFault.reason : NodeFault → String
  | .noValue => "missing `value`"
  | .noTagName => "missing string `tagName`"
  | .badProperties => "`properties` is not a mapping"
  | .unsupported => "unsupported node type"

/-- Why a node cannot be built. -/
inductive BuildError where
  | invalidChild (value : String)
  | invalidNode (nodeType : String) (fault : NodeFault)
deriving Repr, DecidableEq

def BuildError.message : BuildError → String
  | .invalidChild value => "Expected node, nodes, or string, got `" ++ value ++ "`"
  | .invalidNode nodeType fault => "Cannot create `" ++ nodeType ++ "` node: " ++ fault.reason

/-- Why a factory cannot be made. -/
inductive ConfigError where
  | unknownSpace (name : String)
  | emptyDefaultTagName
deriving Repr, DecidableEq

def ConfigError.message : ConfigError → String
  | .unknownSpace name => "Unknown schema space '" ++ name ++ "', expected 'html' or 'svg'"
  | .emptyDefaultTagName => "Default tag name must not be empty"

end MarkupTree
