import MarkupTree.Tree.Property

/-! # Nodes of a markup tree

A node is a text, an element or a root, which holds nodes without being an element. An
element may have content beside its children: the nodes of a template, which are no part
of the element itself.
-/

namespace MarkupTree

/-- A node of a markup tree. -/
inductive Node where
  | text (value : String)
  | root (children : List Node)
  | element (tagName : String) (properties : Properties) (children : List Node)
      (content : Option (List Node))
deriving Repr, Inhabited

namespace Node

def typeName : Node → String
  | .text _ => "text"
  | .root _ => "root"
  | .element .. => "element"

def isRoot : Node → Bool
  | .root _ => true
  | _ => false

def isElement : Node → Bool
  | .element .. => true
  | _ => false

def isText : Node → Bool
  | .text _ => true
  | _ => false

def value? : Node → Option String
  | .text value => some value
  | _ => none

def tagName? : Node → Option String
  | .element tagName _ _ _ => some tagName
  | _ => none

/-- The children of a root or an element; a text has none. -/
def children : Node → List Node
  | .text _ => []
  | .root children => children
  | .element _ _ children _ => children

mutual

/-- The texts of a node and everything below it, in order, one after the other. The
content of an element follows its children. -/
def textContent : Node → String
  | .text value => value
  | .root children => textContents children
  | .element _ _ children none => textContents children
  | .element _ _ children (some content) => textContents children ++ textContents content

/-- The texts of several nodes, one after the other. -/
def textContents : List Node → String
  | [] => ""
  | node :: rest => textContent node ++ textContents rest

end

mutual

/-- Whether two nodes are the same: properties are compared without regard to order,
everything else in order. -/
def same : Node → Node → Bool
  | .text first, .text second => first == second
  | .root first, .root second => sameAll first second
  | .element firstTag firstProperties first firstContent,
    .element secondTag secondProperties second secondContent =>
    firstTag == secondTag && firstProperties.same secondProperties && sameAll first second &&
      sameContent firstContent secondContent
  | _, _ => false

/-- Whether two lists hold the same nodes in order. -/
def sameAll : List Node → List Node → Bool
  | [], [] => true
  | first :: firstRest, second :: secondRest => same first second && sameAll firstRest secondRest
  | _, _ => false

/-- Whether two contents are both absent or hold the same nodes. -/
def sameContent : Option (List Node) → Option (List Node) → Bool
  | none, none => true
  | some first, some second => sameAll first second
  | _, _ => false

end

end Node

end MarkupTree
