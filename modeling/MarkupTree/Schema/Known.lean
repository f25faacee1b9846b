import MarkupTree.Schema.Basic
import MarkupTree.Schema.Vocabulary.Shared
import MarkupTree.Schema.Vocabulary.Html
import MarkupTree.Schema.Vocabulary.Svg

/-! # The schemas of HTML and SVG

Both schemas index the shared vocabularies first and their own last. SVG also has tag
names with capitals, which are listed in their canonical spelling.
-/

namespace MarkupTree

def PropertyIndex.html : PropertyIndex := .build (Vocabulary.shared ++ [Vocabulary.html])

def PropertyIndex.svg : PropertyIndex := .build (Vocabulary.shared ++ [Vocabulary.svg])

def Schema.html : Schema := .ofIndex "html" .html

def Schema.svg : Schema := .ofIndex "svg" .svg

def svgMixedCaseTagNames : List String := [
  "altGlyph", "altGlyphDef", "altGlyphItem", "animateColor", "animateMotion", "animateTransform",
  "clipPath", "feBlend", "feColorMatrix", "feComponentTransfer", "feComposite",
  "feConvolveMatrix", "feDiffuseLighting", "feDisplacementMap", "feDistantLight", "feDropShadow",
  "feFlood", "feFuncA", "feFuncB", "feFuncG", "feFuncR", "feGaussianBlur", "feImage", "feMerge",
  "feMergeNode", "feMorphology", "feOffset", "fePointLight", "feSpecularLighting", "feSpotLight",
  "feTile", "feTurbulence", "foreignObject", "glyphRef", "linearGradient", "radialGradient",
  "solidColor", "textArea", "textPath"
]

end MarkupTree
