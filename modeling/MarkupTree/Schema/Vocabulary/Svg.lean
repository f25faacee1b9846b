import MarkupTree.Schema.Vocabulary

/-! # The vocabulary of SVG

The properties of SVG elements. An attribute is spelled like the property key unless its
spelling is given, as for the presentation attributes with hyphens.
-/

namespace MarkupTree.Vocabulary

/-- The properties of SVG by the kind of their values. -/
def svgDefinitions : List Definition :=
  [
    "accumulate", "additive", "attributeName", "attributeType", "bandwidth", "baseFrequency",
    "baseProfile", "bbox", "begin", "by", "calcMode", "clip", "clipPathUnits", "color",
    "contentScriptType", "contentStyleType", "crossOrigin", "cursor", "cx", "cy", "d",
    "defaultAction", "direction", "display", "dur", "dx", "dy", "edgeMode", "editable", "end",
    "event", "externalResourcesRequired", "fill", "filter", "filterRes", "filterUnits",
    "focusable", "focusHighlight", "format", "fr", "from", "fx", "fy", "glyphRef",
    "gradientTransform", "gradientUnits", "handler", "hatchContentUnits", "hatchUnits", "height",
    "href", "id", "initialVisibility", "in", "in2", "kernelUnitLength", "keyPoints",
    "keySplines", "keyTimes", "kerning", "lang", "lengthAdjust", "local", "markerHeight",
    "markerUnits", "markerWidth", "mask", "maskContentUnits", "maskUnits", "mathematical", "max",
    "media", "mediaCharacterEncoding", "mediaContentEncodings", "mediaTime", "method", "min",
    "mode", "name", "numOctaves", "observer", "offset", "opacity", "operator", "order", "orient",
    "orientation", "origin", "overflow", "path", "patternContentUnits", "patternTransform",
    "patternUnits", "phase", "pitch", "playbackOrder", "points", "preserveAlpha",
    "preserveAspectRatio", "primitiveUnits", "propagate", "r", "radius", "refX", "refY",
    "repeatCount", "repeatDur", "resource", "restart", "result", "rotate", "rx", "ry", "scale",
    "seed", "side", "slope", "snapshotTime", "spreadMethod", "spacing", "startOffset",
    "stdDeviation", "stemh", "stemv", "stitchTiles", "string", "stroke", "style", "syncBehavior",
    "syncBehaviorDefault", "syncMaster", "syncTolerance", "syncToleranceDefault", "tableValues",
    "target", "textLength", "timelineBegin", "title", "to", "transform", "transformBehavior",
    "type", "u1", "u2", "unicode", "values", "version", "viewBox", "viewTarget", "visibility",
    "width", "widths", "x", "x1", "x2", "xChannelSelector", "y", "y1", "y2", "yChannelSelector",
    "z", "zoomAndPan"
  ].map (Definition.regular .plain) ++ [
    ("alignmentBaseline", "alignment-baseline"), ("arabicForm", "arabic-form"),
    ("baselineShift", "baseline-shift"), ("clipPath", "clip-path"), ("clipRule", "clip-rule"),
    ("colorInterpolation", "color-interpolation"),
    ("colorInterpolationFilters", "color-interpolation-filters"),
    ("colorProfile", "color-profile"), ("colorRendering", "color-rendering"),
    ("dataType", "datatype"), ("dominantBaseline", "dominant-baseline"),
    ("enableBackground", "enable-background"), ("fillRule", "fill-rule"),
    ("floodColor", "flood-color"), ("fontFamily", "font-family"), ("fontSize", "font-size"),
    ("fontSizeAdjust", "font-size-adjust"), ("fontStretch", "font-stretch"),
    ("fontStyle", "font-style"), ("fontVariant", "font-variant"), ("fontWeight", "font-weight"),
    ("glyphOrientationHorizontal", "glyph-orientation-horizontal"),
    ("glyphOrientationVertical", "glyph-orientation-vertical"), ("hrefLang", "hreflang"),
    ("imageRendering", "image-rendering"), ("letterSpacing", "letter-spacing"),
    ("lightingColor", "lighting-color"), ("markerEnd", "marker-end"),
    ("markerMid", "marker-mid"), ("markerStart", "marker-start"), ("navDown", "nav-down"),
    ("navDownLeft", "nav-down-left"), ("navDownRight", "nav-down-right"),
    ("navLeft", "nav-left"), ("navNext", "nav-next"), ("navPrev", "nav-prev"),
    ("navRight", "nav-right"), ("navUp", "nav-up"), ("navUpLeft", "nav-up-left"),
    ("navUpRight", "nav-up-right"), ("paintOrder", "paint-order"), ("panose1", "panose-1"),
    ("pointerEvents", "pointer-events"), ("renderingIntent", "rendering-intent"),
    ("shapeRendering", "shape-rendering"), ("stopColor", "stop-color"),
    ("strokeDashOffset", "stroke-dashoffset"), ("strokeLineCap", "stroke-linecap"),
    ("strokeLineJoin", "stroke-linejoin"), ("strokeWidth", "stroke-width"),
    ("textAnchor", "text-anchor"), ("textDecoration", "text-decoration"),
    ("textRendering", "text-rendering"), ("transformOrigin", "transform-origin"),
    ("unicodeBidi", "unicode-bidi"), ("unicodeRange", "unicode-range"),
    ("vectorEffect", "vector-effect"), ("wordSpacing", "word-spacing"),
    ("writingMode", "writing-mode")
  ].map (Definition.spelled .plain) ++ [
    "alphabetic", "amplitude", "ascent", "azimuth", "bias", "descent", "diffuseConstant",
    "divisor", "elevation", "exponent", "hanging", "ideographic", "intercept", "k", "k1", "k2",
    "k3", "k4", "limitingConeAngle", "mediaSize", "pathLength", "pointsAtX", "pointsAtY",
    "pointsAtZ", "specularConstant", "specularExponent", "surfaceScale", "targetX", "targetY"
  ].map (Definition.regular .number) ++ [
    ("accentHeight", "accent-height"), ("capHeight", "cap-height"),
    ("fillOpacity", "fill-opacity"), ("floodOpacity", "flood-opacity"),
    ("horizAdvX", "horiz-adv-x"), ("horizOriginX", "horiz-origin-x"),
    ("horizOriginY", "horiz-origin-y"), ("overlinePosition", "overline-position"),
    ("overlineThickness", "overline-thickness"), ("stopOpacity", "stop-opacity"),
    ("strikethroughPosition", "strikethrough-position"),
    ("strikethroughThickness", "strikethrough-thickness"), ("strokeOpacity", "stroke-opacity"),
    ("tabIndex", "tabindex"), ("underlinePosition", "underline-position"),
    ("underlineThickness", "underline-thickness"), ("unitsPerEm", "units-per-em"),
    ("vAlphabetic", "v-alphabetic"), ("vHanging", "v-hanging"),
    ("vIdeographic", "v-ideographic"), ("vMathematical", "v-mathematical"),
    ("vertAdvY", "vert-adv-y"), ("vertOriginX", "vert-origin-x"),
    ("vertOriginY", "vert-origin-y"), ("xHeight", "x-height")
  ].map (Definition.spelled .number) ++ [
    ("strokeMiterLimit", "stroke-miterlimit")
  ].map (Definition.spelled .positiveNumber) ++ [
    "ping"
  ].map (Definition.regular .spaceSeparated) ++ [
    ("className", "class")
  ].map (Definition.spelled .spaceSeparated) ++ [
    "g1", "g2"
  ].map (Definition.regular .commaSeparated) ++ [
    ("glyphName", "glyph-name")
  ].map (Definition.spelled .commaSeparated) ++ [
    "about", "kernelMatrix", "property", "rel", "rev", "requiredExtensions", "requiredFeatures",
    "requiredFonts", "requiredFormats", "systemLanguage"
  ].map (Definition.regular .commaOrSpaceSeparated) ++ [
    ("strokeDashArray", "stroke-dasharray"), ("typeOf", "typeof")
  ].map (Definition.spelled .commaOrSpaceSeparated)

def svg : Vocabulary := ⟨"svg", fun property => property, svgDefinitions⟩

end MarkupTree.Vocabulary
