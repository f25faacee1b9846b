import MarkupTree.Schema.Vocabulary

/-! # The vocabulary of HTML

The properties of HTML elements: those of the standard, those that older versions had,
and some that only browsers know. An attribute is the property key in lower case.
-/

namespace MarkupTree.Vocabulary

/-- The properties of HTML by the kind of their values. -/
def htmlDefinitions : List Definition :=
  [
    "abbr", "action", "allow", "alt", "as", "autoCapitalize", "capture", "charSet", "cite",
    "colSpan", "content", "contentEditable", "crossOrigin", "data", "dateTime", "decoding",
    "dir", "dirName", "draggable", "encType", "enterKeyHint", "fetchPriority", "form",
    "formAction", "formEncType", "formMethod", "formTarget", "href", "hrefLang", "id",
    "imageSizes", "imageSrcSet", "inputMode", "integrity", "is", "itemId", "kind", "label",
    "lang", "language", "list", "loading", "manifest", "max", "media", "method", "min", "name",
    "nonce", "onAbort", "onBlur", "onChange", "onClick", "onFocus", "onInput", "onKeyDown",
    "onKeyUp", "onLoad", "onSubmit", "pattern", "placeholder", "popover", "popoverTarget",
    "popoverTargetAction", "poster", "preload", "referrerPolicy", "scope", "shadowRootMode",
    "shape", "sizes", "slot", "spellCheck", "src", "srcDoc", "srcLang", "srcSet", "step",
    "style", "target", "title", "translate", "type", "useMap", "value", "wrap",
    "writingSuggestions", "align", "aLink", "axis", "background", "bgColor", "borderColor",
    "cellPadding", "cellSpacing", "char", "charOff", "classId", "clear", "code", "codeBase",
    "codeType", "color", "event", "face", "frame", "frameBorder", "link", "longDesc", "lowSrc",
    "object", "profile", "prompt", "rev", "rules", "scheme", "scrolling", "standby", "summary",
    "text", "valueType", "version", "vAlign", "vLink", "allowTransparency", "autoCorrect",
    "autoSave", "prefix", "property", "security", "unselectable"
  ].map (Definition.regular .plain) ++ [
    "allowFullScreen", "allowPaymentRequest", "allowUserMedia", "async", "autoFocus", "autoPlay",
    "checked", "controls", "default", "defer", "disabled", "formNoValidate", "hidden", "inert",
    "isMap", "itemScope", "loop", "multiple", "muted", "noModule", "noValidate", "open",
    "playsInline", "readOnly", "required", "reversed", "scoped", "seamless", "selected",
    "shadowRootClonable", "shadowRootDelegatesFocus", "typeMustMatch", "compact", "declare",
    "noResize", "noHref", "noShade", "noWrap", "disablePictureInPicture", "disableRemotePlayback"
  ].map (Definition.regular .boolean) ++ [
    "download"
  ].map (Definition.regular .overloadedBoolean) ++ [
    "cols", "height", "high", "low", "maxLength", "minLength", "optimum", "rows", "rowSpan",
    "size", "span", "start", "tabIndex", "width", "border", "bottomMargin", "hSpace",
    "leftMargin", "marginHeight", "marginWidth", "rightMargin", "topMargin", "vSpace", "results"
  ].map (Definition.regular .number) ++ [
    "coords"
  ].map (Definition.regular (.union .number .commaSeparated)) ++ [
    "accessKey", "autoComplete", "blocking", "controlsList", "headers", "itemProp", "itemRef",
    "itemType", "ping", "rel", "sandbox", "archive"
  ].map (Definition.regular .spaceSeparated) ++ [
    ("acceptCharset", "accept-charset"), ("className", "class"), ("htmlFor", "for"),
    ("httpEquiv", "http-equiv")
  ].map (Definition.spelled .spaceSeparated) ++ [
    "accept"
  ].map (Definition.regular .commaSeparated)

def html : Vocabulary := ⟨"html", String.toLower, htmlDefinitions⟩

end MarkupTree.Vocabulary
