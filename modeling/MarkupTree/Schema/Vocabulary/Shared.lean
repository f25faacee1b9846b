import MarkupTree.Schema.Vocabulary

/-! # Vocabularies that all markup shares

The attributes of XML, of XLink and of namespace declarations, and those that describe
widgets to assistive technology.
-/

namespace MarkupTree.Vocabulary

/-- The attributes that XML defines for every element. Behind the first three letters of
the key stands the local name. -/
def xml : Vocabulary :=
  ⟨"xml", replaceBeginning 3 "xml:",
    ["xmlBase", "xmlLang", "xmlSpace"].map (Definition.regular .plain)⟩

/-- The attributes of links in XML. Behind the first five letters of the key stands the
local name. -/
def xlink : Vocabulary :=
  ⟨"xlink", replaceBeginning 5 "xlink:",
    ["xLinkActuate", "xLinkArcRole", "xLinkHref", "xLinkRole", "xLinkShow", "xLinkTitle", "xLinkType"].map (Definition.regular .plain)⟩

def xmlns : Vocabulary :=
  ⟨"xmlns", String.toLower,
    [Definition.regular .plain "xmlns", Definition.spelled .plain ("xmlnsXLink", "xmlns:xlink")]⟩

/-- The spelling of an attribute for assistive technology: a hyphen stands behind the
first word if another follows. -/
def spellAria (property : String) : String :=
  if "aria".toList.isPrefixOf property.toList ∧ 4 < property.length then
    replaceBeginning 4 "aria-" property
  else property

def ariaDefinitions : List Definition :=
  [
    "ariaActiveDescendant", "ariaAtomic", "ariaAutoComplete", "ariaBusy", "ariaChecked",
    "ariaCurrent", "ariaDetails", "ariaDisabled", "ariaErrorMessage", "ariaExpanded",
    "ariaGrabbed", "ariaHasPopup", "ariaHidden", "ariaInvalid", "ariaKeyShortcuts", "ariaLabel",
    "ariaLive", "ariaModal", "ariaMultiLine", "ariaMultiSelectable", "ariaOrientation",
    "ariaPlaceholder", "ariaPressed", "ariaReadOnly", "ariaRelevant", "ariaRequired",
    "ariaSelected", "ariaSort", "ariaValueText", "role"
  ].map (Definition.regular .plain) ++ [
    "ariaColCount", "ariaColIndex", "ariaColSpan", "ariaLevel", "ariaPosInSet", "ariaRowCount",
    "ariaRowIndex", "ariaRowSpan", "ariaSetSize", "ariaValueMax", "ariaValueMin", "ariaValueNow"
  ].map (Definition.regular .number) ++ [
    "ariaControls", "ariaDescribedBy", "ariaDropEffect", "ariaFlowTo", "ariaLabelledBy",
    "ariaOwns", "ariaRoleDescription"
  ].map (Definition.regular .spaceSeparated)

def aria : Vocabulary := ⟨"aria", spellAria, ariaDefinitions⟩

/-- The vocabularies that all markup shares, in the order in which they are indexed. -/
def shared : List Vocabulary := [xml, xlink, xmlns, aria]

end MarkupTree.Vocabulary
