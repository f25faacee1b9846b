import MarkupTree.Proofs.Tree.Reachable

/-! # Nodes that are built from plain values

A node is assembled if one successful call of a constructor makes it of values in which no
node is embedded (`Node.Assembled`). Whatever stands below the top of such a node was
described by an object: it is a text or an element without content, with the plain
properties of an object (`Node.Described`, `Node.Assembled.below_described`).

Only a factory moves the children of a template into its content. So the law of templates
(`Node.TemplateLaw`) holds at the top of an assembled node. It holds everywhere exactly if no
object described a template, for a described template keeps its children and has no content
(`Node.Assembled.everywhere_templateLaw_iff`).
-/

namespace MarkupTree

namespace Node

/-- A node that comes from one successful call of a constructor on values in which no node
is embedded. -/
inductive Assembled : Node → Prop where
  /-- The outcome of building HTML. -/
  | html {selector : Option String} {arguments : List Value} {node : Node}
      (plain : Value.embeddedAll arguments = [])
      (built : h selector arguments = .ok node) : Assembled node
  /-- The outcome of building SVG. -/
  | svg {selector : Option String} {arguments : List Value} {node : Node}
      (plain : Value.embeddedAll arguments = [])
      (built : s selector arguments = .ok node) : Assembled node
  /-- The outcome of any factory on a selector and arguments. -/
  | created {factory : Factory} {selector : Option String} {arguments : List Value} {node : Node}
      (plain : Value.embeddedAll arguments = [])
      (built : factory.create selector arguments = .ok node) : Assembled node
  /-- A root that any factory makes of children. -/
  | root {factory : Factory} {children : List Value} {node : Node}
      (plain : Value.embeddedAll children = [])
      (built : factory.root children = .ok node) : Assembled node
  /-- An element that any factory makes of a bag and children. -/
  | element {factory : Factory} {selector : String} {bag : Object} {children : List Value}
      {node : Node} (plain : Value.embeddedAll (.object bag :: children) = [])
      (built : factory.element selector bag children = .ok node) : Assembled node

/-- What a part of a tree is that no factory made: a text, or an element without content that
has the plain properties of an object. -/
inductive Described : Node → Prop where
  | text (value : String) : Described (.text value)
  | element (tagName : String) (given : Object) (children : List Node) :
      Described (.element tagName given.plainProperties children none)

/-- Describing nodes makes described nodes only. -/
theorem keptByDescription_described : KeptByDescription (Everywhere Described) where
  text value := (everywhere_iff _).mpr
    ⟨.text value, fun _ below => (List.not_mem_nil below).elim⟩
  element tagName given children described := by
    rw [everywhere_iff, directlyBelow_element_none]
    exact ⟨.element tagName given children, described⟩

/-- An object gives no key twice, so a described node does not either. -/
theorem Described.distinct {part : Node} (described : part.Described) :
    part.properties.Distinct := by
  cases described with
  | text value => exact OrderedMap.distinct_empty
  | element tagName given children => exact OrderedMap.distinct_ofList _

/-- What a factory makes over described nodes: a root, or the element of a draft in which no
key is given twice. -/
inductive Made : Node → Prop where
  | root {children : List Node} (described : ∀ child ∈ children, child.Everywhere Described) :
    Made (.root children)
  | element {draft : Factory.Draft} {children : List Node} (distinct : draft.properties.Distinct)
      (described : ∀ child ∈ children, child.Everywhere Described) :
    Made (draft.withChildren children)

end Node

open Node (Described)

/-- Children stand directly below an element, also where they are its content. -/
@[simp] theorem Factory.Draft.directlyBelow_withChildren (draft : Draft) (children : List Node) :
    (draft.withChildren children).directlyBelow = children := by
  unfold withChildren
  split
  · rfl
  · exact Node.directlyBelow_element_none _ _ _

/-- Children do not change the properties of an element. -/
@[simp] theorem Factory.Draft.properties_withChildren (draft : Draft) (children : List Node) :
    (draft.withChildren children).properties = draft.properties := by
  unfold withChildren
  split <;> rfl

/-- Children do not change the tag name of an element. -/
@[simp] theorem Factory.Draft.tagName?_withChildren (draft : Draft) (children : List Node) :
    (draft.withChildren children).tagName? = some draft.tagName := by
  unfold withChildren
  split <;> rfl

/-- Values without embedded nodes contribute described nodes. -/
theorem Value.described_of_flattenAll {values : List Value} (plain : embeddedAll values = []) :
    ∀ node ∈ (flattenAll values).nodes, node.Everywhere Described := by
  apply each_of_flattenAll Node.keptByDescription_described
  rw [plain]
  exact fun _ member => (List.not_mem_nil member).elim

/-- Entries of a bag give no key twice. -/
theorem Properties.distinct_extend {properties : Properties} (distinct : properties.Distinct)
    (schema : Schema) (entries : List (String × Value)) :
    (properties.extend schema entries).Distinct := by
  induction entries generalizing properties with
  | nil => exact distinct
  | cons entry rest ih =>
      apply ih
      simp only [add]
      split
      · exact distinct.insert _ _
      · exact distinct

namespace Factory

private theorem distinct_selectorProperties (selector : Selector) :
    (selectorProperties selector).Distinct := by
  have empty : (OrderedMap.empty : Properties).Distinct := OrderedMap.distinct_empty
  unfold selectorProperties
  cases selector.id with
  | none =>
      dsimp only
      split
      · exact empty
      · exact empty.insert _ _
  | some id =>
      dsimp only
      split
      · exact empty.insert _ _
      · exact (empty.insert _ _).insert _ _

private theorem Draft.distinct_addArgument {draft : Draft} (distinct : draft.properties.Distinct)
    (schema : Schema) (argument : Value) :
    (draft.addArgument schema argument).properties.Distinct := by
  cases argument with
  | object fields => exact Properties.distinct_extend distinct schema _
  | node tree => exact Properties.distinct_extend distinct schema _
  | _ => exact distinct

private theorem Draft.made_of_complete {draft : Draft} (distinct : draft.properties.Distinct)
    {children : List Value} (plain : Value.embeddedAll children = []) {node : Node}
    (built : draft.complete children = .ok node) : node.Made := by
  obtain ⟨_, rfl⟩ := (Flattening.map_toExcept_eq_ok_iff _ _ _).mp built
  exact .element distinct (Value.described_of_flattenAll plain)

variable (factory : Factory) {node : Node}

private theorem made_of_root {children : List Value} (plain : Value.embeddedAll children = [])
    (built : factory.root children = .ok node) : node.Made := by
  obtain ⟨_, rfl⟩ := (Flattening.map_toExcept_eq_ok_iff _ _ _).mp built
  exact .root (Value.described_of_flattenAll plain)

private theorem made_of_element {selector : String} {bag : Object} {children : List Value}
    (plain : Value.embeddedAll children = [])
    (built : factory.element selector bag children = .ok node) : node.Made :=
  Draft.made_of_complete
    (Properties.distinct_extend (distinct_selectorProperties _) factory.schema _) plain built

/-- What is created from plain values is made over described nodes. -/
theorem made_of_create {selector : Option String} {arguments : List Value}
    (plain : Value.embeddedAll arguments = [])
    (built : factory.create selector arguments = .ok node) : node.Made := by
  cases selector with
  | none => exact factory.made_of_root plain built
  | some selector =>
      have distinct := distinct_selectorProperties (Selector.parse selector factory.defaultTagName)
      simp only [create, createElement] at built
      split at built
      · exact Draft.made_of_complete distinct plain built
      · split at built
        · exact Draft.made_of_complete (Draft.distinct_addArgument distinct _ _)
            (List.append_eq_nil_iff.mp plain).2 built
        · exact Draft.made_of_complete distinct plain built

end Factory

namespace Node

namespace Assembled

variable {node : Node}

/-- **An assembled node is made over described nodes.** -/
theorem made (assembled : node.Assembled) : node.Made := by
  cases assembled with
  | html plain built => exact Factory.html.made_of_create plain built
  | svg plain built => exact Factory.svg.made_of_create plain built
  | created plain built => exact Factory.made_of_create _ plain built
  | root plain built => exact Factory.made_of_root _ plain built
  | element plain built =>
      exact Factory.made_of_element _ (List.append_eq_nil_iff.mp plain).2 built

/-- An assembled node is reachable. -/
theorem reachable (assembled : node.Assembled) : node.Reachable := by
  have nothing {values : List Value} (plain : Value.embeddedAll values = []) :
      ∀ tree ∈ Value.embeddedAll values, tree.Reachable := by
    rw [plain]
    exact fun _ member => (List.not_mem_nil member).elim
  cases assembled with
  | html plain built => exact .html (nothing plain) built
  | svg plain built => exact .svg (nothing plain) built
  | created plain built => exact .created (nothing plain) built
  | root plain built => exact .root (nothing plain) built
  | element plain built => exact .element (nothing plain) built

/-- **Whatever stands below the top of an assembled node was described by an object.** -/
theorem below_described (assembled : node.Assembled) :
    ∀ lower ∈ node.directlyBelow, lower.Everywhere Described := by
  cases assembled.made with
  | root described =>
      rw [directlyBelow_root]
      exact described
  | @element draft children distinct described =>
      rw [Factory.Draft.directlyBelow_withChildren]
      exact described

/-- No element of an assembled node has a key twice. -/
theorem everywhere_distinct (assembled : node.Assembled) :
    node.Everywhere fun part => part.properties.Distinct := by
  have below : ∀ lower ∈ node.directlyBelow,
      lower.Everywhere fun part => part.properties.Distinct :=
    fun lower directly part member =>
      (assembled.below_described lower directly part member).distinct
  rw [everywhere_iff]
  refine ⟨?_, below⟩
  cases assembled.made with
  | root described => exact OrderedMap.distinct_empty
  | element distinct described =>
      rw [Factory.Draft.properties_withChildren]
      exact distinct

end Assembled

/-- A template has content and no children, and no other element has content. -/
def TemplateLaw : Node → Prop
  | .element tagName _ children content =>
    if tagName = "template" then children = [] ∧ content.isSome = true else content = none
  | _ => True

private theorem templateLaw_withChildren (draft : Factory.Draft) (children : List Node) :
    (draft.withChildren children).TemplateLaw := by
  unfold Factory.Draft.withChildren
  split
  · next template => simp only [TemplateLaw, template, ↓reduceIte, Option.isSome_some, and_self]
  · next other => simp only [TemplateLaw, other, ↓reduceIte]

/-- The law of templates holds at the top of an assembled node. -/
theorem Assembled.templateLaw {node : Node} (assembled : node.Assembled) : node.TemplateLaw := by
  cases assembled.made with
  | root described => exact trivial
  | element distinct described => exact templateLaw_withChildren _ _

/-- The law of templates holds of a described node unless it is a template. -/
theorem Described.templateLaw_iff {part : Node} (described : part.Described) :
    part.TemplateLaw ↔ part.tagName? ≠ some "template" := by
  cases described with
  | text value => simp [TemplateLaw, tagName?]
  | element tagName given children => simp [TemplateLaw, tagName?]

private theorem TemplateLaw.tagName_of_content {part : Node} (law : part.TemplateLaw)
    (present : part.content?.isSome = true) : part.tagName? = some "template" := by
  cases part with
  | text value => cases present
  | root children => cases present
  | element tagName properties children content =>
      simp only [TemplateLaw] at law
      split at law
      · next template => exact congrArg some template
      · rw [content?, law] at present
        cases present

private theorem Described.content_eq_none {part : Node} (described : part.Described) :
    part.content? = none := by
  cases described <;> rfl

/-- **The law of templates in what is built from plain values.** It holds at the top, only
templates have content anywhere, and the law holds everywhere exactly if no element below the
top is a template. -/
theorem Assembled.everywhere_templateLaw_iff {node : Node} (assembled : node.Assembled) :
    node.TemplateLaw ∧
      (node.Everywhere fun part =>
        part.content?.isSome = true → part.tagName? = some "template") ∧
      (node.Everywhere TemplateLaw ↔ ∀ lower ∈ node.directlyBelow,
        lower.Everywhere fun part => part.tagName? ≠ some "template") := by
  have top := assembled.templateLaw
  have below := assembled.below_described
  refine ⟨top, ?_, ?_⟩
  · rw [everywhere_iff]
    refine ⟨top.tagName_of_content, fun lower directly part member present => ?_⟩
    rw [(below lower directly part member).content_eq_none] at present
    cases present
  · rw [everywhere_iff, and_iff_right top]
    refine forall₂_congr fun lower directly => forall₂_congr fun part member => ?_
    exact (below lower directly part member).templateLaw_iff

/-- A template of a described paragraph and a text. -/
def paragraphTemplate : Node :=
  .element "template" .empty [] (some [.element "p" .empty [.text "a"] none, .text "b"])

/-- A template around a paragraph obeys the law everywhere. -/
theorem Assembled.everywhere_templateLaw_iff_paragraph :
    paragraphTemplate.Assembled ∧
      paragraphTemplate.TemplateLaw ∧
      (paragraphTemplate.Everywhere fun part =>
        part.content?.isSome = true → part.tagName? = some "template") ∧
      (paragraphTemplate.Everywhere TemplateLaw ↔ ∀ lower ∈ paragraphTemplate.directlyBelow,
        lower.Everywhere fun part => part.tagName? ≠ some "template") := by
  have parsed : Selector.parse "template" "div" = ⟨"template", none, []⟩ := by
    decide +kernel
  have built : h (some "template")
      [.object ⟨[("type", .string "element"), ("tagName", .string "p"),
        ("children", .array [.null, .string "a"])]⟩, .string "b"] =
      .ok paragraphTemplate := by
    simp only [h, Factory.create, Factory.createElement, Factory.draft, Factory.tagName,
      Factory.html, Factory.make, Factory.adjust, Option.map_none, parsed]
    rfl
  have assembled := Assembled.html rfl built
  exact ⟨assembled, assembled.everywhere_templateLaw_iff⟩

/-- A described template keeps its children and has no content. -/
theorem not_everywhere_templateLaw_described :
    Value.embeddedAll [.object ⟨[("type", .string "element"), ("tagName", .string "template"),
        ("children", .array [.string "x"])]⟩] = [] ∧
      h (some "div") [.object ⟨[("type", .string "element"), ("tagName", .string "template"),
          ("children", .array [.string "x"])]⟩] =
        .ok (.element "div" .empty [.element "template" .empty [.text "x"] none] none) ∧
      ¬ (element "div" .empty [.element "template" .empty [.text "x"] none] none).Everywhere
        TemplateLaw := by
  have parsed : Selector.parse "div" "div" = ⟨"div", none, []⟩ := by
    decide +kernel
  refine ⟨rfl, ?_, fun law => ?_⟩
  · simp only [h, Factory.create, Factory.createElement, Factory.draft, Factory.tagName,
      Factory.html, Factory.make, Factory.adjust, Option.map_none, parsed]
    rfl
  · have kept := law (.element "template" .empty [.text "x"] none) (by simp [parts, partsAll])
    simp [TemplateLaw] at kept

end Node

end MarkupTree
