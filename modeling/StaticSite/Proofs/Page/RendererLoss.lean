import StaticSite.Proofs.Page.Assembly

/-!
Contract: pages whose components lose the renderer of their type.

Owns:
- the two ways in which a type can lose its renderer;
- what stands for its components then, word for word, with the warnings about them;
- the law that all other components of a page, and all that does not come from renderers, stay as
  they were.

Does not own: failures of the built-in renderers (see `StaticSite.Proofs.Emission.Totality`).
-/

namespace StaticSite.Emission

open StaticSite.Component

/-! ## Loss of a renderer -/

/-- How a type can lose its renderer: one that fails for every component takes its place, or no
renderer is left. -/
inductive Loss where
  | failing (cause : Node → String)
  | missing

namespace Emitter

def withoutRenderer (emitter : Emitter) (type : String) : Emitter :=
  ⟨emitter.renderers.filter fun entry => entry.1 != type⟩

/-- An emitter after a type lost its renderer. -/
def losing (emitter : Emitter) (type : String) : Loss → Emitter
  | .failing cause => emitter.withRenderers [(type, fun node => .error (cause node))]
  | .missing => emitter.withoutRenderer type

end Emitter

/-- The warning about a component whose type lost its renderer. -/
def Loss.warning (node : Node) : Loss → Warning
  | .failing cause =>
      { code := "emitter_error"
        message := node.type ++ " (" ++ node.id ++ ") failed to render: " ++ cause node
        componentId := some node.id }
  | .missing =>
      { code := "unknown_component"
        message := "Unknown component: " ++ node.type
        componentId := some node.id }

theorem lookup_withoutRenderer_self (emitter : Emitter) (type : String) :
    (emitter.withoutRenderer type).renderers.lookup type = none := by
  refine List.lookup_eq_none_iff.mpr fun entry member => ?_
  have differs := (List.mem_filter.mp member).2
  exact bne_iff_ne.mpr (bne_iff_ne.mp differs).symm

theorem lookup_withoutRenderer_of_ne (emitter : Emitter) {type other : String}
    (differs : other ≠ type) :
    (emitter.withoutRenderer type).renderers.lookup other = emitter.renderers.lookup other := by
  rw [Emitter.withoutRenderer]
  dsimp only
  induction emitter.renderers with
  | nil => rfl
  | cons entry others inductionHypothesis =>
      by_cases kept : entry.1 = type
      · have notOther : (other == entry.1) = false :=
          beq_eq_false_iff_ne.mpr fun same => differs (same.trans kept)
        rw [List.filter_cons_of_neg (by simp [kept]), inductionHypothesis, List.lookup_cons,
          notOther]
      · rw [List.filter_cons_of_pos (by simp [kept]), List.lookup_cons, List.lookup_cons,
          inductionHypothesis]

theorem lookup_losing_of_ne (emitter : Emitter) (loss : Loss) {type other : String}
    (differs : other ≠ type) :
    (emitter.losing type loss).renderers.lookup other = emitter.renderers.lookup other := by
  cases loss with
  | failing cause => exact Association.lookup_bind_of_ne differs _ emitter.renderers
  | missing => exact lookup_withoutRenderer_of_ne emitter differs

/-- The contribution of a component depends on the renderer of its type alone. -/
theorem emitOrSubstitute_congr {emitter other : Emitter} {node : Node}
    (same : emitter.renderers.lookup node.type = other.renderers.lookup node.type) :
    emitter.emitOrSubstitute node = other.emitOrSubstitute node := by
  rw [Emitter.emitOrSubstitute, Emitter.emitOrSubstitute, Emitter.emit, Emitter.emit, same]

theorem emitOrSubstitute_losing_self (emitter : Emitter) (loss : Loss) (node : Node) :
    (emitter.losing node.type loss).emitOrSubstitute node =
      Emitter.substitute node (some (loss.warning node)) := by
  cases loss with
  | failing cause =>
      have found : (emitter.losing node.type (.failing cause)).renderers.lookup node.type =
          some fun node => .error (cause node) :=
        Association.lookup_bind_self node.type _ emitter.renderers
      rw [Emitter.emitOrSubstitute, Emitter.emit, found]
      rfl
  | missing =>
      have notFound : (emitter.losing node.type .missing).renderers.lookup node.type = none :=
        lookup_withoutRenderer_self emitter node.type
      rw [Emitter.emitOrSubstitute, Emitter.emit, notFound]
      rfl

end StaticSite.Emission

namespace StaticSite.Page

open StaticSite.Component StaticSite.Emission StaticSite.Markup

/-! ## Pages -/

/-- The markup of a component whose type lost its renderer: its container around a note that names
the type. -/
def lostMarkup (node : Node) : String :=
  "<div id=\"component-" ++ Text.escape node.id ++
    "\" class=\"component " ++ Text.escape node.type ++
    "\" data-component-id=\"" ++ Text.escape node.id ++ "\">\n" ++
    "<div class=\"unknown-component\">Unknown component: " ++ Text.escape node.type ++ "</div>" ++
    "\n</div>"

/-- The share of a component whose type lost its renderer: its container with the note about its
type, its base rule, no script, and the warning. -/
def lostShare (loss : Loss) (node : Node) : Share :=
  { markup := lostMarkup node
    style := baseRule node
    script := ""
    warning := some (loss.warning node) }

/-- The share of a component after a type lost its renderer. -/
def shareAfter (loss : Loss) (type : String) (emitter : Emitter) (node : Node) : Share :=
  if node.type = type then lostShare loss node else shareOf emitter node

theorem renderAt_unknownNote (type : String) :
    (unknownNote type).renderAt 0 =
      "<div class=\"unknown-component\">Unknown component: " ++ Text.escape type ++ "</div>" := by
  have opening : startTag "div" [.fixed "class" "unknown-component"] ++ "Unknown component: " =
      "<div class=\"unknown-component\">Unknown component: " := by decide
  have closing : endTag "div" = "</div>" := by decide
  rw [unknownNote, Html.renderAt, closing, ← opening]
  simp only [Html.renderInline, Html.renderAt, renderPieces, List.map_cons, List.map_nil,
    Piece.render, String.join_cons, String.join_nil, String.append_empty, String.append_assoc]

theorem renderAt_container_unknownNote (node : Node) :
    (container node (unknownNote node.type)).renderAt 0 = lostMarkup node := by
  have isTrimmed : trimmed (unknownNote node.type) = unknownNote node.type := rfl
  have noLines : Html.renderLines 0 [] = "" := rfl
  have toId : "<" ++ "div" ++ " " ++ "id" ++ "=\"" ++ "component-" = "<div id=\"component-" := by
    decide
  have toClass : "\"" ++ " " ++ "class" ++ "=\"" ++ "component " = "\" class=\"component " := by
    decide
  have toMark : "\"" ++ " " ++ "data-component-id" ++ "=\"" = "\" data-component-id=\"" := by
    decide
  have toNote : "\"" ++ ">" ++ "\n" = "\">\n" := by decide
  have closing : "\n" ++ endTag "div" = "\n</div>" := by decide
  rw [container, isTrimmed, renderAt_sheet, renderLines_cons, renderAt_unknownNote, noLines]
  simp only [startTag, Attribute.holding, List.map_cons, List.map_nil, Attribute.render,
    renderPieces, Piece.render, String.join_cons, String.join_nil, String.append_empty,
    String.append_assoc]
  unfold lostMarkup
  simp only [← toId, ← toClass, ← toMark, ← toNote, ← closing, String.append_assoc]

theorem share_substitute (node : Node) (warning : Option Warning) :
    Part.share ⟨node, Emitter.substitute node warning⟩ =
      { markup := lostMarkup node
        style := baseRule node
        script := ""
        warning := warning } := by
  have noScript : Part.script? ⟨node, Emitter.substitute node warning⟩ = none := rfl
  have noLines : Text.endLines [] = "" := rfl
  rw [Part.share, noScript, Option.getD_none, noLines]
  simp only [Emitter.substitute, renderAt_container_unknownNote]

theorem shareOf_losing (emitter : Emitter) (type : String) (loss : Loss) (node : Node) :
    shareOf (emitter.losing type loss) node = shareAfter loss type emitter node := by
  unfold shareAfter
  by_cases isType : node.type = type
  · rw [if_pos isType, shareOf, ← isType, emitOrSubstitute_losing_self, share_substitute,
      lostShare]
  · rw [if_neg isType, shareOf, shareOf,
      emitOrSubstitute_congr (lookup_losing_of_ne emitter loss isType)]

section Emitter

variable (page : Page) (website : Website) (options : Options) (emitter : Emitter)

/-- Nothing that comes from no renderer depends on the renderers. -/
theorem compile_withEmitter :
    (compile page website { options with emitter := emitter }).islands =
        (compile page website options).islands ∧
      (compile page website { options with emitter := emitter }).seo =
        (compile page website options).seo ∧
      (compile page website { options with emitter := emitter }).performance =
        (compile page website options).performance := by
  unfold compile
  cases readContent page.content with
  | ok content => exact ⟨rfl, rfl, rfl⟩
  | error error => exact ⟨rfl, rfl, rfl⟩

theorem documentOpening_withEmitter (seo : Seo) (preloads : List String) :
    documentOpening page website { options with emitter := emitter } seo preloads =
      documentOpening page website options seo preloads := by
  unfold documentOpening metadata
  rfl

theorem documentClosing_withEmitter (deferrals : List String) (islands : List Island) :
    documentClosing page website { options with emitter := emitter } deferrals islands =
      documentClosing page website options deferrals islands := by
  unfold documentClosing trailingElements settings
  rfl

/-- The page with other renderers is put together in the same way from the shares they give. -/
theorem assembled_compile_withEmitter :
    Assembled page website options ((componentsOf page).map (shareOf emitter))
      (compile page website { options with emitter := emitter }) := by
  have assembled := assembled_compile page website { options with emitter := emitter }
  constructor
  case html_eq =>
    rw [assembled.html_eq, documentOpening_withEmitter, documentClosing_withEmitter]
  case css_eq => exact assembled.css_eq
  case js_eq => exact assembled.js_eq
  case warnings_eq => exact assembled.warnings_eq

end Emitter

/-- A component that cannot be rendered never affects the rest of its page, whatever the page, the
website and the renderers are. When a type loses its renderer, the page is compiled with the same
islands, the same data about itself and the same hints; and its texts are put together from the
same shares in the same order, but for the components of that type. -/
theorem renderer_loss_contained (page : Page) (website : Website) (options : Options)
    (type : String) (loss : Loss) :
    let before := compile page website options
    let after := compile page website
      { options with emitter := options.emitter.losing type loss }
    after.islands = before.islands ∧ after.seo = before.seo ∧
      after.performance = before.performance ∧
      Assembled page website options ((componentsOf page).map (shareOf options.emitter)) before ∧
      Assembled page website options
        ((componentsOf page).map (shareAfter loss type options.emitter)) after := by
  intro before after
  obtain ⟨sameIslands, sameSeo, samePerformance⟩ :=
    compile_withEmitter page website options (options.emitter.losing type loss)
  have shares : (componentsOf page).map (shareOf (options.emitter.losing type loss)) =
      (componentsOf page).map (shareAfter loss type options.emitter) :=
    List.map_congr_left fun node _ => shareOf_losing options.emitter type loss node
  refine ⟨sameIslands, sameSeo, samePerformance, assembled_compile page website options, ?_⟩
  rw [← shares]
  exact assembled_compile_withEmitter page website options (options.emitter.losing type loss)

end StaticSite.Page
