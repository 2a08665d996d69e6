import StaticSite.Association
import StaticSite.Component.Catalogue
import StaticSite.Emission.Container

/-!
Contract: from a component to its contribution to the page.

Owns:
- tables of renderers by type, and the built-in one;
- the contribution of a component: its fragment inside its container, with its base
  rule;
- the substitute for a component of unknown type or with a failing renderer.

Does not own: the renderers of the built-in types (see
`StaticSite.Component.Catalogue`).
-/

namespace StaticSite.Emission

open StaticSite.Component

/-- A renderer gives the fragment of a component, or the text of its failure. -/
abbrev Renderer := Node → Except String Fragment

/-- The renderers of a site by type. -/
structure Emitter where
  renderers : List (String × Renderer)

/-- A renderer failed for a component. -/
structure RenderFailure where
  type : String
  id : String
  cause : String
  deriving DecidableEq

def RenderFailure.message (failure : RenderFailure) : String :=
  failure.type ++ " (" ++ failure.id ++ ") failed to render: " ++ failure.cause

/-- The warning about a component whose renderer failed. -/
def RenderFailure.warning (failure : RenderFailure) : Warning :=
  { code := "emitter_error"
    message := failure.message
    componentId := some failure.id }

def rendererOf (definition : Definition) : Renderer :=
  fun node => (definition.fragment node).mapError Schema.CoercionError.message

namespace Emitter

def builtIn : Emitter :=
  ⟨catalogue.map fun definition => (definition.type, rendererOf definition)⟩

/-- An emitter with further renderers, which take the place of those for the same
types. -/
def withRenderers (emitter : Emitter) (extra : List (String × Renderer)) : Emitter :=
  ⟨extra.foldl (fun renderers entry => Association.bind entry.1 entry.2 renderers)
    emitter.renderers⟩

/-- The types that have a renderer, in order. -/
def types (emitter : Emitter) : List String :=
  (emitter.renderers.map Prod.fst).mergeSort fun left right => !(right < left)

def renders (emitter : Emitter) (type : String) : Bool :=
  (emitter.renderers.lookup type).isSome

/-- What stands for a component that cannot be rendered. -/
def substitute (node : Node) (warning : Option Warning) : Fragment :=
  { body := container node (unknownNote node.type)
    css := baseRule node
    js := none
    warning := warning }

def unknownType (node : Node) : Warning :=
  { code := "unknown_component"
    message := "Unknown component: " ++ node.type
    componentId := some node.id }

def contribution (node : Node) (inner : Fragment) : Fragment :=
  { body := container node inner.body
    css := baseRule node ++ inner.css
    js := inner.js
    warning := inner.warning }

/-- The contribution of a component. -/
def emit (emitter : Emitter) (node : Node) : Except RenderFailure Fragment :=
  match emitter.renderers.lookup node.type with
  | none => .ok (substitute node (some (unknownType node)))
  | some renderer =>
      match renderer node with
      | .ok inner => .ok (contribution node inner)
      | .error cause => .error ⟨node.type, node.id, cause⟩

/-- The contribution of a component; a failure is worked around with a warning. -/
def emitOrSubstitute (emitter : Emitter) (node : Node) : Fragment :=
  match emitter.emit node with
  | .ok fragment => fragment
  | .error failure => substitute node (some failure.warning)

end Emitter

end StaticSite.Emission
