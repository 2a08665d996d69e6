import StaticSite.Proofs.Emission.StartTag
import StaticSite.Proofs.Markup.Link

/-!
Contract: what a component shows of a problem with it.

Owns:
- the start tags of containers and of notes;
- the law that a component gives one container, its own, and that it gives a note exactly if its
  contribution has a warning, which names it.

Does not own: the containers and notes of a document (see `StaticSite.Proofs.Page.Losses`).
-/

namespace StaticSite.Emission

open StaticSite.Component StaticSite.Markup StaticSite.Schema

/-! ## Containers and notes -/

/-- The classes of the notes in the places of components that cannot be shown. -/
def noteClasses : List String :=
  ["component-placeholder", "unknown-component"]

/-- Whether a start tag is that of the container of a component. -/
def isContainer (tag : StartTag) : Bool :=
  tag.attributes.any fun entry => entry.1 == "data-component-id"

/-- Whether a start tag is that of a note. -/
def isNote (tag : StartTag) : Bool :=
  noteClasses.any fun name => tag.has ("class", name)

theorem exists_of_isContainer {opening : Opening} (contains : isContainer opening.read = true) :
    ∃ name pieces, .valued name pieces ∈ opening.attributes ∧
      foldedName name.toList = "data-component-id" := by
  obtain ⟨entry, isEntry, isId⟩ := List.any_eq_true.mp contains
  obtain ⟨written, isWritten, isRead⟩ := List.mem_flatMap.mp isEntry
  cases written with
  | bare name => cases isRead
  | valued name pieces =>
      rw [List.mem_singleton.mp isRead] at isId
      exact ⟨name, pieces, isWritten, beq_iff_eq.mp isId⟩

theorem exists_of_isNote {opening : Opening} (notes : isNote opening.read = true) :
    ∃ name pieces, .valued name pieces ∈ opening.attributes ∧ foldedName name.toList = "class" ∧
      ∃ value ∈ noteClasses, valueOf? pieces = some value := by
  obtain ⟨value, isClass, has⟩ := List.any_eq_true.mp notes
  obtain ⟨name, pieces, isWritten, isName, isValue⟩ := exists_of_has has
  exact ⟨name, pieces, isWritten, isName, value, isClass, isValue⟩

/-! ## Templates -/

def bytesOf (text : String) : List UInt8 :=
  text.toByteArray.data.toList

/-- Whether the parts of a class begin with a literal without entities with which no class of a note
begins. -/
def beginsOtherwise : List Part → Bool
  | .literal beginning :: _ =>
      !(bytesOf beginning).contains 38 &&
        noteClasses.all fun name => !(bytesOf beginning).isPrefixOf (bytesOf name)
  | _ => false

/-- Whether an attribute with places for values can mark neither a container nor a note. -/
def marksNothing : String × List Part → Bool
  | (name, parts) =>
      isFoldedName name && name != "data-component-id" && (name != "class" || beginsOtherwise parts)

theorem marksNothing_of_mem_catalogue :
    ∀ definition ∈ catalogue, ∀ template ∈ definition.markup.tags,
      ∀ assigned ∈ assignmentsOf template.attributes, marksNothing assigned = true := by
  decide +kernel

theorem not_note_of_beginsOtherwise {parts : List Part} (otherwise : beginsOtherwise parts = true)
    (scopes : Scopes) {value : String} (isValue : valueOf? (fillParts scopes parts) = some value) :
    value ∉ noteClasses := by
  cases parts with
  | nil => cases otherwise
  | cons part others =>
      cases part with
      | literal beginning =>
          obtain ⟨noEntity, apart⟩ := Bool.and_eq_true_iff.mp otherwise
          obtain ⟨rest, isWhole⟩ :=
            prefix_of_valueOf? (not_mem_of_not_mem_bytes noEntity (by decide)) isValue
          have begins : bytesOf beginning <+: bytesOf value := by
            rw [bytesOf, bytesOf, bytes_eq_flatMap, bytes_eq_flatMap, ← isWhole,
              List.flatMap_append]
            exact List.prefix_append _ _
          intro isClass
          have notBegun := List.all_eq_true.mp apart value isClass
          rw [List.isPrefixOf_iff_prefix.mpr begins] at notBegun
          cases notBegun
      | _ => cases otherwise

/-- A start tag of a filled template is neither that of a container nor that of a note. -/
theorem marksNothing_of_comesFrom {definition : Definition} (member : definition ∈ catalogue)
    {scopes : Scopes} {opening : Opening}
    (comes : opening.ComesFrom scopes definition.markup.tags) :
    isContainer opening.read = false ∧ isNote opening.read = false := by
  cases comes with
  | @filled template inner isTag reaches =>
      have marks := marksNothing_of_mem_catalogue definition member template isTag
      have ofWritten : ∀ name pieces,
          .valued name pieces ∈ fillAttributes inner template.attributes →
          foldedName name.toList = name ∧ name ≠ "data-component-id" ∧
            (name = "class" → ∀ value ∈ noteClasses, valueOf? pieces ≠ some value) := by
        intro name pieces isWritten
        cases comesFrom_of_mem_fillAttributes template.attributes inner _ isWritten with
        | @valued _ parts inside isAssigned _ =>
            have settled := marks _ isAssigned
            rw [marksNothing, Bool.and_eq_true, Bool.and_eq_true, bne_iff_ne,
              Bool.or_eq_true, bne_iff_ne] at settled
            obtain ⟨⟨folded, notId⟩, isOther⟩ := settled
            refine ⟨foldedName_of_isFoldedName folded, notId, fun isClass value isNote isValue => ?_⟩
            rcases isOther with notClass | otherwise
            · exact notClass isClass
            · exact not_note_of_beginsOtherwise otherwise inside isValue isNote
      constructor
      · refine Bool.not_eq_true _ ▸ fun contains => ?_
        obtain ⟨name, pieces, isWritten, isId⟩ := exists_of_isContainer contains
        obtain ⟨folded, notId, _⟩ := ofWritten name pieces isWritten
        exact notId (folded.symm.trans isId)
      · refine Bool.not_eq_true _ ▸ fun notes => ?_
        obtain ⟨name, pieces, isWritten, isClass, value, isNote, isValue⟩ := exists_of_isNote notes
        obtain ⟨folded, _, noNote⟩ := ofWritten name pieces isWritten
        exact noNote (folded.symm.trans isClass) value isNote isValue

/-! ## Components -/

theorem isContainer_containerTag (node : Node) : isContainer (containerTag node) = true := by
  simp [isContainer, containerTag]

/-- The container of a component is no note, whatever the type of the component. -/
theorem isNote_containerTag (node : Node) : isNote (containerTag node) = false := by
  have apart : ∀ name ∈ noteClasses, ¬ "component ".toList <+: name.toList := by decide
  refine Bool.not_eq_true _ ▸ fun notes => ?_
  obtain ⟨name, isClass, has⟩ := List.any_eq_true.mp notes
  have isValue : "component " ++ node.type = name := by
    simpa [StartTag.has, containerTag, eq_comm] using has
  refine apart name isClass ?_
  rw [← isValue, String.toList_append]
  exact List.prefix_append _ _

/-- The fragment of a component without warning is its filled template in its container. One with a
warning is a note in its container, and the warning names the component. -/
inductive Reports (node : Node) : Fragment → Prop where
  | silent {fragment : Fragment} {definition : Definition} (member : definition ∈ catalogue)
      (scopes : Scopes) (noWarning : fragment.warning = none)
      (isBody : fragment.body = container node (.row (definition.markup.fill scopes))) :
      Reports node fragment
  | unknown {fragment : Fragment} {warning : Warning} (isWarning : fragment.warning = some warning)
      (named : warning.componentId = some node.id)
      (isBody : fragment.body = container node (unknownNote node.type)) : Reports node fragment
  | incomplete {fragment : Fragment} {warning : Warning} {message : String}
      (isWarning : fragment.warning = some warning) (named : warning.componentId = some node.id)
      (isBody : fragment.body = container node (placeholder message)) : Reports node fragment

theorem reports_emitOrSubstitute (node : Node) :
    Reports node (Emitter.builtIn.emitOrSubstitute node) := by
  unfold Emitter.emitOrSubstitute Emitter.emit
  cases found : Emitter.builtIn.renderers.lookup node.type with
  | none => exact .unknown rfl rfl rfl
  | some renderer =>
      obtain ⟨definition, member, _, rfl⟩ := (lookup_builtIn_iff node.type renderer).mp found
      cases coerced : coerceFields node.props definition.fields with
      | error error =>
          simp only [rendererOf, Definition.fragment, coerced, Except.map, Except.mapError]
          exact .unknown rfl rfl rfl
      | ok values =>
          simp only [rendererOf, Definition.fragment, coerced, Except.map, Except.mapError]
          split
          · exact .silent member [definition.scope node values] rfl rfl
          · exact .incomplete rfl rfl rfl

/-- The start tags in the text of a component. -/
def startTagsOf (node : Node) : List StartTag :=
  (Emitter.builtIn.emitOrSubstitute node).body.openings.map Opening.read

/-- The id under which a problem with a component is reported, if there is one. -/
def reportedId (node : Node) : Option String :=
  (Emitter.builtIn.emitOrSubstitute node).warning.bind (·.componentId)

theorem reportedId_eq {node : Node} {id : String} (isReported : reportedId node = some id) :
    id = node.id := by
  unfold reportedId at isReported
  cases reports_emitOrSubstitute node with
  | silent _ _ noWarning _ =>
      rw [noWarning] at isReported
      cases isReported
  | unknown isWarning named _ =>
      rw [isWarning, Option.bind_some, named] at isReported
      exact (Option.some.inj isReported).symm
  | incomplete isWarning named _ =>
      rw [isWarning, Option.bind_some, named] at isReported
      exact (Option.some.inj isReported).symm

theorem containers_and_notes_of_note {node : Node} {note : Html} {opening : Opening}
    {warning : Warning}
    (isBody : (Emitter.builtIn.emitOrSubstitute node).body = container node note)
    (isInner : (trimmed note).openings = [opening]) (notContainer : isContainer opening.read = false)
    (notes : isNote opening.read = true)
    (isWarning : (Emitter.builtIn.emitOrSubstitute node).warning = some warning)
    (named : warning.componentId = some node.id) :
    (startTagsOf node).filter isContainer = [containerTag node] ∧
      ((startTagsOf node).filter isNote).length = (reportedId node).toList.length := by
  rw [startTagsOf, isBody, openings_container, isInner, List.map_cons, read_containerOpening,
    reportedId, isWarning]
  simp [isContainer_containerTag node, isNote_containerTag node, notContainer, notes, named]

/-- A component gives its own container and no other. It gives one note if a problem with it is
reported, and else none. -/
theorem containers_and_notes (node : Node) :
    (startTagsOf node).filter isContainer = [containerTag node] ∧
      ((startTagsOf node).filter isNote).length = (reportedId node).toList.length := by
  have unknown : isContainer (Opening.read ⟨"div", [.fixed "class" "unknown-component"]⟩) = false ∧
      isNote (Opening.read ⟨"div", [.fixed "class" "unknown-component"]⟩) = true := by
    decide +kernel
  have incomplete : isContainer (Opening.read
        ⟨"div", [.fixed "class" "component-placeholder", .fixed "role" "note"]⟩) = false ∧
      isNote (Opening.read
        ⟨"div", [.fixed "class" "component-placeholder", .fixed "role" "note"]⟩) = true := by
    decide +kernel
  have noNote := isNote_containerTag node
  have isOwn := isContainer_containerTag node
  cases reports_emitOrSubstitute node with
  | @silent definition member scopes noWarning isBody =>
      have none : ∀ tag ∈ (Html.openingsOf (definition.markup.fill scopes)).map Opening.read,
          isContainer tag = false ∧ isNote tag = false := by
        intro tag isTag
        obtain ⟨opening, isOpening, rfl⟩ := List.mem_map.mp isTag
        exact marksNothing_of_comesFrom member
          (allComeFrom_fill definition.markup scopes opening isOpening)
      have isInner : (trimmed (.row (definition.markup.fill scopes))).openings =
          Html.openingsOf (definition.markup.fill scopes) :=
        rfl
      have noContainers := List.filter_eq_nil_iff.mpr fun tag isTag =>
        Bool.eq_false_iff.mp (none tag isTag).1
      have noNotes := List.filter_eq_nil_iff.mpr fun tag isTag =>
        Bool.eq_false_iff.mp (none tag isTag).2
      rw [startTagsOf, isBody, openings_container, isInner, List.map_cons, read_containerOpening,
        List.filter_cons_of_pos isOwn, List.filter_cons_of_neg (by simp [noNote]), noContainers,
        noNotes, reportedId, noWarning]
      exact ⟨rfl, rfl⟩
  | unknown isWarning named isBody =>
      exact containers_and_notes_of_note isBody rfl unknown.1 unknown.2 isWarning named
  | incomplete isWarning named isBody =>
      exact containers_and_notes_of_note isBody rfl incomplete.1 incomplete.2 isWarning named

end StaticSite.Emission
