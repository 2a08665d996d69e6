import StaticSite.Proofs.Page.DistinctIds
import StaticSite.Proofs.Page.Handshake

/-!
Contract: pages whose content cannot be used.

Owns:
- stored content that can be used;
- the law that every other content gives the page without content and one warning.

Does not own: entries of usable content that are no components (see
`StaticSite.Proofs.Page.Losses`).
-/

namespace StaticSite.Page

open StaticSite.Component StaticSite.Json

/-! ## Usable content -/

/-- Whether stored content can be used: there is none, it is blank, or it is the text of an object
that is nested at most 64 levels deep and whose components, if it has any, are a list. -/
inductive IsUsable : Option String → Prop where
  | nothing {stored : Option String} (isNothing : IsNothing stored) : IsUsable stored
  | object {source : String} {members : Members} (isRead : Json.read source = .ok (.object members))
      (fits : (Json.object members).depth ≤ 64)
      (noOther : ∀ value, members.lookup "components" = some value → ∃ items, value = .array items) :
      IsUsable (some source)

/-- Content can be read exactly if it can be used. -/
theorem exists_readContent_eq_ok_iff (stored : Option String) :
    (∃ content, readContent stored = .ok content) ↔ IsUsable stored := by
  simp only [readContent_eq_ok_iff]
  constructor
  · rintro ⟨content, isNothing | ⟨isRead, fits, listed⟩⟩
    · exact .nothing isNothing
    · refine .object isRead fits fun value found => ?_
      rw [found, Option.getD_some] at listed
      exact ⟨_, listed⟩
  · rintro (isNothing | @⟨source, members, isRead, fits, noOther⟩)
    · exact ⟨_, .nothing isNothing⟩
    · cases found : members.lookup "components" with
      | none => exact ⟨_, .object isRead fits (by rw [found, Option.getD_none])⟩
      | some value =>
          obtain ⟨items, rfl⟩ := noOther value found
          exact ⟨_, .object isRead fits (by rw [found, Option.getD_some])⟩

/-! ## Unusable content -/

/-- Nothing of a page but its components and its image for previews depends on its content. -/
theorem compileContent_withContent (page : Page) (website : Website) (options : Options)
    (warnings : List Warning) (content : Content) (stored : Option String) :
    compileContent { page with content := stored } website options warnings content =
      compileContent page website options warnings content :=
  rfl

/-- Warnings of a page without components are those about its content. -/
theorem compileContent_empty (page : Page) (website : Website) (options : Options)
    (warnings : List Warning) :
    compileContent page website options warnings .empty =
      { compileContent page website options [] .empty with warnings := warnings } := by
  have noParts : warnings ++ partWarnings (partsOf options []) = warnings :=
    List.append_nil warnings
  simp only [compileContent, Content.empty, noParts]

theorem readContent_of_isNothing {stored : Option String} (isNothing : IsNothing stored) :
    readContent stored = .ok .empty :=
  readContent_eq_ok_iff.mpr (.nothing isNothing)

/-- Unusable content degrades to the empty page and to nothing else. A page whose content cannot be
read is compiled as the same page without content, or with blank content, in everything but the
warnings, and these are one with the message of the error; and content can be read exactly if it
can be used. -/
theorem recovery (page : Page) (website : Website) (options : Options) (stored : Option String) :
    (∀ error, readContent page.content = .error error → ∀ nothing, IsNothing nothing →
      compile page website options =
        { compile { page with content := nothing } website options with
          warnings := [⟨"content_parse_error", error.message, none⟩] }) ∧
      ((∃ content, readContent stored = .ok content) ↔ IsUsable stored) := by
  refine ⟨fun error failed nothing isNothing => ?_, exists_readContent_eq_ok_iff stored⟩
  have ofPage : compile page website options =
      compileContent page website options [contentWarning error] .empty := by
    rw [compile, failed]
  have ofNothing : compile { page with content := nothing } website options =
      compileContent page website options [] .empty := by
    rw [compile, readContent_of_isNothing isNothing]
    exact compileContent_withContent page website options [] .empty nothing
  rw [ofPage, ofNothing, compileContent_empty]
  rfl

def numberedPage : Page :=
  pageOfContent "\x7b\"components\": 7, \"ogImage\": \"/a.png\"\x7d"

/-- A page whose components are no list has no image for previews either. -/
theorem recovery_numberedPage :
    readContent numberedPage.content = .error .componentsNotList ∧ IsNothing none ∧
      compile numberedPage bareWebsite {} =
        { compile { numberedPage with content := none } bareWebsite {} with
          warnings :=
            [⟨"content_parse_error", "page content 'components' must be a list", none⟩] } := by
  have isRead : Json.read "\x7b\"components\": 7, \"ogImage\": \"/a.png\"\x7d" =
      .ok (.object [("components", .int 7), ("ogImage", .text "/a.png")]) := by
    with_unfolding_all rfl
  have shallow : (Json.object [("components", .int 7), ("ogImage", .text "/a.png")]).depth ≤
      depthLimit := by
    decide
  have failed : readContent numberedPage.content = .error .componentsNotList := by
    rw [numberedPage, pageOfContent, readContent_of_read isRead, contentOfJson,
      isDeeperThan_eq_false_iff.mpr shallow, if_neg Bool.false_ne_true]
    rfl
  exact ⟨failed, .missing, (recovery numberedPage bareWebsite {} none).1 _ failed none .missing⟩

end StaticSite.Page
