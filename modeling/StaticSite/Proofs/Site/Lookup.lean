import StaticSite.Proofs.Site.PageLoss
import StaticSite.Proofs.Site.Publication

/-!
Contract: the pages of a site, and the page that a slug or a path leads to.

Owns:
- the choice of pages by those that are kept before each, whatever is reserved meanwhile;
- look-up of the pages of a compiled site by slugs and by paths;
- the law that a page of a site is found by its slug and by its path, and nothing else is.

Does not own: when two pages share the names of their files (see `StaticSite.Proofs.Site.PageLoss`).
-/

namespace StaticSite.Site

open StaticSite.Page

/-! ## The choice of pages -/

/-- Whether some pages are those of a list that are kept: a page is kept if it differs in its id, its
path and its file name from all that are kept before it, and skipped if it shares one of them with
such a page. -/
inductive Selects : List Page → List Page → Prop where
  | nothing : Selects [] []
  | keep {pages kept : List Page} {page : Page} (before : Selects pages kept)
      (apart : ∀ other ∈ kept,
        page.id ≠ other.id ∧ page.path ≠ other.path ∧ page.asset ≠ other.asset) :
      Selects (pages ++ [page]) (kept ++ [page])
  | skip {pages kept : List Page} {page other : Page} (before : Selects pages kept)
      (isKept : other ∈ kept)
      (shares : page.id = other.id ∨ page.path = other.path ∨ page.asset = other.asset) :
      Selects (pages ++ [page]) kept

theorem shares_of_not_apart {page other : Page} (clash : ¬ Apart page other) :
    page.id = other.id ∨ page.path = other.path ∨ page.asset = other.asset := by
  by_contra noneShared
  simp only [not_or] at noneShared
  exact clash ⟨noneShared.1, noneShared.2.1, noneShared.2.2⟩

/-- Whether a further page is kept is decided by the pages that are kept before it. -/
theorem keptPages_append_singleton (before : List Page) (page : Page) :
    keptPages .none (before ++ [page]) =
      if (Reserved.none.addAll (keptPages .none before)).admits page then
        keptPages .none before ++ [page]
      else
        keptPages .none before := by
  rw [keptPages_append, keptPages]
  split
  · rfl
  · exact List.append_nil _

theorem selects_keptPages (pages : List Page) : Selects pages (keptPages .none pages) := by
  -- From the end: what decides on a page are the pages kept before it, which the choice names only
  -- through what they reserve.
  induction pages using List.reverseRecOn with
  | nil => exact .nothing
  | append_singleton before page inductionHypothesis =>
      have admitted := admits_addAll_iff .none (keptPages .none before) page
      rw [keptPages_append_singleton]
      split
      · rename_i admits
        refine .keep inductionHypothesis fun other isKept => ?_
        have apart := (admitted.mp admits).1 other isKept
        exact ⟨apart.id, apart.path, apart.asset⟩
      · rename_i rejects
        have someClash : ∃ other ∈ keptPages .none before, ¬ Apart page other := by
          by_contra noClash
          push Not at noClash
          exact rejects (admitted.mpr ⟨noClash, admits_none page⟩)
        obtain ⟨other, isKept, clash⟩ := someClash
        exact .skip inductionHypothesis isKept (shares_of_not_apart clash)

/-! ## Look-up -/

/-- A slug leads to the kept page whose path it determines. -/
theorem pageFor_eq (website : Website) (options : Options) (time : UtcTime) (slug : String) :
    (compileAt website options time).pageFor slug =
      ((pagesOf website).find? fun page => page.path == pathOfSlug (some slug)).map
        fun page => Page.compile page website options := by
  simp only [CompiledSite.pageFor, compileAt, List.find?_map, Function.comp_def, path_compile]

theorem nodup_path_pagesOf (website : Website) : ((pagesOf website).map (·.path)).Nodup :=
  List.pairwise_map.mpr ((pairwise_apart_pagesOf website).imp fun apart => apart.path)

theorem pageFor_of_mem {website : Website} {options : Options} {time : UtcTime} {page : Page}
    (member : page ∈ pagesOf website) {slug : String} (leads : pathOfSlug (some slug) = page.path) :
    (compileAt website options time).pageFor slug = some (Page.compile page website options) := by
  rw [pageFor_eq, leads, find?_eq_some_of_nodup (nodup_path_pagesOf website) member]
  rfl

theorem pageFor_of_forall_ne {website : Website} {options : Options} {time : UtcTime}
    {slug : String} (nowhere : ∀ page ∈ pagesOf website, page.path ≠ pathOfSlug (some slug)) :
    (compileAt website options time).pageFor slug = none := by
  rw [pageFor_eq, Option.map_eq_none_iff, List.find?_eq_none]
  intro page member leads
  exact nowhere page member (beq_iff_eq.mp leads)

/-- A slug leads to the only kept page with the path that it determines, or to none if there is no
such page. -/
theorem pageFor_cases (website : Website) (options : Options) (time : UtcTime) (slug : String) :
    (∃ page ∈ pagesOf website, page.path = pathOfSlug (some slug) ∧
        (∀ other ∈ pagesOf website, other.path = pathOfSlug (some slug) → other = page) ∧
        (compileAt website options time).pageFor slug =
          some (Page.compile page website options)) ∨
      (∀ page ∈ pagesOf website, page.path ≠ pathOfSlug (some slug)) ∧
        (compileAt website options time).pageFor slug = none := by
  by_cases leads : ∃ page ∈ pagesOf website, page.path = pathOfSlug (some slug)
  · obtain ⟨page, member, isPath⟩ := leads
    refine Or.inl ⟨page, member, isPath, fun other otherMember otherPath => ?_,
      pageFor_of_mem member isPath.symm⟩
    exact List.inj_on_of_nodup_map (nodup_path_pagesOf website) otherMember member
      (otherPath.trans isPath.symm)
  · push Not at leads
    exact Or.inr ⟨leads, pageFor_of_forall_ne leads⟩

/-! ## Selection and look-up -/

/-- The pages of a compiled site are those that are selected of its website, in their order, and no
two of them share an id, a path or a file name. A slug or a path leads to the only one of them with
the path that it determines, and to none if there is no such page; the path of a selected page and
its slug, if it has one, lead to it. -/
theorem pages_selected_and_found {website : Website} {options : Options} {time : ZonedTime}
    {site : CompiledSite} (compiled : compile website options time = .ok site) :
    ∃ kept, Selects website.pages kept ∧ kept.Sublist website.pages ∧
      site.pages = kept.map (fun page => Page.compile page website options) ∧
      (site.pages.map (·.pageId)).Nodup ∧ (site.pages.map (·.path)).Nodup ∧
      (site.pages.map (·.asset)).Nodup ∧
      (∀ slug,
        (∃ page ∈ kept, page.path = pathOfSlug (some slug) ∧
            (∀ other ∈ kept, other.path = pathOfSlug (some slug) → other = page) ∧
            site.pageFor slug = some (Page.compile page website options)) ∨
          (∀ page ∈ kept, page.path ≠ pathOfSlug (some slug)) ∧ site.pageFor slug = none) ∧
      ∀ page ∈ kept,
        site.pageFor page.path = some (Page.compile page website options) ∧
          site.pageFor (page.slug.getD "") = some (Page.compile page website options) := by
  obtain ⟨utc, rfl⟩ := eq_compileAt_of_compile compiled
  have apart := pairwise_apart_pagesOf website
  have arePages := pages_of_compile compiled
  refine ⟨pagesOf website, selects_keptPages website.pages, keptPages_sublist .none website.pages,
    arePages, ?_, ?_, ?_, pageFor_cases website options utc, fun page member => ⟨?_, ?_⟩⟩
  · rw [arePages, List.map_map]
    refine List.pairwise_map.mpr (apart.imp fun pagesApart => ?_)
    simpa [pageId_compile] using pagesApart.id
  · rw [arePages, List.map_map]
    refine List.pairwise_map.mpr (apart.imp fun pagesApart => ?_)
    simpa [path_compile] using pagesApart.path
  · exact List.pairwise_map.mpr (pairwise_asset_pages website options utc)
  · exact pageFor_of_mem member (pathOfSlug_pathOfSlug page.slug)
  · exact pageFor_of_mem member (pathOfSlug_some_getD page.slug)

/-- A website with a page that repeats the id of the first, and with one that repeats the path of
the page skipped. -/
def repeatingWebsite : Website :=
  websiteOfSlugs [("a", "x"), ("a", "y"), ("b", "/x "), ("c", "y")]

/-- A page that is skipped keeps nothing for itself: its path leads to a later page. -/
theorem pages_selected_and_found_repeatingWebsite :
    ∃ site kept, compile repeatingWebsite {} someNoon = .ok site ∧
      Selects repeatingWebsite.pages kept ∧ kept.map (·.id) = ["a", "c"] ∧
      (∀ page ∈ kept, site.pageFor page.path = some (Page.compile page repeatingWebsite {})) ∧
      (site.pageFor "y").map (·.pageId) = some "c" ∧ site.pageFor "z" = none := by
  have compiled := compile_someNoon repeatingWebsite {}
  obtain ⟨kept, selects, _, arePages, _, _, _, _, found⟩ := pages_selected_and_found compiled
  have sameIds := congrArg (List.map (·.pageId)) (arePages.symm.trans (pages_of_compile compiled))
  simp only [List.map_map, Function.comp_def, pageId_compile] at sameIds
  refine ⟨_, kept, compiled, selects, sameIds.trans (by decide +kernel),
    fun page member => (found page member).1, ?_, ?_⟩
  · rw [pageFor_eq, Option.map_map, Function.comp_def]
    simp only [pageId_compile]
    decide +kernel
  · exact pageFor_of_forall_ne (by decide +kernel)

end StaticSite.Site
