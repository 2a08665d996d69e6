import StaticSite.Proofs.Page.AssetName
import StaticSite.Proofs.Site.Documents

/-!
Contract: which pages of a website are not compiled.

Owns:
- a page that is left out, by the pages that stand before it;
- the law that a page is left out only for its id, its path or the name of its files;
- the exact condition under which all pages are compiled.

Does not own: when two ids have one name (see `StaticSite.Proofs.Page.AssetName`).
-/

namespace StaticSite.Site

open StaticSite.Page

/-! ## Pages that are left out -/

/-- What is reserved once some pages are kept. -/
def Reserved.addAll (reserved : Reserved) (kept : List Page) : Reserved :=
  kept.foldl Reserved.add reserved

/-- Each of two lists of pages is chosen from in turn, the second one with what the first one
reserves. -/
theorem keptPages_append (reserved : Reserved) (pages others : List Page) :
    keptPages reserved (pages ++ others) =
      keptPages reserved pages ++ keptPages (reserved.addAll (keptPages reserved pages)) others := by
  induction pages generalizing reserved with
  | nil => rfl
  | cons page rest inductionHypothesis =>
      rw [List.cons_append, keptPages, keptPages]
      split
      · rw [inductionHypothesis]
        rfl
      · exact inductionHypothesis reserved

theorem admits_addAll_iff (reserved : Reserved) (kept : List Page) (page : Page) :
    (reserved.addAll kept).admits page = true ↔
      (∀ other ∈ kept, Apart page other) ∧ reserved.admits page = true := by
  induction kept generalizing reserved with
  | nil => simp [Reserved.addAll]
  | cons first others inductionHypothesis =>
      have later : reserved.addAll (first :: others) = (reserved.add first).addAll others := rfl
      rw [later, inductionHypothesis, admits_add_iff, List.forall_mem_cons]
      tauto

theorem admits_none (page : Page) : Reserved.none.admits page = true :=
  rfl

/-- Whether a page behind some others is left out: no more is kept with it than without. -/
def IsLeftOut (before : List Page) (page : Page) : Prop :=
  keptPages .none (before ++ [page]) = keptPages .none before

/-- A page is left out exactly if it clashes with a page that is kept before it. -/
theorem isLeftOut_iff (before : List Page) (page : Page) :
    IsLeftOut before page ↔ ∃ kept ∈ keptPages .none before, ¬ Apart page kept := by
  have admitted := admits_addAll_iff .none (keptPages .none before) page
  rw [IsLeftOut, keptPages_append, List.append_right_eq_self, keptPages]
  cases admits : (Reserved.none.addAll (keptPages .none before)).admits page with
  | true =>
      have allApart := (admitted.mp admits).1
      simpa using allApart
  | false =>
      have someClash : ¬ ∀ other ∈ keptPages .none before, Apart page other := by
        intro allApart
        rw [admitted.mpr ⟨allApart, admits_none page⟩] at admits
        cases admits
      simpa [keptPages] using someClash

/-- All pages are kept exactly if no two of them clash. -/
theorem keptPages_eq_self_iff (reserved : Reserved) (pages : List Page) :
    keptPages reserved pages = pages ↔
      pages.Pairwise Apart ∧ ∀ page ∈ pages, reserved.admits page = true := by
  constructor
  · intro allKept
    refine ⟨allKept ▸ pairwise_apart_keptPages reserved pages, fun page member => ?_⟩
    exact admits_of_mem_keptPages (allKept.symm ▸ member)
  · rintro ⟨apart, admitted⟩
    induction pages generalizing reserved with
    | nil => rfl
    | cons first others inductionHypothesis =>
        obtain ⟨apartFirst, apartLater⟩ := List.pairwise_cons.mp apart
        obtain ⟨admittedFirst, admittedLater⟩ := List.forall_mem_cons.mp admitted
        rw [keptPages, if_pos admittedFirst, inductionHypothesis _ apartLater]
        intro page member
        have clash := apartFirst page member
        exact (admits_add_iff reserved first page).mpr
          ⟨⟨clash.id.symm, clash.path.symm, clash.asset.symm⟩, admittedLater page member⟩

/-! ## Names of files -/

/-- Whether no two different ids of some pages that are rewritten share their digits. -/
def DigestsApart (pages : List Page) : Prop :=
  ∀ page ∈ pages, ∀ other ∈ pages, page.id ≠ other.id →
    namesItself page.id = false → namesItself other.id = false →
      shortDigest page.id ≠ shortDigest other.id

/-- Two pages clash exactly if they share their id or their path, or if the id of one is what
that of the other is rewritten to. -/
theorem not_apart_iff {pages : List Page} (digests : DigestsApart pages) {page other : Page}
    (member : page ∈ pages) (otherMember : other ∈ pages) :
    ¬ Apart page other ↔ page.id = other.id ∨ page.path = other.path ∨
      Mimics page.id other.id ∨ Mimics other.id page.id := by
  by_cases sameId : page.id = other.id
  · exact ⟨fun _ => Or.inl sameId, fun _ apart => apart.id sameId⟩
  · have sameName := assetName_eq_iff sameId (digests page member other otherMember sameId)
    rw [← sameName]
    constructor
    · intro clash
      by_contra noClash
      simp only [not_or] at noClash
      exact clash ⟨noClash.1, noClash.2.1, noClash.2.2⟩
    · rintro (same | samePath | sameAsset) apart
      · exact apart.id same
      · exact apart.path samePath
      · exact apart.asset sameAsset

/-! ## Pages of a compiled website -/

theorem pages_of_compile {website : Website} {options : Options} {time : ZonedTime}
    {site : CompiledSite} (compiled : compile website options time = .ok site) :
    site.pages = (pagesOf website).map fun page => Page.compile page website options := by
  obtain ⟨utc, rfl⟩ := eq_compileAt_of_compile compiled
  rfl

/-- All pages of a website are compiled exactly if all of them are kept. -/
theorem pages_eq_all_iff {website : Website} {options : Options} {time : ZonedTime}
    {site : CompiledSite} (compiled : compile website options time = .ok site) :
    site.pages = website.pages.map (fun page => Page.compile page website options) ↔
      pagesOf website = website.pages := by
  rw [pages_of_compile compiled]
  constructor
  · intro same
    have sameLength := congrArg List.length same
    rw [List.length_map, List.length_map] at sameLength
    exact (keptPages_sublist .none website.pages).eq_of_length sameLength
  · intro allKept
    rw [allKept]

/-- Pages with different ids and different paths are all kept exactly if no id is what another
one is rewritten to. -/
theorem pagesOf_eq_pages_iff {website : Website} (digests : DigestsApart website.pages)
    (distinctIds : (website.pages.map (·.id)).Nodup)
    (distinctPaths : (website.pages.map (·.path)).Nodup) :
    pagesOf website = website.pages ↔
      ∀ page ∈ website.pages, ∀ other ∈ website.pages, ¬ Mimics page.id other.id := by
  rw [pagesOf, keptPages_eq_self_iff]
  constructor
  · rintro ⟨apart, _⟩ page member other otherMember mimics
    have sameName : page.asset = other.asset := mimics.assetName_eq
    have distinctNames : (website.pages.map (·.asset)).Nodup :=
      List.pairwise_map.mpr (apart.imp fun pagesApart => pagesApart.asset)
    have samePage := List.inj_on_of_nodup_map distinctNames member otherMember sameName
    obtain ⟨rewritten, isName⟩ := mimics
    rw [← samePage, isName, namesItself_rewrittenName] at rewritten
    cases rewritten
  · intro noMimic
    refine ⟨?_, fun page _ => admits_none page⟩
    have bothDistinct := (List.pairwise_map.mp distinctIds).and (List.pairwise_map.mp distinctPaths)
    refine bothDistinct.imp_of_mem ?_
    rintro page other member otherMember ⟨otherId, otherPath⟩
    by_contra clash
    rcases (not_apart_iff digests member otherMember).mp clash with same | same | mimics | mimics
    · exact otherId same
    · exact otherPath same
    · exact noMimic page member other otherMember mimics
    · exact noMimic other otherMember page member mimics

/-- As long as no two ids that are rewritten share their digits, a page is left out exactly if
it has the id or the path of a page that is kept before it, or if the id of one of the two is
what that of the other is rewritten to. If the ids differ and the paths differ, all pages are
compiled, in their order, exactly if no id is what another one is rewritten to. -/
theorem pages_lost_iff {website : Website} {options : Options} {time : ZonedTime}
    {site : CompiledSite} (digests : DigestsApart website.pages)
    (compiled : compile website options time = .ok site) :
    (∀ before page after, website.pages = before ++ page :: after →
      (IsLeftOut before page ↔ ∃ kept ∈ keptPages .none before,
        page.id = kept.id ∨ page.path = kept.path ∨
          Mimics page.id kept.id ∨ Mimics kept.id page.id)) ∧
    ((website.pages.map (·.id)).Nodup → (website.pages.map (·.path)).Nodup →
      (site.pages = website.pages.map (fun page => Page.compile page website options) ↔
        ∀ page ∈ website.pages, ∀ other ∈ website.pages, ¬ Mimics page.id other.id)) := by
  constructor
  · intro before page after arePages
    have member : page ∈ website.pages := by simp [arePages]
    rw [isLeftOut_iff]
    constructor
    · rintro ⟨kept, isKept, clash⟩
      have keptBefore := (keptPages_sublist .none before).subset isKept
      have keptMember : kept ∈ website.pages := by simp [arePages, keptBefore]
      exact ⟨kept, isKept, (not_apart_iff digests member keptMember).mp clash⟩
    · rintro ⟨kept, isKept, clash⟩
      have keptBefore := (keptPages_sublist .none before).subset isKept
      have keptMember : kept ∈ website.pages := by simp [arePages, keptBefore]
      exact ⟨kept, isKept, (not_apart_iff digests member keptMember).mpr clash⟩
  · intro distinctIds distinctPaths
    rw [pages_eq_all_iff compiled]
    exact pagesOf_eq_pages_iff digests distinctIds distinctPaths

theorem digestsApart_of_two {first second : String} {slug otherSlug : String}
    (itself : namesItself second = true) :
    DigestsApart (websiteOfSlugs [(first, slug), (second, otherSlug)]).pages := by
  intro page member other otherMember differ rewritten otherRewritten
  simp only [websiteOfSlugs, List.map_cons, List.map_nil, List.mem_cons, List.not_mem_nil,
    or_false] at member otherMember
  rcases member with rfl | rfl
  · rcases otherMember with rfl | rfl
    · exact absurd rfl differ
    · rw [itself] at otherRewritten
      cases otherRewritten
  · rw [itself] at rewritten
    cases rewritten

/-- Two ids that differ in a blank and a hyphen lose no page. -/
theorem pages_lost_nothing_of_blank :
    ∃ site, compile (websiteOfSlugs [("a b", "one"), ("a-b", "two")]) {} someNoon = .ok site ∧
      site.pages = (websiteOfSlugs [("a b", "one"), ("a-b", "two")]).pages.map
        fun page => Page.compile page (websiteOfSlugs [("a b", "one"), ("a-b", "two")]) {} := by
  refine ⟨_, compile_someNoon _ {}, ?_⟩
  have lost := pages_lost_iff (digestsApart_of_two (by decide)) (compile_someNoon
    (websiteOfSlugs [("a b", "one"), ("a-b", "two")]) {})
  exact (lost.2 (by decide) (by decide)).mpr (by decide +kernel)

/-- A page with an id and a path of its own is lost if its id is what the id before it is
rewritten to. -/
theorem not_pages_all_compiled :
    ¬ ∀ (website : Website) (options : Options) (time : ZonedTime) (site : CompiledSite),
      DigestsApart website.pages → (website.pages.map (·.id)).Nodup →
        (website.pages.map (·.path)).Nodup → compile website options time = .ok site →
          site.pages = website.pages.map fun page => Page.compile page website options := by
  intro allCompiled
  have compiled := allCompiled (websiteOfSlugs [("a b", "a"), ("a-b-7dbde935", "b")]) {} someNoon _
    (digestsApart_of_two (by decide)) (by decide) (by decide) (compile_someNoon _ {})
  have samePages := (pages_eq_all_iff (compile_someNoon _ {})).mp compiled
  have oneKept : (pagesOf (websiteOfSlugs [("a b", "a"), ("a-b-7dbde935", "b")])).length = 1 := by
    decide +kernel
  rw [samePages] at oneKept
  exact absurd oneKept (by decide)

end StaticSite.Site
