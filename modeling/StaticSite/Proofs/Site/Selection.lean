import StaticSite.Site.Selection

/-!
Contract: the laws of the choice of pages.

Owns:
- kept pages come from the list and clash with nothing that was reserved before;
- kept pages differ in their ids, in their paths and in their file names.

Does not own: the files of the chosen pages (see `StaticSite.Proofs.Site.Documents`).
-/

namespace StaticSite.Site

/-- Pages that differ in everything that a kept page reserves. -/
structure Apart (page other : Page) : Prop where
  id : page.id ≠ other.id
  path : page.path ≠ other.path
  asset : page.asset ≠ other.asset

theorem admits_iff (reserved : Reserved) (page : Page) :
    reserved.admits page = true ↔
      page.id ∉ reserved.ids ∧ page.path ∉ reserved.paths ∧ page.asset ∉ reserved.assets := by
  simp [Reserved.admits, and_assoc]

/-- A page that is admitted once another is kept was admitted before and clashes with
no part of it. -/
theorem admits_add_iff (reserved : Reserved) (kept page : Page) :
    (reserved.add kept).admits page = true ↔
      Apart page kept ∧ reserved.admits page = true := by
  simp only [admits_iff, Reserved.add, List.mem_cons, not_or]
  constructor
  · rintro ⟨⟨idApart, idFree⟩, ⟨pathApart, pathFree⟩, assetApart, assetFree⟩
    exact ⟨⟨idApart, pathApart, assetApart⟩, idFree, pathFree, assetFree⟩
  · rintro ⟨apart, idFree, pathFree, assetFree⟩
    exact ⟨⟨apart.id, idFree⟩, ⟨apart.path, pathFree⟩, apart.asset, assetFree⟩

theorem admits_of_mem_keptPages {reserved : Reserved} {pages : List Page} {page : Page}
    (member : page ∈ keptPages reserved pages) : reserved.admits page = true := by
  induction pages generalizing reserved with
  | nil => exact absurd member List.not_mem_nil
  | cons first others inductionHypothesis =>
      unfold keptPages at member
      split at member
      · rename_i admitted
        rcases List.mem_cons.mp member with rfl | later
        · exact admitted
        · exact ((admits_add_iff reserved first page).mp (inductionHypothesis later)).2
      · exact inductionHypothesis member

theorem keptPages_sublist (reserved : Reserved) (pages : List Page) :
    (keptPages reserved pages).Sublist pages := by
  induction pages generalizing reserved with
  | nil => exact List.Sublist.refl []
  | cons page others inductionHypothesis =>
      rw [keptPages]
      split
      · exact (inductionHypothesis _).cons_cons page
      · exact (inductionHypothesis _).cons page

theorem pairwise_apart_keptPages (reserved : Reserved) (pages : List Page) :
    (keptPages reserved pages).Pairwise Apart := by
  induction pages generalizing reserved with
  | nil => exact List.Pairwise.nil
  | cons first others inductionHypothesis =>
      unfold keptPages
      split
      · refine List.pairwise_cons.mpr ⟨?_, inductionHypothesis (reserved.add first)⟩
        intro page later
        have apart := ((admits_add_iff reserved first page).mp (admits_of_mem_keptPages later)).1
        exact ⟨apart.id.symm, apart.path.symm, apart.asset.symm⟩
      · exact inductionHypothesis reserved

/-- The pages of a site differ in their ids, in their paths and in their file names. -/
theorem pairwise_apart_pagesOf (website : Website) : (pagesOf website).Pairwise Apart :=
  pairwise_apart_keptPages .none website.pages

theorem mem_pages_of_mem_pagesOf {website : Website} {page : Page}
    (member : page ∈ pagesOf website) : page ∈ website.pages :=
  (keptPages_sublist .none website.pages).subset member

end StaticSite.Site
