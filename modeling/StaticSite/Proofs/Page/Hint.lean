import Mathlib.Data.List.Nodup
import StaticSite.Page.Compile
import StaticSite.Proofs.Url.Scheme

/-!
Contract: the files that a page hints at, as links without repetitions.

Owns:
- the links that hints stand for;
- the law that a page lists these, each where it comes first;
- hints of two lists, one behind the other.

Does not own: which files a component hints at (see `StaticSite.Island.Hint`).
-/

namespace StaticSite.Page

/-- The links that hints stand for; hints that are no safe links have none. -/
def linksOf (hints : List String) : List String :=
  (hints.map Url.safe).filter (· != Url.harmless)

theorem linksOf_singleton {hint : String} (isLink : Url.safe hint ≠ Url.harmless) :
    linksOf [hint] = [Url.safe hint] := by
  simp [linksOf, isLink]

theorem linksOf_append (hints others : List String) :
    linksOf (hints ++ others) = linksOf hints ++ linksOf others := by
  rw [linksOf, List.map_append, List.filter_append]
  rfl

theorem eraseDups_append_singleton (texts : List String) (text : String) :
    (texts ++ [text]).eraseDups =
      if text ∈ texts then texts.eraseDups else texts.eraseDups ++ [text] := by
  rw [List.eraseDups_append]
  by_cases listed : text ∈ texts
  · simp [List.removeAll, listed]
  · simp [List.removeAll, listed, List.eraseDups_cons]

theorem eraseDups_append_eraseDups (texts others : List String) :
    (texts ++ others.eraseDups).eraseDups = (texts ++ others).eraseDups := by
  induction others using List.reverseRecOn with
  | nil => rfl
  | append_singleton others text inductionHypothesis =>
      rw [eraseDups_append_singleton, ← List.append_assoc, eraseDups_append_singleton]
      by_cases listed : text ∈ others
      · rw [if_pos listed, if_pos (List.mem_append_right texts listed), inductionHypothesis]
      · rw [if_neg listed, ← List.append_assoc, eraseDups_append_singleton, inductionHypothesis]
        simp only [List.mem_append, List.mem_eraseDups]

theorem eraseDups_eraseDups_append (texts others : List String) :
    (texts.eraseDups ++ others).eraseDups = (texts ++ others).eraseDups := by
  induction others using List.reverseRecOn with
  | nil =>
      rw [List.append_nil, List.append_nil]
      exact eraseDups_append_eraseDups [] texts
  | append_singleton others text inductionHypothesis =>
      rw [← List.append_assoc, ← List.append_assoc, eraseDups_append_singleton,
        eraseDups_append_singleton, inductionHypothesis]
      simp only [List.mem_append, List.mem_eraseDups]

/-- The hints of a page are the links of all hints, each where it comes first. -/
theorem collectHints_eq (hints : List String) : collectHints hints = (linksOf hints).eraseDups := by
  induction hints using List.reverseRecOn with
  | nil => rfl
  | append_singleton hints hint inductionHypothesis =>
      have isStep : collectHints (hints ++ [hint]) = addHint (collectHints hints) hint := by
        rw [collectHints, List.foldl_append, ← collectHints, List.foldl_cons, List.foldl_nil]
      rw [isStep, inductionHypothesis, linksOf_append, addHint]
      by_cases unsafeLink : Url.safe hint = Url.harmless
      · have noLink : linksOf [hint] = [] := by simp [linksOf, unsafeLink]
        rw [noLink, List.append_nil, unsafeLink]
        simp
      · rw [linksOf_singleton unsafeLink, eraseDups_append_singleton]
        simp [unsafeLink, List.mem_eraseDups]

theorem collectHints_append (hints others : List String) :
    collectHints (hints ++ others) = (collectHints hints ++ collectHints others).eraseDups := by
  rw [collectHints_eq, collectHints_eq, collectHints_eq, linksOf_append,
    eraseDups_append_eraseDups, eraseDups_eraseDups_append]

theorem nodup_eraseDups (texts : List String) : texts.eraseDups.Nodup := by
  induction texts using List.reverseRecOn with
  | nil => exact List.nodup_nil
  | append_singleton texts text inductionHypothesis =>
      rw [eraseDups_append_singleton]
      split
      · exact inductionHypothesis
      · rename_i isNew
        refine inductionHypothesis.append (List.nodup_singleton text) ?_
        exact List.disjoint_singleton.mpr (mt List.mem_eraseDups.mp isNew)

theorem nodup_collectHints (hints : List String) : (collectHints hints).Nodup := by
  rw [collectHints_eq]
  exact nodup_eraseDups _

theorem of_mem_collectHints {hints : List String} {link : String}
    (listed : link ∈ collectHints hints) :
    (∃ hint ∈ hints, Url.safe hint = link) ∧ link ≠ Url.harmless := by
  rw [collectHints_eq, List.mem_eraseDups] at listed
  obtain ⟨isLink, notHarmless⟩ := List.mem_filter.mp listed
  exact ⟨List.mem_map.mp isLink, bne_iff_ne.mp notHarmless⟩

theorem isSafe_of_mem_collectHints {hints : List String} :
    ∀ link ∈ collectHints hints, Url.IsSafe link := by
  intro link listed
  obtain ⟨⟨hint, _, rfl⟩, _⟩ := of_mem_collectHints listed
  exact Url.isSafe_safe hint

end StaticSite.Page
