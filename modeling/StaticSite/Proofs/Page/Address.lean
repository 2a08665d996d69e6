import StaticSite.Page.Address
import StaticSite.Proofs.Text.Blank
import StaticSite.Proofs.Text.Split

/-!
Contract: the laws of paths and of the files that they lead to.

Owns:
- which segments name something, and recovery of the segments of a joined path;
- when two paths lead to the same document;
- the form of the path that a slug determines, which determines itself.

Does not own: keys in storage (see `StaticSite.Proofs.Storage.Key`).
-/

namespace StaticSite.Page

/-! ## Segments -/

/-- The name of a document in the directory that its path leads to. -/
def documentName : String := "index.html"

theorem slash_not_mem_of_mem_namedSegments {path segment : String}
    (member : segment ∈ namedSegments path) : '/' ∉ segment.toList :=
  Text.separator_not_mem_of_mem_splitAt (List.mem_filter.mp member).1

theorem isNamedSegment_of_mem_namedSegments {path segment : String}
    (member : segment ∈ namedSegments path) : isNamedSegment segment = true :=
  (List.mem_filter.mp member).2

theorem slash_not_mem_documentName : '/' ∉ documentName.toList := by
  decide

/-- Joined segments without slashes are recovered, as far as they name something. -/
theorem namedSegments_intercalate {segments : List String}
    (plain : ∀ segment ∈ segments, '/' ∉ segment.toList) :
    namedSegments ("/".intercalate segments) = segments.filter isNamedSegment := by
  cases segments with
  | nil =>
      rw [String.intercalate_nil]
      decide
  | cons first others =>
      rw [namedSegments, Text.splitAt_intercalate rfl (List.cons_ne_nil first others) plain]

/-- Joining the segments of a path that name something loses none of them. -/
theorem namedSegments_intercalate_namedSegments (path : String) :
    namedSegments ("/".intercalate (namedSegments path)) = namedSegments path := by
  rw [namedSegments_intercalate fun segment => slash_not_mem_of_mem_namedSegments]
  exact List.filter_eq_self.mpr fun segment => isNamedSegment_of_mem_namedSegments

/-- Cutting the joined segments of a path that name something gives them back. -/
theorem splitAt_intercalate_namedSegments {path : String} (someSegments : namedSegments path ≠ []) :
    Text.splitAt '/' ("/".intercalate (namedSegments path)) = namedSegments path :=
  Text.splitAt_intercalate rfl someSegments fun _ => slash_not_mem_of_mem_namedSegments

/-- A slash at the head of a path changes no segment that names something. -/
theorem namedSegments_of_toList_cons {path rest : String}
    (starts : path.toList = '/' :: rest.toList) :
    namedSegments path = namedSegments rest := by
  rw [namedSegments, Text.splitAt_of_toList_cons starts]
  rfl

theorem namedSegments_slash_append (path : String) :
    namedSegments ("/" ++ path) = namedSegments path :=
  namedSegments_of_toList_cons (by simp)

/-! ## Files -/

theorem filePath_plain {path segment : String}
    (member : segment ∈ namedSegments path ++ [documentName]) : '/' ∉ segment.toList := by
  rcases List.mem_append.mp member with named | isName
  · exact slash_not_mem_of_mem_namedSegments named
  · rw [List.mem_singleton.mp isName]
    exact slash_not_mem_documentName

theorem splitAt_filePath (path : String) :
    Text.splitAt '/' (filePath path) = namedSegments path ++ [documentName] :=
  Text.splitAt_intercalate rfl (by simp) fun _ member => filePath_plain member

/-- Two paths lead to the same document exactly if they have the same segments that
name something. -/
theorem filePath_eq_iff (path other : String) :
    filePath path = filePath other ↔ namedSegments path = namedSegments other := by
  constructor
  · intro sameFile
    have samePieces := congrArg (Text.splitAt '/') sameFile
    rw [splitAt_filePath, splitAt_filePath] at samePieces
    exact List.append_cancel_right samePieces
  · intro sameSegments
    rw [filePath, sameSegments, filePath]

theorem documentName_suffix_filePath (path : String) :
    documentName.toList <:+ (filePath path).toList := by
  rw [filePath]
  cases namedSegments path with
  | nil => exact List.suffix_refl _
  | cons first others =>
      rw [String.intercalate_append_of_ne_nil (by simp) (by simp), String.toList_append,
        String.intercalate_singleton]
      exact List.suffix_append _ _

/-! ## Slugs -/

/-- The path that a slug determines begins with a slash. -/
theorem head?_pathOfSlug (slug : Option String) :
    (pathOfSlug slug).toList.head? = some '/' := by
  simp only [pathOfSlug]
  split
  · rfl
  · split
    · rename_i startsWithSlash
      exact of_decide_eq_true (by simpa using startsWithSlash)
    · simp

theorem strip_pathOfSlug (slug : Option String) :
    Text.strip (pathOfSlug slug) = pathOfSlug slug := by
  have trimmed := Text.strip_strip (slug.getD "")
  simp only [pathOfSlug]
  split
  · decide
  · split
    · exact trimmed
    · have slashKept : Text.isBlank '/' = false := by decide
      have isTrimmed := congrArg String.toList trimmed
      rw [Text.toList_strip] at isTrimmed
      apply String.toList_inj.mp
      rw [Text.toList_strip, String.toList_append]
      exact Text.dropEndsWhile_cons slashKept isTrimmed

/-- A trimmed path that begins with a slash is the path of itself as a slug. -/
theorem pathOfSlug_of_trimmed {path : String} (trimmed : Text.strip path = path)
    (starts : path.toList.head? = some '/') : pathOfSlug (some path) = path := by
  have notEmpty : path ≠ "" := by
    rintro rfl
    cases starts
  by_cases isRoot : path = "/"
  · rw [isRoot]
    decide
  · simp [pathOfSlug, trimmed, notEmpty, isRoot, starts]

/-- The path that a slug determines, taken as a slug, determines itself. -/
theorem pathOfSlug_pathOfSlug (slug : Option String) :
    pathOfSlug (some (pathOfSlug slug)) = pathOfSlug slug :=
  pathOfSlug_of_trimmed (strip_pathOfSlug slug) (head?_pathOfSlug slug)

/-- A missing slug counts as an empty one. -/
theorem pathOfSlug_some_getD (slug : Option String) :
    pathOfSlug (some (slug.getD "")) = pathOfSlug slug := by
  cases slug <;> rfl

/-- What a path asks for below the root of its site. -/
def belowRoot (path : String) : String :=
  String.ofList path.toList.tail

/-- A slug leads to the same segments from the root of its site as from below it. -/
theorem namedSegments_belowRoot_pathOfSlug (slug : Option String) :
    namedSegments (belowRoot (pathOfSlug slug)) = namedSegments (pathOfSlug slug) := by
  obtain ⟨rest, starts⟩ := List.head?_eq_some_iff.mp (head?_pathOfSlug slug)
  refine (namedSegments_of_toList_cons ?_).symm
  rw [belowRoot, starts, String.toList_ofList, List.tail_cons]

end StaticSite.Page
