import StaticSite.Proofs.Page.Address
import StaticSite.Storage.Key

/-!
Contract: the laws of the keys of published files.

Owns:
- which file a path means, and when that is the document at the path;
- the content type that the ending of a key tells.

Does not own: what a bucket holds (see `StaticSite.Proofs.Storage.Upload`).
-/

namespace StaticSite.Storage

open StaticSite.Page

/-! ## Keys of files -/

theorem fileKey_inj {websiteId path other : String}
    (same : fileKey websiteId path = fileKey websiteId other) : path = other := by
  have sameCharacters := congrArg String.toList same
  simp only [fileKey, String.toList_append] at sameCharacters
  exact String.toList_inj.mp (List.append_cancel_left sameCharacters)

theorem fileKey_eq_iff (websiteId path other : String) :
    fileKey websiteId path = fileKey websiteId other ↔ path = other :=
  ⟨fileKey_inj, congrArg (fileKey websiteId)⟩

/-! ## The file that a path means -/

theorem requestedFile_of_not_endsInFileName {path : String}
    (noFileName : endsInFileName (namedSegments path) = false) :
    requestedFile path = filePath path := by
  unfold requestedFile
  simp only [noFileName, Bool.false_eq_true, if_false]
  rw [filePath_eq_iff, namedSegments_slash_append, namedSegments_intercalate_namedSegments]

theorem requestedFile_of_endsInFileName {path : String}
    (fileName : endsInFileName (namedSegments path) = true) :
    requestedFile path = "/".intercalate (namedSegments path) := by
  unfold requestedFile
  simp only [fileName, if_true]

theorem namedSegments_ne_nil_of_endsInFileName {segments : List String}
    (fileName : endsInFileName segments = true) : segments ≠ [] := by
  rintro rfl
  cases fileName

theorem requestedFile_ne_filePath_of_endsInFileName {path : String}
    (fileName : endsInFileName (namedSegments path) = true) :
    requestedFile path ≠ filePath path := by
  intro same
  rw [requestedFile_of_endsInFileName fileName] at same
  have samePieces := congrArg (Text.splitAt '/') same
  rw [splitAt_filePath, splitAt_intercalate_namedSegments
    (namedSegments_ne_nil_of_endsInFileName fileName)] at samePieces
  have sameLength := congrArg List.length samePieces
  rw [List.length_append, List.length_singleton] at sameLength
  omega

/-- A request for a path means the document at it exactly if the path does not end in a
file name. -/
theorem requestedFile_eq_filePath_iff (path : String) :
    requestedFile path = filePath path ↔ endsInFileName (namedSegments path) = false := by
  constructor
  · intro same
    cases fileName : endsInFileName (namedSegments path) with
    | false => rfl
    | true => exact absurd same (requestedFile_ne_filePath_of_endsInFileName fileName)
  · exact requestedFile_of_not_endsInFileName

theorem requestKey_eq_fileKey_iff (websiteId path : String) :
    requestKey websiteId path = fileKey websiteId (filePath path) ↔
      endsInFileName (namedSegments path) = false := by
  rw [requestKey, fileKey_eq_iff, requestedFile_eq_filePath_iff]

/-- A request for a path without the slash at its head means the same file. -/
theorem requestedFile_belowRoot_pathOfSlug (slug : Option String) :
    requestedFile (belowRoot (pathOfSlug slug)) = requestedFile (pathOfSlug slug) := by
  unfold requestedFile
  rw [namedSegments_belowRoot_pathOfSlug]

/-! ## Content types -/

theorem toLower_eq (word : String) :
    word.toLower = String.ofList (word.toList.map Char.toLower) := by
  refine String.toList_inj.mp ?_
  show (word.map Char.toLower).toList = _
  rw [String.toList_map, String.toList_ofList]

/-- A key tells its content type by what follows its last dot. -/
theorem contentTypeOf_append {word : String} (before : String) (plain : '.' ∉ word.toList) :
    contentTypeOf (before ++ "." ++ word) =
      (contentTypes.lookup word.toLower).getD "application/octet-stream" := by
  have isEnding : ending (before ++ "." ++ word) = word := by
    unfold ending
    rw [Text.splitAt_append_of_not_mem rfl plain]
    split
    · rename_i single isSingle
      have sameLength := congrArg List.length isSingle
      rw [List.length_append, List.length_singleton] at sameLength
      have noPieces : Text.splitAt '.' before = [] :=
        List.length_eq_zero_iff.mp (by simpa using sameLength)
      exact absurd (List.map_eq_nil_iff.mp noPieces) (Text.pieces_ne_nil '.' before.toList)
    · exact List.getLastD_concat
  rw [contentTypeOf, isEnding]

/-- The key of a document tells that it is one. -/
theorem contentTypeOf_fileKey_filePath (websiteId path : String) :
    contentTypeOf (fileKey websiteId (filePath path)) = "text/html" := by
  obtain ⟨before, isPath⟩ := documentName_suffix_filePath path
  have keyEnds : fileKey websiteId (filePath path) =
      (websiteId ++ "/" ++ String.ofList before ++ "index") ++ "." ++ "html" := by
    refine String.toList_inj.mp ?_
    simp only [fileKey, String.toList_append, String.toList_ofList, ← isPath, List.append_assoc]
    rfl
  rw [keyEnds, contentTypeOf_append _ (by decide), toLower_eq]
  decide

end StaticSite.Storage
