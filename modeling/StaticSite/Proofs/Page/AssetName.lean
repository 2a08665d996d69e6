import StaticSite.Page.Address
import StaticSite.Proofs.Page.Content

/-!
Contract: the names that pages have in the names of their files.

Owns:
- ids that name themselves, and the names that all other ids are rewritten to, all of them safe;
- the exact condition under which two ids have one name.

Does not own: which pages a site loses to such a clash (see `StaticSite.Proofs.Site.PageLoss`).
-/

namespace StaticSite.Page

open StaticSite.Component

/-! ## The two kinds of names -/

/-- Whether an id stands in the names of files as it is. -/
def namesItself (id : String) : Bool :=
  hyphenate id != "" && hyphenate id == id

/-- The digits of a digest that tell apart ids which are rewritten. -/
def shortDigest (id : String) : String :=
  String.ofList ((Digest.Sha1.hexDigest (Text.utf8Bytes id)).toList.take digestLength)

/-- The name that an id is rewritten to. -/
def rewrittenName (id : String) : String :=
  (if hyphenate id == "" then "page" else hyphenate id) ++ "-" ++ shortDigest id

theorem assetName_of_namesItself {id : String} (itself : namesItself id = true) :
    assetName id = id := by
  have isId : hyphenate id = id := beq_iff_eq.mp (Bool.and_eq_true_iff.mp itself).2
  unfold namesItself at itself
  rw [assetName, if_pos itself, isId]

theorem assetName_of_not_namesItself {id : String} (rewritten : namesItself id = false) :
    assetName id = rewrittenName id := by
  unfold namesItself at rewritten
  rw [assetName, rewritten]
  rfl

theorem namesItself_of_isSafeId {id : String} (notEmpty : id ≠ "") (safe : IsSafeId id) :
    namesItself id = true := by
  rw [namesItself, hyphenate_of_isSafeId safe]
  simp [notEmpty]

/-! ## Digests -/

theorem length_bytesOf (order : Number.ByteOrder) (count value : Nat) :
    (Number.bytesOf order count value).length = count := by
  cases order <;> simp [Number.bytesOf]

theorem length_hexText (bytes : List UInt8) :
    (Digest.hexText bytes).toList.length = 2 * bytes.length := by
  rw [Digest.hexText, String.toList_ofList]
  induction bytes with
  | nil => rfl
  | cons byte others inductionHypothesis =>
      rw [List.flatMap_cons, List.length_append, inductionHypothesis, List.length_cons]
      simp only [List.length_cons, List.length_nil]
      omega

theorem length_hexDigest (message : List UInt8) :
    (Digest.Sha1.hexDigest message).toList.length = 40 := by
  rw [Digest.Sha1.hexDigest, Digest.wordsText, length_hexText]
  simp [length_bytesOf]

theorem length_shortDigest (id : String) : (shortDigest id).toList.length = digestLength := by
  rw [shortDigest, String.toList_ofList, List.length_take, length_hexDigest]
  rfl

theorem isIdCharacter_digitChar {value : Nat} (isDigit : value < 16) :
    isIdCharacter (Nat.digitChar value) = true := by
  have allDigits : ∀ digit < 16, isIdCharacter (Nat.digitChar digit) = true := by decide
  exact allDigits value isDigit

theorem isSafeId_hexText (bytes : List UInt8) : IsSafeId (Digest.hexText bytes) := by
  intro character member
  rw [Digest.hexText, String.toList_ofList] at member
  obtain ⟨byte, _, inByte⟩ := List.mem_flatMap.mp member
  have bounded : byte.toNat < 256 := byte.toNat_lt
  simp only [List.mem_cons, List.not_mem_nil, or_false] at inByte
  rcases inByte with rfl | rfl
  · exact isIdCharacter_digitChar (by omega)
  · exact isIdCharacter_digitChar (by omega)

theorem isSafeId_shortDigest (id : String) : IsSafeId (shortDigest id) := by
  intro character member
  rw [shortDigest, String.toList_ofList] at member
  exact isSafeId_hexText _ character (List.mem_of_mem_take member)

theorem isSafeId_rewrittenName (id : String) : IsSafeId (rewrittenName id) := by
  have safeStem : IsSafeId (if hyphenate id == "" then "page" else hyphenate id) := by
    split
    · decide
    · exact isSafeId_hyphenate id
  have hyphen : IsSafeId "-" := by decide
  exact isSafeId_append (isSafeId_append safeStem hyphen) (isSafeId_shortDigest id)

theorem isSafeId_assetName (id : String) : IsSafeId (assetName id) := by
  cases itself : namesItself id with
  | false =>
      rw [assetName_of_not_namesItself itself]
      exact isSafeId_rewrittenName id
  | true =>
      have isId : hyphenate id = id := beq_iff_eq.mp (Bool.and_eq_true_iff.mp itself).2
      rw [assetName_of_namesItself itself, ← isId]
      exact isSafeId_hyphenate id

/-- Names that ids are rewritten to end in the digits of those ids. -/
theorem shortDigest_eq_of_rewrittenName_eq {id other : String}
    (same : rewrittenName id = rewrittenName other) : shortDigest id = shortDigest other := by
  have sameText := congrArg String.toList same
  simp only [rewrittenName, String.toList_append] at sameText
  have sameLength := (length_shortDigest id).trans (length_shortDigest other).symm
  exact String.toList_inj.mp (List.append_inj_right' sameText sameLength)

/-! ## Ids with one name -/

theorem namesItself_rewrittenName (id : String) : namesItself (rewrittenName id) = true := by
  apply namesItself_of_isSafeId
  · intro isEmpty
    have isNil := congrArg String.toList isEmpty
    simp [rewrittenName] at isNil
  · exact isSafeId_rewrittenName id

/-- Whether an id is, as it stands, the name that another id is rewritten to. -/
def Mimics (id other : String) : Prop :=
  namesItself other = false ∧ id = rewrittenName other

instance (id other : String) : Decidable (Mimics id other) :=
  inferInstanceAs (Decidable (_ ∧ _))

theorem Mimics.assetName_eq {id other : String} (mimics : Mimics id other) :
    assetName id = assetName other := by
  obtain ⟨rewritten, rfl⟩ := mimics
  rw [assetName_of_namesItself (namesItself_rewrittenName other),
    assetName_of_not_namesItself rewritten]

/-- Different ids have one name exactly if one is the name that the other is rewritten to, as
long as no two that are rewritten share their digits. -/
theorem assetName_eq_iff {id other : String} (differ : id ≠ other)
    (digestsApart : namesItself id = false → namesItself other = false →
      shortDigest id ≠ shortDigest other) :
    assetName id = assetName other ↔ Mimics id other ∨ Mimics other id := by
  constructor
  · intro same
    cases itself : namesItself id with
    | true =>
        rw [assetName_of_namesItself itself] at same
        cases otherItself : namesItself other with
        | true =>
            rw [assetName_of_namesItself otherItself] at same
            exact absurd same differ
        | false =>
            rw [assetName_of_not_namesItself otherItself] at same
            exact Or.inl ⟨otherItself, same⟩
    | false =>
        rw [assetName_of_not_namesItself itself] at same
        cases otherItself : namesItself other with
        | true =>
            rw [assetName_of_namesItself otherItself] at same
            exact Or.inr ⟨itself, same.symm⟩
        | false =>
            rw [assetName_of_not_namesItself otherItself] at same
            exact absurd (shortDigest_eq_of_rewrittenName_eq same)
              (digestsApart itself otherItself)
  · rintro (mimics | mimics)
    · exact mimics.assetName_eq
    · exact mimics.assetName_eq.symm

end StaticSite.Page
