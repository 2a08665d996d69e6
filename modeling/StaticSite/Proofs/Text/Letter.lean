import Mathlib.Data.Nat.Notation

/-!
Contract: Latin letters and digits.

Owns:
- the range of their codes;
- tests of what holds of all characters with small codes, or of those of a text.

Does not own: which characters a name or an address may hold.
-/

namespace StaticSite.Text

theorem toNat_of_isAlphanum {character : Char} (alphanumeric : character.isAlphanum = true) :
    48 ≤ character.toNat ∧ character.toNat ≤ 122 := by
  have byKind : (character.isUpper || character.isLower || character.isDigit) = true := alphanumeric
  rw [Bool.or_eq_true, Bool.or_eq_true] at byKind
  rcases byKind with (capital | small) | digit
  · obtain ⟨low, high⟩ := of_decide_eq_true capital
    have fromFirst : 65 ≤ character.toNat := UInt32.le_iff_toNat_le.mp low
    have toLast : character.toNat ≤ 90 := UInt32.le_iff_toNat_le.mp high
    omega
  · obtain ⟨low, high⟩ := Bool.and_eq_true_iff.mp small
    have fromFirst : 97 ≤ character.toNat := UInt32.le_iff_toNat_le.mp (of_decide_eq_true low)
    have toLast : character.toNat ≤ 122 := UInt32.le_iff_toNat_le.mp (of_decide_eq_true high)
    omega
  · obtain ⟨low, high⟩ := Char.isDigit_iff_toNat.mp digit
    have zero : '0'.toNat = 48 := rfl
    have nine : '9'.toNat = 57 := rfl
    omega

/-- What is tested on all codes up to a bound holds of the characters with these codes. -/
theorem of_toNat_lt (property : Char → Prop) {bound : Nat}
    (tested : ∀ code < bound, property (Char.ofNat code)) {character : Char}
    (inRange : character.toNat < bound) : property character := by
  have holds := tested character.toNat inRange
  rwa [Char.ofNat_toNat] at holds

/-- A property that a test finds in every character of a text.  The quantifier itself is not
decided, since that may run through all characters there are. -/
theorem forall_mem_of_all {property : Char → Prop} [DecidablePred property] {text : List Char}
    (tested : text.all (fun character => decide (property character)) = true) :
    ∀ character ∈ text, property character :=
  fun character member => of_decide_eq_true (List.all_eq_true.mp tested character member)

end StaticSite.Text
