import Mathlib.Data.List.Infix

/-!
Contract: where a mark can occur in a text put together from parts.

Owns:
- marks in texts with a character between their parts that the mark does not have;
- marks in texts whose characters have been rewritten, where the rewriting neither touches nor
  makes characters of the mark.

Does not own: which marks matter (see `StaticSite.Proofs.Page.ScriptData`).
-/

namespace StaticSite.Text

variable {mark : List Char}

/-! ## Parts with a character between them -/

theorem prefix_append_cons_iff {between : Char} (apart : between ∉ mark) (first rest : List Char) :
    mark <+: first ++ between :: rest ↔ mark <+: first := by
  induction first generalizing mark with
  | nil =>
      cases mark with
      | nil => simp
      | cons head others =>
          have differs : head ≠ between := by
            rintro rfl
            exact apart List.mem_cons_self
          simp [List.cons_prefix_cons, differs]
  | cons character others inductionHypothesis =>
      cases mark with
      | nil => simp
      | cons head further =>
          have later := inductionHypothesis fun member => apart (List.mem_cons_of_mem head member)
          rw [List.cons_append, List.cons_prefix_cons, List.cons_prefix_cons, later]

/-- No mark reaches over a character that it does not have. -/
theorem infix_append_cons_iff {between : Char} (apart : between ∉ mark) (first rest : List Char) :
    mark <:+: first ++ between :: rest ↔ mark <:+: first ∨ mark <:+: rest := by
  induction first with
  | nil =>
      have noStart := prefix_append_cons_iff apart [] rest
      rw [List.nil_append, List.prefix_nil] at noStart
      rw [List.nil_append, List.infix_cons_iff, noStart, List.infix_nil]
  | cons character others inductionHypothesis =>
      rw [List.cons_append, List.infix_cons_iff, inductionHypothesis, ← List.cons_append,
        prefix_append_cons_iff apart, List.infix_cons_iff, or_assoc]

theorem infix_cons_iff_of_not_mem {character : Char} (apart : character ∉ mark)
    (rest : List Char) : mark <:+: character :: rest ↔ mark <:+: rest := by
  have parts := infix_append_cons_iff apart [] rest
  rw [List.nil_append, List.infix_nil] at parts
  rw [parts, or_iff_right_of_imp]
  rintro rfl
  exact List.nil_infix

theorem infix_append_iff_of_not_mem {part : List Char}
    (apart : ∀ character ∈ part, character ∉ mark) (rest : List Char) :
    mark <:+: part ++ rest ↔ mark <:+: rest := by
  induction part with
  | nil => exact Iff.rfl
  | cons character others inductionHypothesis =>
      obtain ⟨apartHere, apartLater⟩ := List.forall_mem_cons.mp apart
      rw [List.cons_append, infix_cons_iff_of_not_mem apartHere,
        inductionHypothesis apartLater]

/-! ## Rewritten characters -/

/-- Whether a rewriting of characters keeps a mark apart: each character stays, or neither it
nor what it becomes has characters of the mark. -/
def KeepsApart (mark : List Char) (rewriting : Char → List Char) : Prop :=
  ∀ character, rewriting character = [character] ∨
    character ∉ mark ∧ rewriting character ≠ [] ∧
      ∀ written ∈ rewriting character, written ∉ mark

theorem prefix_flatMap_iff {rewriting : Char → List Char} (keeps : KeepsApart mark rewriting)
    {start : List Char} (within : ∀ character ∈ start, character ∈ mark) (text : List Char) :
    start <+: text.flatMap rewriting ↔ start <+: text := by
  -- The induction passes to ends of the mark, so it is stated for words in its characters.
  induction text generalizing start with
  | nil => exact Iff.rfl
  | cons character others inductionHypothesis =>
      cases start with
      | nil => simp
      | cons head further =>
          obtain ⟨inMark, laterInMark⟩ := List.forall_mem_cons.mp within
          rw [List.flatMap_cons]
          rcases keeps character with stays | ⟨notInMark, some, writtenApart⟩
          · rw [stays, List.singleton_append, List.cons_prefix_cons, List.cons_prefix_cons,
              inductionHypothesis laterInMark]
          · cases isWritten : rewriting character with
            | nil => exact absurd isWritten some
            | cons written rest =>
                have notWritten : head ≠ written := by
                  rintro rfl
                  exact writtenApart head (by rw [isWritten]; exact List.mem_cons_self) inMark
                have notCharacter : head ≠ character := by
                  rintro rfl
                  exact notInMark inMark
                simp [List.cons_prefix_cons, notWritten, notCharacter]

/-- A mark occurs after a rewriting that keeps it apart exactly if it occurred before. -/
theorem infix_flatMap_iff {rewriting : Char → List Char}
    (keeps : KeepsApart mark rewriting) (text : List Char) :
    mark <:+: text.flatMap rewriting ↔ mark <:+: text := by
  induction text with
  | nil => exact Iff.rfl
  | cons character others inductionHypothesis =>
      have here := prefix_flatMap_iff keeps (fun _ member => member) (character :: others)
      rw [List.flatMap_cons] at here ⊢
      rcases keeps character with stays | ⟨notInMark, _, writtenApart⟩
      · rw [stays, List.singleton_append] at here ⊢
        rw [List.infix_cons_iff, here, inductionHypothesis, List.infix_cons_iff]
      · rw [infix_append_iff_of_not_mem writtenApart, inductionHypothesis,
          infix_cons_iff_of_not_mem notInMark]

/-- Whether a change of characters keeps those of a mark apart from all others. -/
def KeepsEach (mark : List Char) (change : Char → Char) : Prop :=
  ∀ special ∈ mark, ∀ character, change character = special ↔ character = special

theorem prefix_map_iff {change : Char → Char} (keeps : KeepsEach mark change)
    (text : List Char) : mark <+: text.map change ↔ mark <+: text := by
  induction text generalizing mark with
  | nil => exact Iff.rfl
  | cons character others inductionHypothesis =>
      cases mark with
      | nil => simp
      | cons head further =>
          obtain ⟨keepsHead, keepsFurther⟩ := List.forall_mem_cons.mp keeps
          have later := inductionHypothesis keepsFurther
          rw [List.map_cons, List.cons_prefix_cons, List.cons_prefix_cons, later,
            eq_comm, keepsHead character, eq_comm]

theorem infix_map_iff {change : Char → Char} (keeps : KeepsEach mark change)
    (text : List Char) : mark <:+: text.map change ↔ mark <:+: text := by
  induction text with
  | nil => exact Iff.rfl
  | cons character others inductionHypothesis =>
      have here := prefix_map_iff keeps (character :: others)
      rw [List.map_cons] at here ⊢
      rw [List.infix_cons_iff, here, inductionHypothesis, List.infix_cons_iff]

end StaticSite.Text
