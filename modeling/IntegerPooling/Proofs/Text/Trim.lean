import IntegerPooling.Text.Blank
import Mathlib.Data.List.DropRight

/-!
# Trimmed texts

What is left of a text without the blank characters around it is a part of the text that neither
starts nor ends with a blank. There is exactly one such part (`trim_eq_iff`); blank characters
between others belong to it.
-/

namespace IntegerPooling

namespace Text

/-- Whether a text is another one between blank characters. -/
structure Trimmed (text core : List Char) : Prop where
  surrounded : ∃ before after, text = before ++ core ++ after ∧
    (∀ character ∈ before, isBlank character = true) ∧
    ∀ character ∈ after, isBlank character = true
  first : ∀ character ∈ core.head?, isBlank character = false
  last : ∀ character ∈ core.getLast?, isBlank character = false

theorem isBlank_of_mem_head?_dropWhile {text : List Char} {character : Char}
    (isHead : character ∈ (text.dropWhile isBlank).head?) : isBlank character = false := by
  have stopped := List.head?_dropWhile_not isBlank text
  rw [isHead] at stopped
  simpa using stopped

theorem trim_eq_rdropWhile (text : List Char) :
    trim text = (text.dropWhile isBlank).rdropWhile isBlank :=
  rfl

theorem trimmed_trim (text : List Char) : Trimmed text (trim text) := by
  have core := trim_eq_rdropWhile text
  refine ⟨⟨text.takeWhile isBlank, (text.dropWhile isBlank).rtakeWhile isBlank, ?_, ?_, ?_⟩, ?_, ?_⟩
  · rw [core, List.append_assoc, List.rdropWhile_append_rtakeWhile,
      List.takeWhile_append_dropWhile]
  · intro character taken
    exact List.mem_takeWhile_imp taken
  · intro character taken
    exact List.mem_rtakeWhile_imp taken
  · intro character isHead
    rcases List.rdropWhile_prefix isBlank (text.dropWhile isBlank) with ⟨dropped, joined⟩
    apply @isBlank_of_mem_head?_dropWhile text
    rw [← joined, List.head?_append, ← core, isHead]
    rfl
  · intro character isLast
    rw [trim, List.getLast?_reverse] at isLast
    exact isBlank_of_mem_head?_dropWhile isLast

/-- Blank characters around a text do not matter, whatever the text. -/
theorem trim_append {before core after : List Char}
    (blankBefore : ∀ character ∈ before, isBlank character = true)
    (blankAfter : ∀ character ∈ after, isBlank character = true) :
    trim (before ++ core ++ after) = trim core := by
  have blankReversed : ∀ character ∈ after.reverse, isBlank character = true := by
    intro character afterMem
    exact blankAfter character (List.mem_reverse.mp afterMem)
  rw [trim, trim, List.append_assoc, List.dropWhile_append_of_pos blankBefore,
    List.dropWhile_append]
  split
  · rename_i allBlank
    rw [List.dropWhile_eq_nil_iff.mpr blankAfter, List.isEmpty_iff.mp allBlank]
  · rw [List.reverse_append, List.dropWhile_append_of_pos blankReversed]

theorem trim_eq_iff {text core : List Char} : trim text = core ↔ Trimmed text core := by
  constructor
  · rintro rfl
    exact trimmed_trim text
  · rintro ⟨⟨before, after, rfl, blankBefore, blankAfter⟩, first, last⟩
    rw [trim_append blankBefore blankAfter, trim_eq_self first last]

end Text

end IntegerPooling
