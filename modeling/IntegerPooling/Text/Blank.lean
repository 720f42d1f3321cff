/-!
# Blank characters and letter case

Names in requests may be surrounded by blank characters and written in any case. Blank are the
characters with the property White_Space; case is that of the ASCII letters alone, so a name
that contains another letter keeps it.
-/

namespace IntegerPooling

namespace Text

/-- The first and last code points of each run of characters with the property White_Space. -/
def blankRuns : List (Nat × Nat) :=
  [(0x9, 0xD), (0x20, 0x20), (0x85, 0x85), (0xA0, 0xA0), (0x1680, 0x1680), (0x2000, 0x200A),
    (0x2028, 0x2029), (0x202F, 0x202F), (0x205F, 0x205F), (0x3000, 0x3000)]

/-- Whether a character has the property White_Space. -/
def isBlank (character : Char) : Bool :=
  blankRuns.any fun run => run.1 ≤ character.toNat && character.toNat ≤ run.2

def trim (text : List Char) : List Char :=
  ((text.dropWhile isBlank).reverse.dropWhile isBlank).reverse

def lower (text : List Char) : List Char :=
  text.map Char.toLower

/-- The form in which names are compared: no blank ends, lower case. -/
def canonical (text : String) : String :=
  String.ofList (lower (trim text.toList))

theorem trim_eq_self {text : List Char}
    (first : ∀ character ∈ text.head?, isBlank character = false)
    (last : ∀ character ∈ text.getLast?, isBlank character = false) : trim text = text := by
  have noneDropped : ∀ characters : List Char,
      (∀ character ∈ characters.head?, isBlank character = false) →
        characters.dropWhile isBlank = characters := by
    intro characters headNotBlank
    cases characters with
    | nil => rfl
    | cons character rest => simp [List.dropWhile, headNotBlank character (by simp)]
  rw [trim, noneDropped text first, noneDropped text.reverse (by simpa using last),
    List.reverse_reverse]

end Text

end IntegerPooling
