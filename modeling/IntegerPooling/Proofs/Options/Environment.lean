import IntegerPooling.Options.Environment
import IntegerPooling.Proofs.Text.Numeral
import IntegerPooling.Proofs.Text.Trim

/-!
# What the environment may ask for

The two variables are a small language. A value for the instruction set is one of eight names, in
any case and between blanks (`Preference.AskedBy`); a value for the unrolling is a decimal numeral
between blanks (`UnrollAskedBy`). Options are made exactly of values of this language whose number
is in range, and any other pair of values is refused for one reason (`Refuses`): an unknown
instruction set before anything else, then a text that is no numeral or too large a one for a
machine word, then a number out of range.
-/

namespace IntegerPooling

namespace Preference

/-- The names of a preference in canonical form. -/
def names : Preference → List String
  | auto => ["", "auto"]
  | force .narrow => ["narrow", "sse42", "sse4.2", "neon"]
  | force .wide => ["wide", "avx2"]

/-- Whether the value of a variable asks for a preference. -/
inductive AskedBy : Option String → Preference → Prop where
  | unset : AskedBy none auto
  | named {text : String} {core : List Char} {preference : Preference}
      (trimmed : Text.Trimmed text.toList core)
      (listed : String.ofList (Text.lower core) ∈ preference.names) :
      AskedBy (some text) preference

/-- The preference of a variable that may be unset. -/
def ofVariable : Option String → Except Refusal Preference
  | some text => parse text
  | none => .ok auto

theorem ofName?_eq_some_iff {name : String} {preference : Preference} :
    ofName? name = some preference ↔ name ∈ preference.names := by
  constructor
  · intro named
    unfold ofName? at named
    split at named
    · rename_i isAuto
      cases named
      exact isAuto
    · split at named
      · rename_i isNarrow
        cases named
        exact isNarrow
      · split at named
        · rename_i isWide
          cases named
          exact isWide
        · cases named
  · intro listed
    cases preference with
    | auto =>
      simp only [names, List.mem_cons, List.not_mem_nil, or_false] at listed
      rcases listed with rfl | rfl <;> decide
    | force set =>
      cases set with
      | narrow =>
        simp only [names, List.mem_cons, List.not_mem_nil, or_false] at listed
        rcases listed with rfl | rfl | rfl | rfl <;> decide
      | wide =>
        simp only [names, List.mem_cons, List.not_mem_nil, or_false] at listed
        rcases listed with rfl | rfl <;> decide

theorem ofName?_eq_none_iff {name : String} :
    ofName? name = none ↔ ∀ preference : Preference, name ∉ preference.names := by
  simp only [Option.eq_none_iff_forall_ne_some, ne_eq, ofName?_eq_some_iff]

/-- Whether the value of a variable has a name, in canonical form, that no preference answers to. -/
def UnknownBy (value : Option String) (name : String) : Prop :=
  ∃ text core, value = some text ∧ Text.Trimmed text.toList core ∧
    name = String.ofList (Text.lower core) ∧ ∀ preference : Preference, name ∉ preference.names

theorem askedBy_some_iff {text : String} {preference : Preference} :
    AskedBy (some text) preference ↔ Text.canonical text ∈ preference.names := by
  constructor
  · intro asked
    cases asked with
    | named trimmed listed =>
      rw [← Text.trim_eq_iff.mpr trimmed] at listed
      exact listed
  · intro listed
    exact .named (Text.trimmed_trim text.toList) listed

theorem unknownBy_some_iff {text name : String} :
    UnknownBy (some text) name ↔
      Text.canonical text = name ∧ ∀ preference : Preference, name ∉ preference.names := by
  constructor
  · rintro ⟨_, _, ⟨⟩, trimmed, rfl, unlisted⟩
    rw [← Text.trim_eq_iff.mpr trimmed] at unlisted ⊢
    exact ⟨rfl, unlisted⟩
  · rintro ⟨rfl, unlisted⟩
    exact ⟨text, _, rfl, Text.trimmed_trim text.toList, rfl, unlisted⟩

theorem ofVariable_eq_ok_iff {value : Option String} {preference : Preference} :
    ofVariable value = .ok preference ↔ AskedBy value preference := by
  cases value with
  | none =>
    constructor
    · rintro ⟨rfl⟩
      exact .unset
    · rintro ⟨⟩
      rfl
  | some text =>
    rw [askedBy_some_iff, ← ofName?_eq_some_iff]
    simp only [ofVariable, parse]
    cases ofName? (Text.canonical text) <;> simp

theorem ofVariable_eq_error_iff {value : Option String} {refusal : Refusal} :
    ofVariable value = .error refusal ↔
      ∃ name, UnknownBy value name ∧ refusal = .option (.unknownInstructionSet name) := by
  cases value with
  | none => simp [ofVariable, UnknownBy]
  | some text =>
    simp only [unknownBy_some_iff, ← ofName?_eq_none_iff, and_assoc, exists_eq_left', ofVariable,
      parse]
    cases ofName? (Text.canonical text) <;> simp [eq_comm]

end Preference

namespace Options

/-- Whether the value of a variable asks for a number of blocks in a pass, however large. -/
inductive UnrollAskedBy : Option String → Nat → Prop where
  | unset : UnrollAskedBy none 1
  | numeral {text : String} {core : List Char} {unroll : Nat}
      (trimmed : Text.Trimmed text.toList core) (denotes : Numeral.Denotes core unroll) :
      UnrollAskedBy (some text) unroll

/-- The number of a variable that may be unset. -/
def unrollOfVariable : Option String → Except Refusal Nat
  | some text => parseUnroll text
  | none => .ok 1

theorem unrollAskedBy_some_iff {text : String} {unroll : Nat} :
    UnrollAskedBy (some text) unroll ↔ Numeral.Denotes (Text.trim text.toList) unroll := by
  constructor
  · intro asked
    cases asked with
    | numeral trimmed denotes =>
      rw [← Text.trim_eq_iff.mpr trimmed] at denotes
      exact denotes
  · intro denotes
    exact .numeral (Text.trimmed_trim text.toList) denotes

theorem unrollOfVariable_eq_ok_iff {value : Option String} {unroll : Nat} :
    unrollOfVariable value = .ok unroll ↔ UnrollAskedBy value unroll ∧ unroll < Size.limit := by
  cases value with
  | none =>
    constructor
    · rintro ⟨rfl⟩
      exact ⟨.unset, by decide⟩
    · rintro ⟨⟨⟩, _⟩
      rfl
  | some text =>
    rw [unrollAskedBy_some_iff, ← Numeral.parse?_eq_some_iff]
    simp only [unrollOfVariable, parseUnroll]
    cases Numeral.parse? (Text.trim text.toList) <;> simp

theorem unrollOfVariable_eq_error_iff {value : Option String} {refusal : Refusal} :
    unrollOfVariable value = .error refusal ↔
      ∃ text, value = some text ∧ refusal = .option (.notANumber text) ∧
        ∀ unroll, UnrollAskedBy value unroll → Size.limit ≤ unroll := by
  cases value with
  | none => simp [unrollOfVariable]
  | some text =>
    simp only [unrollAskedBy_some_iff, ← Numeral.parse?_eq_none_iff, Option.some.injEq,
      exists_eq_left', unrollOfVariable, parseUnroll]
    cases Numeral.parse? (Text.trim text.toList) <;> simp [eq_comm]

/-- Why a pair of values is refused. -/
inductive Refuses (instructionSet unroll : Option String) : OptionProblem → Prop where
  | unknownInstructionSet {name : String} (unknown : Preference.UnknownBy instructionSet name) :
      Refuses instructionSet unroll (.unknownInstructionSet name)
  | notANumber {preference : Preference} {text : String}
      (asked : Preference.AskedBy instructionSet preference) (given : unroll = some text)
      (unreadable : ∀ number, UnrollAskedBy unroll number → 2 ^ 64 ≤ number) :
      Refuses instructionSet unroll (.notANumber text)
  | outOfRange {preference : Preference} {number : Nat}
      (asked : Preference.AskedBy instructionSet preference)
      (given : UnrollAskedBy unroll number) (outside : number = 0 ∨ 5 ≤ number)
      (readable : number < 2 ^ 64) : Refuses instructionSet unroll (.unrollOutOfRange number)

theorem ofEnvironment_eq (instructionSet unroll : Option String) :
    ofEnvironment instructionSet unroll = (do
      let preference ← Preference.ofVariable instructionSet
      let blocks ← unrollOfVariable unroll
      validate ⟨preference, blocks⟩
      return ⟨preference, blocks⟩) := by
  cases instructionSet <;> cases unroll <;> rfl

theorem validate_eq_error_iff {options : Options} {refusal : Refusal} :
    options.validate = .error refusal ↔
      (options.unroll = 0 ∨ 5 ≤ options.unroll) ∧
        refusal = .option (.unrollOutOfRange options.unroll) := by
  have outside : ¬(1 ≤ options.unroll ∧ options.unroll ≤ maxUnroll) ↔
      options.unroll = 0 ∨ 5 ≤ options.unroll := by
    rw [maxUnroll]
    omega
  rw [← outside, validate]
  split
  · rename_i inRange
    simp [inRange]
  · rename_i outOfRange
    simp [outOfRange, eq_comm]

theorem ofEnvironment_eq_ok_iff {instructionSet unroll : Option String} {options : Options} :
    ofEnvironment instructionSet unroll = .ok options ↔
      Preference.AskedBy instructionSet options.instructionSet ∧
        UnrollAskedBy unroll options.unroll ∧ 1 ≤ options.unroll ∧ options.unroll ≤ 4 := by
  simp only [ofEnvironment_eq, Outcome.bind_eq_ok_iff, Preference.ofVariable_eq_ok_iff,
    unrollOfVariable_eq_ok_iff]
  constructor
  · rintro ⟨preference, asked, blocks, ⟨given, _⟩, _, checked, ⟨⟩⟩
    exact ⟨asked, given, validate_eq_ok_iff.mp checked⟩
  · rintro ⟨asked, given, inRange⟩
    have fits : options.unroll < Size.limit := Nat.lt_of_le_of_lt inRange.2 (by decide)
    exact ⟨_, asked, _, ⟨given, fits⟩, (), validate_eq_ok_iff.mpr inRange, rfl⟩

theorem ofEnvironment_eq_error_iff {instructionSet unroll : Option String} {refusal : Refusal} :
    ofEnvironment instructionSet unroll = .error refusal ↔
      ∃ problem, Refuses instructionSet unroll problem ∧ refusal = .option problem := by
  simp only [ofEnvironment_eq, Outcome.bind_eq_error_iff, Preference.ofVariable_eq_ok_iff,
    Preference.ofVariable_eq_error_iff, unrollOfVariable_eq_ok_iff, unrollOfVariable_eq_error_iff,
    validate_eq_error_iff]
  constructor
  · rintro (⟨name, unknown, rfl⟩ | ⟨preference, asked, rest⟩)
    · exact ⟨_, .unknownInstructionSet unknown, rfl⟩
    · rcases rest with ⟨text, given, rfl, unreadable⟩ | ⟨blocks, ⟨given, readable⟩, checked⟩
      · exact ⟨_, .notANumber asked given unreadable, rfl⟩
      · rcases checked with ⟨outside, rfl⟩ | ⟨_, _, ⟨⟩⟩
        exact ⟨_, .outOfRange asked given outside readable, rfl⟩
  · rintro ⟨problem, refuses, rfl⟩
    cases refuses with
    | unknownInstructionSet unknown => exact .inl ⟨_, unknown, rfl⟩
    | notANumber asked given unreadable =>
      exact .inr ⟨_, asked, .inl ⟨_, given, rfl, unreadable⟩⟩
    | outOfRange asked given outside readable =>
      exact .inr ⟨_, asked, .inr ⟨_, ⟨given, readable⟩, .inl ⟨outside, rfl⟩⟩⟩

/-- The options of an environment are made exactly of what its two variables ask for, or are
refused for exactly one reason. The refusal shows the trimmed name of an instruction set in lower
case, but a text that is no number as it was given. -/
theorem ofEnvironment_decided (instructionSet unroll : Option String) :
    (∀ options, ofEnvironment instructionSet unroll = .ok options ↔
      Preference.AskedBy instructionSet options.instructionSet ∧
        UnrollAskedBy unroll options.unroll ∧ 1 ≤ options.unroll ∧ options.unroll ≤ 4) ∧
    (∀ refusal, ofEnvironment instructionSet unroll = .error refusal ↔
      ∃ problem, Refuses instructionSet unroll problem ∧ refusal = .option problem) ∧
    (∀ name, (Refusal.option (.unknownInstructionSet name)).message =
      "Invalid option: QPOOL_ISA: unknown instruction set '" ++ name ++ "'") ∧
    (∀ text, (Refusal.option (.notANumber text)).message =
      "Invalid option: QPOOL_UNROLL: not a number: '" ++ text ++ "'") ∧
    ∀ number, (Refusal.option (.unrollOutOfRange number)).message =
      "Invalid option: unroll must be in 1..=4, got " ++ toString number := by
  refine ⟨fun _ => ofEnvironment_eq_ok_iff, fun _ => ofEnvironment_eq_error_iff, ?_, ?_, ?_⟩
  · intro name
    have header : "Invalid option: " ++ (instructionSetVariable ++ ": unknown instruction set '") =
        "Invalid option: QPOOL_ISA: unknown instruction set '" := rfl
    change "Invalid option: " ++ (instructionSetVariable ++ ": unknown instruction set '" ++ name ++
      "'") = _
    simp only [← header, String.append_assoc]
  · intro text
    have header : "Invalid option: " ++ (unrollVariable ++ ": not a number: '") =
        "Invalid option: QPOOL_UNROLL: not a number: '" := rfl
    change "Invalid option: " ++ (unrollVariable ++ ": not a number: '" ++ text ++ "'") = _
    simp only [← header, String.append_assoc]
  · intro number
    have header : "Invalid option: " ++ ("unroll must be in 1..=" ++ (toString maxUnroll ++
        ", got ")) = "Invalid option: unroll must be in 1..=4, got " := rfl
    change "Invalid option: " ++ ("unroll must be in 1..=" ++ toString maxUnroll ++ ", got " ++
      toString number) = _
    simp only [← header, String.append_assoc]

example : ofEnvironment (some " AVX2 ") (some "+0003") = .ok ⟨.force .wide, 3⟩ := by decide

/-- The first number that a machine word does not carry is no number, not one out of range. -/
example : ofEnvironment none (some "18446744073709551616") =
    .error (.option (.notANumber "18446744073709551616")) := by decide

end Options

end IntegerPooling
