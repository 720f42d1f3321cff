/-!
# Vector instruction sets

A host has vectors of 128 bits, of 256 bits, of both or of neither. `Capabilities` says which;
they can be masked off one by one and never added. The widest available set is the one an
operator is planned for when nothing else is asked.
-/

namespace IntegerPooling

/-- The vector widths a pooling routine can be specialised for. -/
inductive InstructionSet where
  | narrow
  | wide
deriving DecidableEq, Repr

namespace InstructionSet

def vectorBytes : InstructionSet → Nat
  | narrow => 16
  | wide => 32

def name : InstructionSet → String
  | narrow => "narrow"
  | wide => "wide"

/-- The capitalised tag of an instruction set, as the description of a routine shows it. -/
def tag : InstructionSet → String
  | narrow => "Narrow"
  | wide => "Wide"

/-- The name of an instruction set together with its width. -/
def label : InstructionSet → String
  | narrow => "narrow (128-bit)"
  | wide => "wide (256-bit)"

/-- All instruction sets, narrowest first. -/
def all : List InstructionSet :=
  [narrow, wide]

/-- One set is below another when its vectors are shorter. -/
instance : LT InstructionSet :=
  ⟨fun left right => left.vectorBytes < right.vectorBytes⟩

instance (left right : InstructionSet) : Decidable (left < right) :=
  inferInstanceAs (Decidable (left.vectorBytes < right.vectorBytes))

theorem mem_all (set : InstructionSet) : set ∈ all := by
  cases set <;> decide

theorem forall_iff {property : InstructionSet → Prop} :
    (∀ set, property set) ↔ property narrow ∧ property wide :=
  ⟨fun every => ⟨every narrow, every wide⟩, fun both set => by
    cases set with
    | narrow => exact both.1
    | wide => exact both.2⟩

end InstructionSet

/-- The instruction sets a host offers. -/
structure Capabilities where
  narrow : Bool
  wide : Bool
deriving DecidableEq, Repr

namespace Capabilities

def full : Capabilities :=
  ⟨true, true⟩

def none : Capabilities :=
  ⟨false, false⟩

def available (capabilities : Capabilities) : InstructionSet → Bool
  | .narrow => capabilities.narrow
  | .wide => capabilities.wide

/-- The same host with one set masked off. -/
def without (capabilities : Capabilities) : InstructionSet → Capabilities
  | .narrow => ⟨false, capabilities.wide⟩
  | .wide => ⟨capabilities.narrow, false⟩

def including (capabilities : Capabilities) : InstructionSet → Capabilities
  | .narrow => ⟨true, capabilities.wide⟩
  | .wide => ⟨capabilities.narrow, true⟩

def ofList (sets : List InstructionSet) : Capabilities :=
  sets.foldl including none

/-- The widest set the host offers. -/
def best? (capabilities : Capabilities) : Option InstructionSet :=
  InstructionSet.all.reverse.find? capabilities.available

theorem available_without (capabilities : Capabilities) (masked set : InstructionSet) :
    (capabilities.without masked).available set =
      (capabilities.available set && decide (set ≠ masked)) := by
  cases masked <;> cases set <;> simp [without, available]

theorem best?_eq_some_iff {capabilities : Capabilities} {set : InstructionSet} :
    capabilities.best? = some set ↔
      capabilities.available set = true ∧
        ∀ other, capabilities.available other = true → other.vectorBytes ≤ set.vectorBytes := by
  obtain ⟨narrow, wide⟩ := capabilities
  rw [InstructionSet.forall_iff]
  cases set <;> cases narrow <;> cases wide <;> decide

theorem best?_eq_none_iff {capabilities : Capabilities} :
    capabilities.best? = Option.none ↔ ∀ set, capabilities.available set = false := by
  simp only [best?, List.find?_eq_none, List.mem_reverse, Bool.not_eq_true]
  exact ⟨fun absent set => absent set set.mem_all, fun absent set _ => absent set⟩

end Capabilities

end IntegerPooling
