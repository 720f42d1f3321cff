import IntegerPooling.Failure
import IntegerPooling.Text.Blank
import IntegerPooling.Text.Numeral

/-!
# Options from the environment

Two environment variables may hold the options of a kernel. An unset variable leaves the standard
choice. Of several problems the first in the order instruction set, numeral, range is reported.
-/

namespace IntegerPooling

namespace Preference

/-- The preference with a name in canonical form; a set also answers to the names under which
hardware vendors know it. -/
def ofName? (name : String) : Option Preference :=
  if name ∈ ["", "auto"] then some auto
  else if name ∈ ["narrow", "sse42", "sse4.2", "neon"] then some (force .narrow)
  else if name ∈ ["wide", "avx2"] then some (force .wide)
  else none

def parse (text : String) : Except Refusal Preference :=
  match ofName? (Text.canonical text) with
  | some preference => .ok preference
  | none => .error (.option (.unknownInstructionSet (Text.canonical text)))

@[simp] theorem ofName?_name (preference : Preference) :
    ofName? preference.name = some preference := by
  cases preference with
  | auto => decide
  | force set => cases set <;> decide

end Preference

namespace Options

def validate (options : Options) : Except Refusal Unit :=
  if 1 ≤ options.unroll ∧ options.unroll ≤ maxUnroll then .ok ()
  else .error (.option (.unrollOutOfRange options.unroll))

def parseUnroll (text : String) : Except Refusal Nat :=
  match Numeral.parse? (Text.trim text.toList) with
  | some unroll => .ok unroll
  | none => .error (.option (.notANumber text))

/-- The options that the values of the two variables ask for. -/
def ofEnvironment (instructionSet unroll : Option String) : Except Refusal Options := do
  let preference ← match instructionSet with
    | some text => Preference.parse text
    | none => .ok standard.instructionSet
  let blocks ← match unroll with
    | some text => parseUnroll text
    | none => .ok standard.unroll
  let options : Options := ⟨preference, blocks⟩
  options.validate
  return options

/-- The text of a variable; bytes that are not UTF-8 count as an unset variable. -/
def variableText? (bytes : ByteArray) : Option String :=
  String.fromUTF8? bytes

theorem validate_eq_ok_iff {options : Options} :
    options.validate = .ok () ↔ 1 ≤ options.unroll ∧ options.unroll ≤ maxUnroll := by
  unfold validate
  split <;> simp_all

end Options

end IntegerPooling
