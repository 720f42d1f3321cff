import IntegerPooling.Element.Bytes
import IntegerPooling.Failure

/-!
# Buffers

A tensor is kept as bytes, one element after another. Elements are loaded from and stored at byte
addresses, and an access that leaves the buffer is a fault. `ofElements` and `toElements` move
between a buffer and the list of its elements.
-/

namespace IntegerPooling

abbrev Buffer := Array UInt8

namespace Buffer

def load (t : ElementType) (buffer : Buffer) (address : Nat) : Except Fault (Element t) :=
  if address + t.size ≤ buffer.size then
    .ok (Element.ofBytes t (buffer.extract address (address + t.size)).toList)
  else
    .error (.outOfBounds buffer.size address)

def setBytes (buffer : Buffer) (address : Nat) : List UInt8 → Buffer
  | [] => buffer
  | byte :: rest => setBytes (buffer.setIfInBounds address byte) (address + 1) rest

def store {t : ElementType} (buffer : Buffer) (address : Nat) (element : Element t) :
    Except Fault Buffer :=
  if address + t.size ≤ buffer.size then
    .ok (setBytes buffer address element.toBytes)
  else
    .error (.outOfBounds buffer.size address)

def storeAll {t : ElementType} (buffer : Buffer) (writes : List (Nat × Element t)) :
    Except Fault Buffer :=
  writes.foldlM (fun current write => store current write.1 write.2) buffer

def ofElements {t : ElementType} (elements : List (Element t)) : Buffer :=
  (elements.flatMap Element.toBytes).toArray

/-- The elements of a buffer, leaving out bytes at the end that make no whole element. -/
def toElements (t : ElementType) (buffer : Buffer) : List (Element t) :=
  (List.range (buffer.size / t.size)).map fun index =>
    Element.ofBytes t (buffer.extract (index * t.size) (index * t.size + t.size)).toList

theorem size_setBytes (buffer : Buffer) (address : Nat) (bytes : List UInt8) :
    (setBytes buffer address bytes).size = buffer.size := by
  induction bytes generalizing buffer address with
  | nil => rfl
  | cons byte rest ih => rw [setBytes, ih, Array.size_setIfInBounds]

theorem size_of_store {t : ElementType} {buffer result : Buffer} {address : Nat}
    {element : Element t} (stored : store buffer address element = .ok result) :
    result.size = buffer.size := by
  unfold store at stored
  split at stored
  · cases stored
    exact size_setBytes _ _ _
  · cases stored

theorem size_ofElements {t : ElementType} (elements : List (Element t)) :
    (ofElements elements).size = elements.length * t.size := by
  induction elements with
  | nil => simp [ofElements]
  | cons element rest ih =>
    simp only [ofElements, List.size_toArray, List.flatMap_cons, List.length_append,
      Element.length_toBytes, List.length_cons] at ih ⊢
    rw [ih, Nat.succ_mul, Nat.add_comm]

end Buffer

end IntegerPooling
