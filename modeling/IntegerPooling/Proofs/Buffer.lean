import IntegerPooling.Buffer
import IntegerPooling.Proofs.Sequence
import Mathlib.Data.List.Basic

/-!
# Buffers as lists of elements

A buffer of whole elements is `ofElements` of their list. Through that view a load at an element
address gives a member of the list (`load_ofElements`), a store replaces one (`store_ofElements`),
and a run of stores overwrites the elements at their places (`storeAll_ofElements`). When each
place has one value that is ever written to it, the order of the stores plays no part
(`overwrite_of_covered`).
-/

namespace IntegerPooling

namespace Buffer

section Groups

variable {α β : Type} {encode : α → List β} {size : Nat}

/-- The encoding of one element stands at its place. -/
theorem take_drop_flatMap (sized : ∀ element, (encode element).length = size)
    (elements : List α) {place : Nat} (placeLt : place < elements.length) :
    ((elements.flatMap encode).drop (place * size)).take size = encode elements[place] := by
  induction elements generalizing place with
  | nil => simp at placeLt
  | cons element rest ih =>
    cases place with
    | zero =>
      rw [Nat.zero_mul, List.drop_zero, List.flatMap_cons, List.getElem_cons_zero]
      exact List.take_left' (sized element)
    | succ place =>
      rw [List.length_cons] at placeLt
      have dropped : (encode element ++ rest.flatMap encode).drop ((place + 1) * size) =
          (rest.flatMap encode).drop (place * size) := by
        rw [Nat.succ_mul, Nat.add_comm, ← List.drop_drop, List.drop_left' (sized element)]
      rw [List.flatMap_cons, dropped, List.getElem_cons_succ]
      exact ih (Nat.lt_of_succ_lt_succ placeLt)

/-- Replacing one element replaces its encoding and nothing else. -/
theorem flatMap_set (sized : ∀ element, (encode element).length = size) (elements : List α)
    {place : Nat} (placeLt : place < elements.length) (replacement : α) :
    (elements.set place replacement).flatMap encode =
      (elements.flatMap encode).take (place * size) ++ encode replacement ++
        (elements.flatMap encode).drop (place * size + size) := by
  induction elements generalizing place with
  | nil => simp at placeLt
  | cons element rest ih =>
    cases place with
    | zero =>
      rw [List.set_cons_zero, List.flatMap_cons, List.flatMap_cons, Nat.zero_mul, List.take_zero,
        List.nil_append, Nat.zero_add, List.drop_left' (sized element)]
    | succ place =>
      rw [List.length_cons] at placeLt
      have taken : (encode element ++ rest.flatMap encode).take ((place + 1) * size) =
          encode element ++ (rest.flatMap encode).take (place * size) := by
        rw [Nat.succ_mul, Nat.add_comm, ← sized element, List.take_length_add_append]
      have dropped : (encode element ++ rest.flatMap encode).drop ((place + 1) * size + size) =
          (rest.flatMap encode).drop (place * size + size) := by
        rw [Nat.succ_mul, Nat.add_right_comm, Nat.add_comm, ← List.drop_drop,
          List.drop_left' (sized element)]
      rw [List.set_cons_succ, List.flatMap_cons, List.flatMap_cons,
        ih (Nat.lt_of_succ_lt_succ placeLt), taken, dropped]
      simp only [List.append_assoc]

theorem flatMap_take_drop (members : List β) (count : Nat) :
    (List.range count).flatMap (fun group => (members.drop (group * size)).take size) =
      members.take (count * size) := by
  induction count with
  | zero => simp
  | succ count ih =>
    rw [List.range_succ, List.flatMap_append, ih, List.flatMap_singleton, Nat.succ_mul,
      List.take_add]

end Groups

variable {t : ElementType}

theorem toList_ofElements (elements : List (Element t)) :
    (ofElements elements).toList = elements.flatMap Element.toBytes :=
  rfl

theorem address_add_size_le {elements : List (Element t)} {place : Nat}
    (placeLt : place < elements.length) :
    place * t.size + t.size ≤ (ofElements elements).size := by
  rw [size_ofElements, ← Nat.succ_mul]
  exact Nat.mul_le_mul_right t.size placeLt

theorem toList_extract_ofElements {elements : List (Element t)} {place : Nat}
    (placeLt : place < elements.length) :
    ((ofElements elements).extract (place * t.size) (place * t.size + t.size)).toList =
      elements[place].toBytes := by
  rw [Array.toList_extract, List.extract_eq_take_drop, toList_ofElements, Nat.add_sub_cancel_left]
  exact take_drop_flatMap Element.length_toBytes elements placeLt

theorem load_ofElements {elements : List (Element t)} {place : Nat}
    (placeLt : place < elements.length) :
    load t (ofElements elements) (place * t.size) = .ok elements[place] := by
  rw [load, if_pos (address_add_size_le placeLt), toList_extract_ofElements placeLt,
    Element.ofBytes_toBytes]

theorem length_toElements (t : ElementType) (buffer : Buffer) :
    (toElements t buffer).length = buffer.size / t.size := by
  rw [toElements, List.length_map, List.length_range]

theorem toElements_ofElements (elements : List (Element t)) :
    toElements t (ofElements elements) = elements := by
  apply List.ext_getElem
  · rw [length_toElements, size_ofElements, Nat.mul_div_cancel _ t.size_pos]
  · intro place _ placeLt
    simp only [toElements, List.getElem_map, List.getElem_range]
    rw [toList_extract_ofElements placeLt, Element.ofBytes_toBytes]

theorem ofElements_toElements {buffer : Buffer} {count : Nat}
    (whole : buffer.size = count * t.size) : ofElements (toElements t buffer) = buffer := by
  have groups : ∀ group ∈ List.range count,
      (Element.ofBytes t
          (buffer.extract (group * t.size) (group * t.size + t.size)).toList).toBytes =
        (buffer.toList.drop (group * t.size)).take t.size := by
    intro group groupMem
    have groupFits : group * t.size + t.size ≤ buffer.size := by
      rw [whole, ← Nat.succ_mul]
      exact Nat.mul_le_mul_right _ (List.mem_range.mp groupMem)
    rw [Array.toList_extract, List.extract_eq_take_drop, Nat.add_sub_cancel_left]
    apply Element.toBytes_ofBytes
    rw [List.length_take, List.length_drop, Array.length_toList]
    omega
  apply Array.toList_inj.mp
  rw [toList_ofElements, toElements, whole, Nat.mul_div_cancel _ t.size_pos, List.flatMap_map,
    List.flatMap_congr groups, flatMap_take_drop, ← whole, ← Array.length_toList,
    List.take_length]

theorem toList_setBytes {buffer : Buffer} {address : Nat} {bytes : List UInt8}
    (fits : address + bytes.length ≤ buffer.size) :
    (setBytes buffer address bytes).toList =
      buffer.toList.take address ++ bytes ++ buffer.toList.drop (address + bytes.length) := by
  induction bytes generalizing buffer address with
  | nil => simp [setBytes]
  | cons byte rest ih =>
    rw [List.length_cons] at fits
    have addressLt : address < buffer.toList.length := by
      rw [Array.length_toList]
      omega
    have restFits : address + 1 + rest.length ≤ (buffer.setIfInBounds address byte).size := by
      rw [Array.size_setIfInBounds]
      omega
    rw [setBytes, ih restFits, Array.toList_setIfInBounds, List.length_cons,
      List.drop_set_of_lt (by omega), List.take_add_one, List.take_set_of_le (Nat.le_refl _),
      List.getElem?_set_self addressLt, Option.toList_some, List.append_assoc, List.append_assoc,
      List.append_assoc, List.singleton_append, List.cons_append, Nat.add_assoc,
      Nat.add_comm 1 rest.length]

theorem store_ofElements {elements : List (Element t)} {place : Nat}
    (placeLt : place < elements.length) (element : Element t) :
    store (ofElements elements) (place * t.size) element =
      .ok (ofElements (elements.set place element)) := by
  have fits := address_add_size_le placeLt
  rw [store, if_pos fits]
  congr 1
  apply Array.toList_inj.mp
  rw [toList_setBytes (by rw [Element.length_toBytes]; exact fits), Element.length_toBytes,
    toList_ofElements, toList_ofElements,
    flatMap_set Element.length_toBytes elements placeLt element]

theorem getElem?_setBytes_of_outside {buffer : Buffer} {start address : Nat} {bytes : List UInt8}
    (outside : address < start ∨ start + bytes.length ≤ address) :
    (setBytes buffer start bytes)[address]? = buffer[address]? := by
  induction bytes generalizing buffer start with
  | nil => rfl
  | cons byte rest ih =>
    rw [List.length_cons] at outside
    rw [setBytes, ih (by omega)]
    exact Array.getElem?_setIfInBounds_ne (by omega)

/-- Stores inside a buffer succeed, and bytes that belong to none of them stay what they are. -/
theorem storeAll_inside {buffer : Buffer} {writes : List (Nat × Element t)}
    (inside : ∀ write ∈ writes, write.1 + t.size ≤ buffer.size) :
    ∃ result, storeAll buffer writes = .ok result ∧ result.size = buffer.size ∧
      ∀ address, (∀ write ∈ writes, address < write.1 ∨ write.1 + t.size ≤ address) →
        result[address]? = buffer[address]? := by
  induction writes generalizing buffer with
  | nil => exact ⟨buffer, rfl, rfl, fun _ _ => rfl⟩
  | cons write rest ih =>
    have stored : store buffer write.1 write.2 =
        .ok (setBytes buffer write.1 write.2.toBytes) :=
      if_pos (inside write List.mem_cons_self)
    have restInside : ∀ other ∈ rest,
        other.1 + t.size ≤ (setBytes buffer write.1 write.2.toBytes).size := by
      intro other otherMem
      rw [size_setBytes]
      exact inside other (List.mem_cons_of_mem _ otherMem)
    rcases ih restInside with ⟨result, succeeded, sizeEq, kept⟩
    refine ⟨result, ?_, ?_, ?_⟩
    · rw [storeAll, List.foldlM_cons, stored]
      exact succeeded
    · rw [sizeEq, size_setBytes]
    · intro address outside
      rw [kept address fun other otherMem => outside other (List.mem_cons_of_mem _ otherMem)]
      apply getElem?_setBytes_of_outside
      rw [Element.length_toBytes]
      exact outside write List.mem_cons_self

/-- The elements after each of the listed places has got its value. -/
def overwrite {α : Type} (value : Nat → α) (elements : List α) (places : List Nat) : List α :=
  places.foldl (fun current place => current.set place (value place)) elements

theorem length_overwrite {α : Type} (value : Nat → α) (elements : List α) (places : List Nat) :
    (overwrite value elements places).length = elements.length := by
  induction places generalizing elements with
  | nil => rfl
  | cons place rest ih =>
    change (overwrite value (elements.set place (value place)) rest).length = elements.length
    rw [ih, List.length_set]

theorem overwrite_append {α : Type} (value : Nat → α) (elements : List α)
    (first second : List Nat) :
    overwrite value elements (first ++ second) =
      overwrite value (overwrite value elements first) second :=
  List.foldl_append

/-- A listed place holds its value and any other place what it held before. -/
theorem getElem?_overwrite {α : Type} (value : Nat → α) (elements : List α) (places : List Nat)
    (index : Nat) :
    (overwrite value elements places)[index]? =
      if index ∈ places ∧ index < elements.length then some (value index)
      else elements[index]? := by
  induction places generalizing elements with
  | nil => simp [overwrite]
  | cons place rest ih =>
    change (overwrite value (elements.set place (value place)) rest)[index]? = _
    rw [ih, List.length_set, List.getElem?_set]
    by_cases same : place = index
    · subst same
      by_cases inside : place < elements.length
      · simp [inside]
      · simp [inside]
    · have different : index ≠ place := fun equal => same equal.symm
      simp [same, different]

theorem overwrite_of_covered {α : Type} (value : Nat → α) {elements : List α} {places : List Nat}
    (covered : ∀ index < elements.length, index ∈ places) :
    overwrite value elements places = (List.range elements.length).map value := by
  apply List.ext_getElem?
  intro index
  rw [getElem?_overwrite]
  by_cases inside : index < elements.length
  · simp [inside, covered index inside]
  · simp [inside]

theorem storeAll_ofElements (value : Nat → Element t) {elements : List (Element t)}
    {places : List Nat} (inside : ∀ place ∈ places, place < elements.length) :
    storeAll (ofElements elements) (places.map fun place => (place * t.size, value place)) =
      .ok (ofElements (overwrite value elements places)) := by
  induction places generalizing elements with
  | nil => rfl
  | cons place rest ih =>
    have stored := store_ofElements (inside place List.mem_cons_self) (value place)
    have restInside : ∀ other ∈ rest, other < (elements.set place (value place)).length := by
      intro other otherMem
      rw [List.length_set]
      exact inside other (List.mem_cons_of_mem _ otherMem)
    rw [List.map_cons, storeAll, List.foldlM_cons, stored]
    exact ih restInside

end Buffer

end IntegerPooling
