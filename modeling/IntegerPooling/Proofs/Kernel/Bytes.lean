import IntegerPooling.Proofs.Kernel.Decision

/-!
# Runs on bytes and runs on elements

A buffer holds a list of elements when it consists of their two's-complement bytes, least
significant first (`Buffer.Holds`). Every buffer of whole elements holds one list and every list is
held by one buffer (`holds_iff`, `holds_toElements`), so a run on bytes and a run on elements can be
compared: they stop for the same fault, or the bytes hold the elements (`Buffer.Reflects`). That is
so for every traversal, since no run changes the size of its destination (`size_of_execute`).
-/

namespace IntegerPooling

theorem getElem?_littleEndian {width lane : Nat} (value : Nat) (laneLt : lane < width) :
    (littleEndian width value)[lane]? = some (UInt8.ofNat (value / 256 ^ lane % 256)) := by
  induction width generalizing value lane with
  | zero => omega
  | succ width ih =>
    cases lane with
    | zero => rw [littleEndian, List.getElem?_cons_zero, Nat.pow_zero, Nat.div_one]
    | succ lane =>
      rw [littleEndian, List.getElem?_cons_succ, ih _ (Nat.lt_of_succ_lt_succ laneLt),
        Nat.div_div_eq_div_mul, Nat.pow_succ']

namespace Buffer

variable {t : ElementType}

/-- Whether a buffer consists of the two's-complement bytes of a list of elements, one element after
another and each with its least significant byte first. -/
structure Holds (buffer : Buffer) (elements : List (Element t)) : Prop where
  size_eq : buffer.size = elements.length * t.size
  byte_eq : ∀ (index : Nat) (indexLt : index < elements.length) (lane : Nat), lane < t.size →
    buffer[index * t.size + lane]? = some (UInt8.ofNat
      ((elements[index].val % (t.modulus : Int)).toNat / 256 ^ lane % 256))

theorem getElem?_ofElements {elements : List (Element t)} {index lane : Nat}
    (indexLt : index < elements.length) (laneLt : lane < t.size) :
    (ofElements elements)[index * t.size + lane]? = some (UInt8.ofNat
      ((elements[index].val % (t.modulus : Int)).toNat / 256 ^ lane % 256)) := by
  have stored := take_drop_flatMap Element.length_toBytes elements indexLt
  have found := congrArg (fun bytes : List UInt8 => bytes[lane]?) stored
  simp only [List.getElem?_take_of_lt laneLt, List.getElem?_drop] at found
  rw [Element.toBytes, getElem?_littleEndian _ laneLt] at found
  exact (Array.getElem?_toList).symm.trans found

theorem holds_ofElements (elements : List (Element t)) : (ofElements elements).Holds elements :=
  ⟨size_ofElements elements, fun _ indexLt _ laneLt => getElem?_ofElements indexLt laneLt⟩

/-- The bytes of a list leave no choice. -/
theorem holds_iff {buffer : Buffer} {elements : List (Element t)} :
    buffer.Holds elements ↔ buffer = ofElements elements := by
  constructor
  · intro holds
    have sameSize : buffer.size = (ofElements elements).size := by
      rw [holds.size_eq, size_ofElements]
    apply Array.ext_getElem?
    intro address
    by_cases inside : address < elements.length * t.size
    · have indexLt : address / t.size < elements.length :=
        (Nat.div_lt_iff_lt_mul t.size_pos).mpr inside
      have laneLt := Nat.mod_lt address t.size_pos
      rw [← Nat.div_add_mod' address t.size, holds.byte_eq _ indexLt _ laneLt,
        getElem?_ofElements indexLt laneLt]
    · rw [Array.getElem?_eq_none (by rw [holds.size_eq]; omega),
        Array.getElem?_eq_none (by rw [size_ofElements]; omega)]
  · rintro rfl
    exact holds_ofElements elements

/-- Bytes that make up whole elements hold the elements that are read from them. -/
theorem holds_toElements {buffer : Buffer} {count : Nat} (whole : buffer.size = count * t.size) :
    buffer.Holds (toElements t buffer) :=
  holds_iff.mpr (ofElements_toElements whole).symm

theorem holds_of_byteSize {layout : Layout} {buffer : Buffer}
    (sized : layout.byteSize = .ok buffer.size) (typeEq : t.dataType = layout.dataType) :
    buffer.Holds (toElements t buffer) := by
  rcases exists_elements sized typeEq with ⟨elements, rfl, _⟩
  rw [toElements_ofElements]
  exact holds_ofElements elements

/-- Whether a run on bytes ended like a run on elements: with the same fault, or with bytes that
hold the elements. -/
inductive Reflects : Except Fault Buffer → Except Fault (List (Element t)) → Prop where
  | stopped (fault : Fault) : Reflects (.error fault) (.error fault)
  | returned {buffer : Buffer} {elements : List (Element t)} (holds : buffer.Holds elements) :
      Reflects (.ok buffer) (.ok elements)

/-- A run on bytes that ended like a run that returned has returned the bytes of its elements. -/
theorem Reflects.eq_ok {executed : Except Fault Buffer} {elements : List (Element t)}
    (reflected : Reflects executed (.ok elements)) : executed = .ok (ofElements elements) := by
  cases reflected with
  | returned holds => rw [holds_iff.mp holds]

theorem size_of_storeAll {buffer result : Buffer} {writes : List (Nat × Element t)}
    (stored : storeAll buffer writes = .ok result) : result.size = buffer.size := by
  apply Sequence.invariant_of_foldlM_eq_ok (fun current => current.size = buffer.size) rfl _ stored
  intro current next write sameSize storedOne
  rw [size_of_store storedOne, sameSize]

end Buffer

namespace Kernel

variable {operator : Operator} {kernel : Kernel}

theorem size_of_runPixel {source destination result : Buffer} {pixel : Pixel}
    (ran : kernel.runPixel source destination pixel = .ok result) :
    result.size = destination.size := by
  rcases Outcome.bind_eq_ok_iff.mp ran with ⟨writes, _, stored⟩
  exact Buffer.size_of_storeAll stored

theorem size_of_execute {traversal : Traversal} {source destination result : Buffer}
    (ran : kernel.execute traversal source destination = .ok result) :
    result.size = destination.size := by
  rcases Outcome.bind_eq_ok_iff.mp ran with ⟨_, _, afterSource⟩
  rcases Outcome.bind_eq_ok_iff.mp afterSource with ⟨_, _, afterChecks⟩
  rcases Outcome.bind_eq_ok_iff.mp afterChecks with ⟨pixels, _, visited⟩
  apply Sequence.invariant_of_foldlM_eq_ok (fun current => current.size = destination.size) rfl _
    visited
  intro current next pixel sameSize ranPixel
  rw [size_of_runPixel ranPixel, sameSize]

/-- A run on the bytes of two lists ends like the run on the lists. -/
theorem execute_reflects (fits : Routine.Fits kernel.plan kernel.routine) (traversal : Traversal)
    (input : List (Element kernel.routine.path.source))
    (output : List (Element kernel.routine.path.destination)) :
    Buffer.Reflects (kernel.execute traversal (Buffer.ofElements input) (Buffer.ofElements output))
      (kernel.runElements traversal input output).outcome := by
  rw [runElements_of_fits fits]
  cases ran : kernel.execute traversal (Buffer.ofElements input) (Buffer.ofElements output) with
  | error fault => exact .stopped fault
  | ok result =>
    have whole := size_of_execute ran
    rw [Buffer.size_ofElements] at whole
    exact .returned (Buffer.holds_toElements whole)

/-- Running a kernel on bytes and running it on elements come to the same, under any traversal. The
run on buffers that hold two lists stops for the fault at which the run on the lists stops, or
leaves the bytes of the list which that run returns. Every buffer of the size of a tensor holds the
elements that are read from it, so nothing else can be run on. -/
theorem run_on_bytes {source destination : Layout} {host : Capabilities} {options : Options}
    (built : (build operator source destination host options).outcome = .ok kernel)
    {s d : ElementType} (sourceType : source.dataType = s.dataType)
    (destinationType : destination.dataType = d.dataType) (traversal : Traversal) :
    (∀ bytes initial : Buffer,
      (kernel.run traversal bytes initial).outcome = kernel.execute traversal bytes initial) ∧
    (∀ (bytes initial : Buffer) (input : List (Element s)) (output : List (Element d)),
      bytes.Holds input → initial.Holds output →
        Buffer.Reflects (kernel.execute traversal bytes initial)
          (kernel.runElements traversal input output).outcome) ∧
    ∀ bytes initial : Buffer, source.byteSize = .ok bytes.size →
      destination.byteSize = .ok initial.size →
        bytes.Holds (Buffer.toElements s bytes) ∧ initial.Holds (Buffer.toElements d initial) ∧
          Buffer.Reflects (kernel.execute traversal bytes initial)
            (kernel.runElements traversal (Buffer.toElements s bytes)
              (Buffer.toElements d initial)).outcome := by
  have conditions := built_of_build built
  have fits := conditions.fits
  obtain rfl := conditions.planned.sourceLayout_eq
  obtain rfl := conditions.planned.destinationLayout_eq
  obtain rfl := fits.path_source sourceType
  obtain rfl := fits.path_destination destinationType
  have onLists : ∀ (bytes initial : Buffer) (input : List (Element kernel.routine.path.source))
      (output : List (Element kernel.routine.path.destination)),
      bytes.Holds input → initial.Holds output →
        Buffer.Reflects (kernel.execute traversal bytes initial)
          (kernel.runElements traversal input output).outcome := by
    intro bytes initial input output inputHeld outputHeld
    rw [Buffer.holds_iff.mp inputHeld, Buffer.holds_iff.mp outputHeld]
    exact execute_reflects fits traversal input output
  refine ⟨fun _ _ => rfl, onLists, ?_⟩
  intro bytes initial sourceSized destinationSized
  have inputHeld := Buffer.holds_of_byteSize sourceSized fits.chosen.source_eq
  have outputHeld := Buffer.holds_of_byteSize destinationSized fits.chosen.destination_eq
  exact ⟨inputHeld, outputHeld, onLists _ _ _ _ inputHeld outputHeld⟩

/-- Four bytes to a source element and one to a destination element, negative ones among them. -/
theorem run_on_bytes_mixedWidths :
    ∃ kernel : Kernel,
      (build (Operator.dense .averageExcludingPadding ⟨1, 2⟩) ⟨1, 2, ⟨1, 2⟩, .s32⟩
        ⟨1, 2, ⟨1, 1⟩, .s8⟩ .full .standard).outcome = .ok kernel ∧
      (kernel.runElements Traversal.reversed ([-1, 300, -4, 700].map (Element.clamp .s32))
        ([7, 7].map (Element.clamp .s8))).outcome = .ok ([-2, 127].map (Element.clamp .s8)) ∧
      kernel.execute Traversal.reversed
        #[255, 255, 255, 255, 44, 1, 0, 0, 252, 255, 255, 255, 188, 2, 0, 0] #[7, 7] =
          .ok #[254, 127] := by
  have built : (build (Operator.dense .averageExcludingPadding ⟨1, 2⟩) ⟨1, 2, ⟨1, 2⟩, .s32⟩
      ⟨1, 2, ⟨1, 1⟩, .s8⟩ .full .standard).outcome =
        .ok ⟨⟨.averageExcludingPadding, 1, 2, ⟨1, 2⟩, ⟨1, 1⟩, ⟨1, 2⟩, ⟨1, 1⟩, ⟨0, 0⟩, .s32, .s8,
          .wide, 8, 1⟩, ⟨.average .s32 .s8, ⟨2, 4, 1⟩, 8, .wide⟩⟩ := by cbv
  have ran : (runElements ⟨⟨.averageExcludingPadding, 1, 2, ⟨1, 2⟩, ⟨1, 1⟩, ⟨1, 2⟩, ⟨1, 1⟩, ⟨0, 0⟩,
      .s32, .s8, .wide, 8, 1⟩, ⟨.average .s32 .s8, ⟨2, 4, 1⟩, 8, .wide⟩⟩ Traversal.reversed
      ([-1, 300, -4, 700].map (Element.clamp .s32)) ([7, 7].map (Element.clamp .s8))).outcome =
        .ok ([-2, 127].map (Element.clamp .s8)) := by decide +kernel
  have sourceHeld : Buffer.Holds
      #[255, 255, 255, 255, 44, 1, 0, 0, 252, 255, 255, 255, 188, 2, 0, 0]
      ([-1, 300, -4, 700].map (Element.clamp .s32)) := Buffer.holds_iff.mpr (by decide)
  have destinationHeld : Buffer.Holds #[7, 7] ([7, 7].map (Element.clamp .s8)) :=
    Buffer.holds_iff.mpr (by decide)
  refine ⟨_, built, ran, ?_⟩
  have reflected := (run_on_bytes built rfl rfl Traversal.reversed).2.1 _ _ _ _ sourceHeld
    destinationHeld
  rw [ran] at reflected
  rw [reflected.eq_ok]
  decide

end Kernel

end IntegerPooling
