/-!
# Outcomes of computations that may fail

A computation that runs two steps in a row succeeds when both do, and fails with the failure of
the first that does. A list of causes says the same about a whole computation: of all the causes
that apply, the first one in the list is the one that shows.
-/

namespace IntegerPooling

namespace Outcome

variable {ε α β : Type}

@[simp] theorem ok_bind (result : α) (next : α → Except ε β) :
    (Except.ok result >>= next) = next result :=
  rfl

@[simp] theorem error_bind (failure : ε) (next : α → Except ε β) :
    (Except.error failure >>= next) = Except.error failure :=
  rfl

theorem bind_eq_ok_iff {first : Except ε α} {next : α → Except ε β} {result : β} :
    (first >>= next) = .ok result ↔ ∃ middle, first = .ok middle ∧ next middle = .ok result := by
  cases first with
  | error failure =>
    constructor
    · intro impossible
      cases impossible
    · rintro ⟨_, impossible, _⟩
      cases impossible
  | ok middle =>
    constructor
    · intro succeeded
      exact ⟨middle, rfl, succeeded⟩
    · rintro ⟨_, same, succeeded⟩
      cases same
      exact succeeded

theorem bind_eq_error_iff {first : Except ε α} {next : α → Except ε β} {failure : ε} :
    (first >>= next) = .error failure ↔
      first = .error failure ∨ ∃ middle, first = .ok middle ∧ next middle = .error failure := by
  cases first with
  | error other => simp
  | ok middle => simp

theorem toOption_eq_some_iff {computation : Except ε α} {result : α} :
    computation.toOption = some result ↔ computation = .ok result := by
  cases computation with
  | error failure => simp [Except.toOption]
  | ok value => simp [Except.toOption]

/-- Two continuations that agree on the results of a computation lead to the same outcome. -/
theorem bind_congr {first : Except ε α} {next other : α → Except ε β}
    (same : ∀ middle, first = .ok middle → next middle = other middle) :
    (first >>= next) = (first >>= other) := by
  cases first with
  | error failure => rfl
  | ok middle => exact same middle rfl

theorem map_eq_bind (computation : Except ε α) (value : α → β) :
    computation.map value = computation >>= fun result => pure (value result) := by
  cases computation <;> rfl

theorem mapError_eq_ok_iff {δ : Type} {computation : Except ε α} {convert : ε → δ} {result : α} :
    computation.mapError convert = .ok result ↔ computation = .ok result := by
  cases computation with
  | error failure =>
    constructor
    · intro impossible
      cases impossible
    · intro impossible
      cases impossible
  | ok value =>
    constructor
    · intro same
      cases same
      rfl
    · intro same
      cases same
      rfl

end Outcome

/-- A condition under which a computation fails, and the failure it leads to. -/
structure Cause (ε : Type) where
  applies : Prop
  failure : ε

namespace Cause

variable {ε : Type}

/-- Whether a failure is that of the first cause that applies. -/
def Decides : List (Cause ε) → ε → Prop
  | [], _ => False
  | cause :: rest, failure =>
    (cause.applies ∧ failure = cause.failure) ∨ (¬cause.applies ∧ Decides rest failure)

def Absent (causes : List (Cause ε)) : Prop :=
  ∀ cause ∈ causes, ¬cause.applies

theorem absent_cons {cause : Cause ε} {rest : List (Cause ε)} :
    Absent (cause :: rest) ↔ ¬cause.applies ∧ Absent rest := by
  simp only [Absent, List.forall_mem_cons]

theorem absent_append {first second : List (Cause ε)} :
    Absent (first ++ second) ↔ Absent first ∧ Absent second := by
  simp only [Absent, List.forall_mem_append]

theorem decides_append {first second : List (Cause ε)} {failure : ε} :
    Decides (first ++ second) failure ↔
      Decides first failure ∨ (Absent first ∧ Decides second failure) := by
  induction first with
  | nil => simp [Decides, Absent]
  | cons cause rest ih =>
    rw [List.cons_append, Decides, ih, Decides, absent_cons]
    by_cases applies : cause.applies
    · simp [applies]
    · simp [applies]

/-- A computation that fails only for the listed causes, in their order. -/
structure Explains {α : Type} (causes : List (Cause ε)) (outcome : Except ε α) : Prop where
  failed_iff : ∀ failure, outcome = .error failure ↔ Decides causes failure
  succeeded_iff : (∃ result, outcome = .ok result) ↔ Absent causes

namespace Explains

variable {α : Type} {outcome : Except ε α}

theorem nil (result : α) : Explains [] (Except.ok result : Except ε α) := by
  constructor
  · intro failure
    constructor
    · intro impossible
      cases impossible
    · exact False.elim
  · constructor
    · intro _ cause causeMem
      cases causeMem
    · intro _
      exact ⟨result, rfl⟩

theorem cons {cause : Cause ε} {rest : List (Cause ε)}
    (stops : cause.applies → outcome = .error cause.failure)
    (continues : ¬cause.applies → Explains rest outcome) : Explains (cause :: rest) outcome := by
  by_cases applies : cause.applies
  · have failed := stops applies
    subst failed
    constructor
    · intro failure
      simp [Decides, applies, eq_comm]
    · simp [absent_cons, applies]
  · have explained := continues applies
    constructor
    · intro failure
      rw [explained.failed_iff]
      simp [Decides, applies]
    · rw [explained.succeeded_iff]
      simp [absent_cons, applies]

/-- The causes of two steps in a row are those of the first and then those of the second. -/
theorem bind {β : Type} {first : Except ε α} {next : α → Except ε β}
    {causes rest : List (Cause ε)} (explained : Explains causes first)
    (others : ∀ middle, first = .ok middle → Explains rest (next middle)) :
    Explains (causes ++ rest) (first >>= next) := by
  cases first with
  | error failure =>
    have decided := (explained.failed_iff failure).mp rfl
    have present : ¬Absent causes := by
      intro absent
      rcases explained.succeeded_iff.mpr absent with ⟨_, impossible⟩
      cases impossible
    constructor
    · intro other
      rw [decides_append, ← explained.failed_iff, Outcome.error_bind]
      simp [present]
    · rw [absent_append]
      constructor
      · rintro ⟨_, impossible⟩
        cases impossible
      · intro absent
        exact absurd absent.1 present
  | ok middle =>
    have absent := explained.succeeded_iff.mp ⟨middle, rfl⟩
    have continued := others middle rfl
    constructor
    · intro failure
      rw [decides_append, ← explained.failed_iff, ← continued.failed_iff, Outcome.ok_bind]
      simp [absent]
    · rw [absent_append, ← continued.succeeded_iff, Outcome.ok_bind]
      simp [absent]

theorem map {β : Type} {computation : Except ε α} {causes : List (Cause ε)}
    (explained : Explains causes computation) (value : α → β) :
    Explains causes (computation >>= fun result => pure (value result)) := by
  have both : Explains (causes ++ []) (computation >>= fun result => pure (value result)) :=
    explained.bind fun result _ => nil (value result)
  rw [List.append_nil] at both
  exact both

end Explains

end Cause

end IntegerPooling
