/-!
# Lists of computations and of numbers

Computations that may fault are run over lists with `mapM` and `foldlM`. When every step succeeds
the run is the pure one, and a run only depends on its steps at the members of the list. The
second half splits a range of numbers into consecutive groups of equal size, which is how blocks
cover channels and how pixels cover a tensor: member `member` of group `group` has the number
`group * size + member`.
-/

namespace IntegerPooling

namespace Sequence

variable {ε α β : Type}

theorem mapM_eq_ok {step : α → Except ε β} {value : α → β} {members : List α}
    (each : ∀ member ∈ members, step member = .ok (value member)) :
    members.mapM step = .ok (members.map value) := by
  induction members with
  | nil => rfl
  | cons first rest ih =>
    have firstOk := each first List.mem_cons_self
    have restOk := ih fun member inRest => each member (List.mem_cons_of_mem _ inRest)
    rw [List.mapM_cons, firstOk, restOk]
    rfl

theorem mapM_congr {step other : α → Except ε β} {members : List α}
    (same : ∀ member ∈ members, step member = other member) :
    members.mapM step = members.mapM other := by
  induction members with
  | nil => rfl
  | cons first rest ih =>
    rw [List.mapM_cons, List.mapM_cons, same first List.mem_cons_self,
      ih fun member inRest => same member (List.mem_cons_of_mem _ inRest)]

theorem length_of_mapM_eq_ok {step : α → Except ε β} {members : List α} {results : List β}
    (succeeded : members.mapM step = .ok results) : results.length = members.length := by
  induction members generalizing results with
  | nil =>
    cases succeeded
    rfl
  | cons first rest ih =>
    rw [List.mapM_cons] at succeeded
    cases firstOk : step first with
    | error failure =>
      rw [firstOk] at succeeded
      cases succeeded
    | ok result =>
      cases restOk : rest.mapM step with
      | error failure =>
        rw [firstOk, restOk] at succeeded
        cases succeeded
      | ok others =>
        rw [firstOk, restOk] at succeeded
        cases succeeded
        rw [List.length_cons, List.length_cons, ih restOk]

/-- Two folds agree when their steps agree on the states that an invariant describes. -/
theorem foldlM_congr {step other : β → α → Except ε β} {members : List α} {start : β}
    (invariant : β → Prop) (holds : invariant start)
    (same : ∀ state, invariant state → ∀ member ∈ members, step state member = other state member)
    (keeps : ∀ state result, invariant state → ∀ member ∈ members,
      step state member = .ok result → invariant result) :
    members.foldlM step start = members.foldlM other start := by
  induction members generalizing start with
  | nil => rfl
  | cons first rest ih =>
    rw [List.foldlM_cons, List.foldlM_cons, ← same start holds first List.mem_cons_self]
    cases result : step start first with
    | error failure => rfl
    | ok state =>
      apply ih (keeps start state holds first List.mem_cons_self result)
      · intro state holds member inRest
        exact same state holds member (List.mem_cons_of_mem _ inRest)
      · intro state result holds member inRest
        exact keeps state result holds member (List.mem_cons_of_mem _ inRest)

/-- What every step keeps, a fold keeps. -/
theorem invariant_of_foldlM_eq_ok {step : β → α → Except ε β} {members : List α}
    {start result : β} (invariant : β → Prop) (holds : invariant start)
    (keeps : ∀ state next member, invariant state → step state member = .ok next → invariant next)
    (succeeded : members.foldlM step start = .ok result) : invariant result := by
  induction members generalizing start with
  | nil =>
    cases succeeded
    exact holds
  | cons first rest ih =>
    rw [List.foldlM_cons] at succeeded
    cases stepped : step start first with
    | error failure =>
      rw [stepped] at succeeded
      cases succeeded
    | ok state =>
      rw [stepped] at succeeded
      exact ih (keeps start state first holds stepped) succeeded

theorem getElem?_eq_some_getD {members : List α} {index : Nat} (indexLt : index < members.length)
    (fallback : α) : members[index]? = some (members.getD index fallback) := by
  rw [List.getD_eq_getElem?_getD, List.getElem?_eq_getElem indexLt, Option.getD_some]

theorem number_lt {count size group member : Nat} (groupLt : group < count)
    (memberLt : member < size) : group * size + member < count * size := by
  have groupsLe := Nat.mul_le_mul_right size (Nat.succ_le_of_lt groupLt)
  rw [Nat.succ_mul] at groupsLe
  omega

theorem number_div {size member : Nat} (group : Nat) (memberLt : member < size) :
    (group * size + member) / size = group := by
  rw [Nat.add_comm, Nat.add_mul_div_right _ _ (Nat.zero_lt_of_lt memberLt),
    Nat.div_eq_of_lt memberLt, Nat.zero_add]

theorem number_mod {size member : Nat} (group : Nat) (memberLt : member < size) :
    (group * size + member) % size = member := by
  rw [Nat.add_comm, Nat.add_mul_mod_self_right, Nat.mod_eq_of_lt memberLt]

theorem number_eq_number_iff {size group member otherGroup other : Nat} (memberLt : member < size)
    (otherLt : other < size) :
    group * size + member = otherGroup * size + other ↔ group = otherGroup ∧ member = other := by
  constructor
  · intro same
    have sameGroup := congrArg (· / size) same
    have sameMember := congrArg (· % size) same
    simp only [number_div _ memberLt, number_div _ otherLt] at sameGroup
    simp only [number_mod _ memberLt, number_mod _ otherLt] at sameMember
    exact ⟨sameGroup, sameMember⟩
  · rintro ⟨rfl, rfl⟩
    rfl

/-- Members are numbered group by group, and within a group by their own order. -/
theorem number_lt_number_iff {size group member otherGroup other : Nat} (memberLt : member < size)
    (otherLt : other < size) :
    group * size + member < otherGroup * size + other ↔
      group < otherGroup ∨ group = otherGroup ∧ member < other := by
  rcases Nat.lt_trichotomy group otherGroup with earlier | rfl | later
  · have inside := number_lt earlier memberLt
    omega
  · simp
  · have inside := number_lt later otherLt
    omega

/-- Two runs of numbers of which the second starts where the first ends are one run. -/
theorem range'_append_range' {first middle last : Nat} (lower : first ≤ middle)
    (upper : middle ≤ last) :
    List.range' first (middle - first) ++ List.range' middle (last - middle) =
      List.range' first (last - first) := by
  have joined : List.range' first (middle - first) ++
      List.range' (first + (middle - first)) (last - middle) =
        List.range' first (middle - first + (last - middle)) := List.range'_append_1
  rw [Nat.add_sub_cancel' lower, show middle - first + (last - middle) = last - first by omega]
    at joined
  exact joined

/-- The numbers between two bounds are a run of neighbours. -/
theorem filter_range_between (first last count : Nat) :
    (List.range count).filter (fun number => first ≤ number ∧ number < last) =
      List.range' first (min count last - first) := by
  induction count with
  | zero => simp
  | succ count ih =>
    rw [List.range_succ, List.filter_append, ih]
    by_cases between : first ≤ count ∧ count < last
    · have longer : min (count + 1) last - first = min count last - first + 1 := by omega
      have next : first + (min count last - first) = count := by omega
      rw [longer, List.range'_1_concat, next]
      simp [between]
    · have same : min (count + 1) last - first = min count last - first := by omega
      rw [same]
      simp [between]

/-- Groups of equal size that follow one another make up one run of numbers. -/
theorem flatMap_range' (first size count : Nat) :
    (List.range count).flatMap (fun group => List.range' (first + group * size) size) =
      List.range' first (count * size) := by
  induction count with
  | zero => simp
  | succ count ih =>
    rw [List.range_succ, List.flatMap_append, ih, List.flatMap_singleton, List.range'_append_1,
      Nat.succ_mul]

/-- Numbering the members of equal groups numbers all members. -/
theorem flatMap_range_map (function : Nat → β) (size count : Nat) :
    (List.range count).flatMap
        (fun group => (List.range size).map fun member => function (group * size + member)) =
      (List.range (count * size)).map function := by
  induction count with
  | zero => simp
  | succ count ih =>
    rw [List.range_succ, List.flatMap_append, ih, List.flatMap_singleton, Nat.succ_mul,
      List.range_add, List.map_append, List.map_map]
    rfl

end Sequence

end IntegerPooling
