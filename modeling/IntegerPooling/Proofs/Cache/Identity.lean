import IntegerPooling.Proofs.Cache
import Mathlib.Data.List.Nodup

/-!
# Identity of cached kernels

A serial number stands for one kernel that was built, also when an equal one is built again. Each
request has at most one entry at a time, no two entries share a serial number, and all numbers in
use lie below the next one to be given out (`Tidy`). Every history keeps this, so a new entry is
never mistaken for one that was returned before, and a request that is found gives back the entry
of the fetch that inserted it (`fetch_tracked`).
-/

namespace IntegerPooling

/-- A member of a list in which no two share a key is found by its key. -/
theorem Sequence.find?_key_eq_some_iff {α β : Type} [DecidableEq β] {key : α → β}
    {members : List α} (distinct : (members.map key).Nodup) {wanted : β} {member : α} :
    members.find? (fun other => key other = wanted) = some member ↔
      member ∈ members ∧ key member = wanted := by
  constructor
  · intro found
    have sameKey := List.find?_some found
    rw [decide_eq_true_eq] at sameKey
    exact ⟨List.mem_of_find?_eq_some found, sameKey⟩
  · rintro ⟨memberMem, rfl⟩
    cases found : members.find? fun other => key other = key member with
    | none =>
      have absent := List.find?_eq_none.mp found member memberMem
      simp at absent
    | some other =>
      have sameKey := List.find?_some found
      rw [decide_eq_true_eq] at sameKey
      rw [List.inj_on_of_nodup_map distinct (List.mem_of_find?_eq_some found) memberMem sameKey]

theorem Sequence.nodup_map_concat {α β : Type} {key : α → β} {members : List α}
    (distinct : (members.map key).Nodup) {last : α}
    (different : ∀ member ∈ members, key member ≠ key last) :
    ((members ++ [last]).map key).Nodup := by
  rw [List.map_append, List.map_singleton]
  refine List.Nodup.append distinct (List.nodup_singleton _) (List.disjoint_singleton.mpr ?_)
  intro keyMem
  rcases List.mem_map.mp keyMem with ⟨member, memberMem, sameKey⟩
  exact different member memberMem sameKey

/-- That entries are told apart by serial numbers below the next one to be given out. -/
structure Numbered (next : Nat) (entries : List Entry) : Prop where
  nodup : (entries.map Entry.serial).Nodup
  lt : ∀ entry ∈ entries, entry.serial < next

namespace Numbered

variable {next : Nat} {entries : List Entry}

theorem nil (next : Nat) : Numbered next [] :=
  ⟨List.nodup_nil, List.forall_mem_nil _⟩

theorem sublist (numbered : Numbered next entries) {others : List Entry}
    (kept : others.Sublist entries) : Numbered next others :=
  ⟨numbered.nodup.sublist (kept.map _), fun entry entryMem =>
    numbered.lt entry (kept.subset entryMem)⟩

theorem concat (numbered : Numbered next entries) {entry : Entry} (isNext : entry.serial = next) :
    Numbered (next + 1) (entries ++ [entry]) := by
  subst isNext
  refine ⟨Sequence.nodup_map_concat numbered.nodup ?_, ?_⟩
  · intro other otherMem
    exact Nat.ne_of_lt (numbered.lt other otherMem)
  · intro other otherMem
    rcases List.mem_append.mp otherMem with old | new
    · exact Nat.lt_succ_of_lt (numbered.lt other old)
    · rw [List.mem_singleton.mp new]
      exact Nat.lt_succ_self _

end Numbered

namespace Cache

variable {cache : Cache} {entry : Entry}

/-- What holds of the entries of a cache at all times. -/
structure Tidy (cache : Cache) : Prop where
  requests_nodup : (cache.entries.map Entry.request).Nodup
  numbered : Numbered cache.nextSerial cache.entries
  size_le : ∀ capacity, cache.capacity = some capacity → 0 < capacity ∧ cache.size ≤ capacity

/-- Whether some fetch of a history returned an entry. -/
def ReturnedBy (start : Cache) (commands : List Command) (entry : Entry) : Prop :=
  ∃ earlier request victim later, commands = earlier ++ .fetch request victim :: later ∧
    ((start.after earlier).fetch request victim).2.outcome = .ok entry

/-- Whether an entry was inserted by a fetch of a history: its request was not found then. -/
def InsertedBy (start : Cache) (commands : List Command) (entry : Entry) : Prop :=
  ∃ earlier victim later, commands = earlier ++ .fetch entry.request victim :: later ∧
    (start.after earlier).find? entry.request = none ∧
    ((start.after earlier).fetch entry.request victim).2.outcome = .ok entry

/-- A fetch that leaves the cache as it was and reports nothing about its entries. -/
structure Leaves (cache : Cache) (fetched : Cache × Journaled (Except Failure Entry)) : Prop where
  unchanged : fetched.1 = cache
  silent : ∀ count, Notice.cached count ∉ fetched.2.notices

/-- A fetch that adds one entry, drops at most one other to make room for it, and reports how many
entries there are then. -/
structure Inserts (cache : Cache) (fetched : Cache × Journaled (Except Failure Entry))
    (entry : Entry) : Prop where
  found : fetched.1.find? entry.request = some entry
  entries_eq : ∃ kept, fetched.1.entries = kept ++ [entry] ∧
    (kept = cache.entries ∨
      (cache.isFull = true ∧ ∃ index < cache.size, kept = cache.entries.eraseIdx index))
  reported : fetched.2.notices.map Notice.line =
    [(Notice.built entry.kernel.plan).line,
      "debug: kernel cache miss, " ++ toString fetched.1.size ++ " entries cached"]

theorem capacity_create (host : Capabilities) (limit : Option Nat) :
    (create host limit).capacity = limit.map fun capacity => max capacity 1 := by
  cases limit <;> rfl

theorem tidy_create (host : Capabilities) (limit : Option Nat) : (create host limit).Tidy := by
  refine ⟨?_, ?_, ?_⟩
  · rw [entries_create]
    exact List.nodup_nil
  · rw [entries_create]
    exact Numbered.nil _
  · intro capacity isCapacity
    rw [capacity_create] at isCapacity
    rcases Option.map_eq_some_iff.mp isCapacity with ⟨limit, _, rfl⟩
    rw [size, entries_create, List.length_nil]
    exact ⟨by omega, by omega⟩

/-- In a tidy cache looking up a request finds its entry. -/
theorem find?_eq_some_iff (tidy : cache.Tidy) {request : Request} :
    cache.find? request = some entry ↔ entry ∈ cache.entries ∧ entry.request = request :=
  Sequence.find?_key_eq_some_iff tidy.requests_nodup

theorem makeRoom_sublist (cache : Cache) (victim : Nat) :
    (cache.makeRoom victim).Sublist cache.entries := by
  unfold makeRoom
  split
  · exact List.eraseIdx_sublist _ _
  · exact List.Sublist.refl _

theorem isFull_iff {capacity : Nat} (isCapacity : cache.capacity = some capacity) :
    cache.isFull = true ↔ capacity ≤ cache.size := by
  simp [isFull, isCapacity]

theorem isFull_of_unbounded (unbounded : cache.capacity = none) : cache.isFull = false := by
  simp [isFull, unbounded]

/-- A full cache has an entry to drop. -/
theorem size_pos_of_isFull (tidy : cache.Tidy) (full : cache.isFull = true) : 0 < cache.size := by
  cases isCapacity : cache.capacity with
  | none =>
    rw [isFull_of_unbounded isCapacity] at full
    cases full
  | some capacity =>
    exact Nat.lt_of_lt_of_le (tidy.size_le capacity isCapacity).1 ((isFull_iff isCapacity).mp full)

/-- Only a full cache drops an entry, and then one. -/
theorem makeRoom_cases (tidy : cache.Tidy) (victim : Nat) :
    (cache.isFull = false ∧ cache.makeRoom victim = cache.entries) ∨
      (cache.isFull = true ∧
        ∃ index < cache.size, cache.makeRoom victim = cache.entries.eraseIdx index) := by
  cases full : cache.isFull with
  | false =>
    refine Or.inl ⟨rfl, ?_⟩
    rw [makeRoom, full]
    rfl
  | true =>
    refine Or.inr ⟨rfl, _, Nat.mod_lt victim (size_pos_of_isFull tidy full), ?_⟩
    rw [makeRoom, full]
    rfl

/-- After making room there is room for one more entry. -/
theorem length_makeRoom_lt (tidy : cache.Tidy) (victim : Nat) {capacity : Nat}
    (isCapacity : cache.capacity = some capacity) :
    (cache.makeRoom victim).length < capacity := by
  have sizeLe := (tidy.size_le capacity isCapacity).2
  rcases makeRoom_cases tidy victim with ⟨notFull, same⟩ | ⟨_, index, indexLt, erased⟩
  · have small : ¬capacity ≤ cache.size := by simp [← isFull_iff isCapacity, notFull]
    rw [same]
    exact Nat.lt_of_not_le small
  · rw [erased, List.length_eraseIdx_of_lt indexLt]
    rw [size] at indexLt sizeLe
    omega

theorem tidy_insert (tidy : cache.Tidy) {request : Request} (missing : cache.find? request = none)
    (kernel : Kernel) (victim : Nat) : (cache.insert request kernel victim).1.Tidy := by
  have kept := cache.makeRoom_sublist victim
  refine ⟨?_, (tidy.numbered.sublist kept).concat rfl, ?_⟩
  · apply Sequence.nodup_map_concat (tidy.requests_nodup.sublist (kept.map _))
    intro old oldMem sameRequest
    have absent := List.find?_eq_none.mp missing old (kept.subset oldMem)
    simp [sameRequest] at absent
  · intro capacity isCapacity
    refine ⟨(tidy.size_le capacity isCapacity).1, ?_⟩
    simp only [insert, size, List.length_append, List.length_singleton]
    exact length_makeRoom_lt tidy victim isCapacity

theorem tidy_perform (tidy : cache.Tidy) (command : Command) : (cache.perform command).Tidy := by
  cases cache.performCase command with
  | unchanged same =>
    rw [same]
    exact tidy
  | inserted request victim kernel isFetch missing built returned next =>
    rw [next]
    exact tidy_insert tidy missing kernel victim
  | cleared isClear next =>
    rw [next]
    refine ⟨List.nodup_nil, Numbered.nil _, ?_⟩
    intro capacity isCapacity
    exact ⟨(tidy.size_le capacity isCapacity).1, Nat.zero_le _⟩

theorem tidy_after (tidy : cache.Tidy) (commands : List Command) :
    (cache.after commands).Tidy := by
  induction commands generalizing cache with
  | nil => exact tidy
  | cons command rest ih => exact ih (tidy_perform tidy command)

theorem capacity_perform (cache : Cache) (command : Command) :
    (cache.perform command).capacity = cache.capacity := by
  cases cache.performCase command with
  | unchanged same => rw [same]
  | inserted request victim kernel isFetch missing built returned next =>
    rw [next]
    rfl
  | cleared isClear next =>
    rw [next]
    rfl

theorem capacity_after (cache : Cache) (commands : List Command) :
    (cache.after commands).capacity = cache.capacity := by
  induction commands generalizing cache with
  | nil => rfl
  | cons command rest ih =>
    exact (ih (cache.perform command)).trans (cache.capacity_perform command)

theorem nextSerial_le_perform (cache : Cache) (command : Command) :
    cache.nextSerial ≤ (cache.perform command).nextSerial := by
  cases cache.performCase command with
  | unchanged same => simp [same]
  | inserted request victim kernel isFetch missing built returned next =>
    rw [next]
    exact Nat.le_succ _
  | cleared isClear next =>
    rw [next]
    exact Nat.le_refl _

/-- Serial numbers are never given back. -/
theorem nextSerial_le_after (cache : Cache) (commands : List Command) :
    cache.nextSerial ≤ (cache.after commands).nextSerial := by
  induction commands generalizing cache with
  | nil => exact Nat.le_refl _
  | cons command rest ih =>
    exact Nat.le_trans (cache.nextSerial_le_perform command) (ih (cache.perform command))

/-- A returned entry stands in the cache and has the request that was fetched. -/
theorem mem_of_fetch {request : Request} {victim : Nat}
    (returned : (cache.fetch request victim).2.outcome = .ok entry) :
    entry ∈ (cache.fetch request victim).1.entries ∧ entry.request = request := by
  cases cache.fetchCase request victim with
  | hit other found fetched =>
    rw [fetched] at returned ⊢
    cases returned
    exact mem_of_find? found
  | refused failure missing built fetched =>
    rw [fetched] at returned
    cases returned
  | inserted kernel missing built fetched =>
    rw [fetched] at returned ⊢
    cases returned
    exact ⟨List.mem_append_right _ (List.mem_singleton_self _), rfl⟩

theorem serial_lt_of_returnedBy {start : Cache} (tidy : start.Tidy) {commands : List Command}
    (returned : start.ReturnedBy commands entry) :
    entry.serial < (start.after commands).nextSerial := by
  rcases returned with ⟨earlier, request, victim, later, rfl, outcome⟩
  have tidyThen : ((start.after earlier).fetch request victim).1.Tidy :=
    tidy_perform (tidy_after tidy earlier) (.fetch request victim)
  rw [after_append]
  exact Nat.lt_of_lt_of_le (tidyThen.numbered.lt entry (mem_of_fetch outcome).1)
    (nextSerial_le_after _ later)

/-- An entry of a cache was there before the last step or was inserted by it. -/
theorem mem_entries_perform {command : Command}
    (present : entry ∈ (cache.perform command).entries) :
    entry ∈ cache.entries ∨
      ∃ victim, command = .fetch entry.request victim ∧ cache.find? entry.request = none ∧
        (cache.fetch entry.request victim).2.outcome = .ok entry := by
  cases cache.performCase command with
  | unchanged same =>
    rw [same] at present
    exact Or.inl present
  | inserted request victim kernel isFetch missing built returned next =>
    rw [next] at present
    rcases List.mem_append.mp present with old | new
    · exact Or.inl (mem_of_mem_makeRoom old)
    · obtain rfl := List.mem_singleton.mp new
      exact Or.inr ⟨victim, isFetch, missing, returned⟩
  | cleared isClear next =>
    rw [next] at present
    cases present

/-- Every entry that a history adds to a cache goes back to a fetch that inserted it. -/
theorem insertedBy_of_mem {start : Cache} {commands : List Command}
    (present : entry ∈ (start.after commands).entries) :
    entry ∈ start.entries ∨ start.InsertedBy commands entry := by
  induction commands generalizing start with
  | nil => exact Or.inl present
  | cons command rest ih =>
    rcases ih present with early | ⟨earlier, victim, later, split, missing, outcome⟩
    · rcases mem_entries_perform early with old | ⟨victim, rfl, missing, outcome⟩
      · exact Or.inl old
      · exact Or.inr ⟨[], victim, rest, rfl, missing, outcome⟩
    · refine Or.inr ⟨command :: earlier, victim, later, ?_, missing, outcome⟩
      rw [split, List.cons_append]

theorem mem_entries_perform_of_unbounded (unbounded : cache.capacity = none)
    (present : entry ∈ cache.entries) {command : Command} (notClear : command ≠ .clear) :
    entry ∈ (cache.perform command).entries := by
  cases cache.performCase command with
  | unchanged same =>
    rw [same]
    exact present
  | inserted request victim kernel isFetch missing built returned next =>
    rw [next]
    apply List.mem_append_left
    rw [makeRoom, isFull_of_unbounded unbounded]
    exact present
  | cleared isClear next => exact absurd isClear notClear

/-- An unbounded cache loses entries only when it is cleared. -/
theorem mem_entries_after_of_unbounded (unbounded : cache.capacity = none)
    (present : entry ∈ cache.entries) {commands : List Command}
    (uncleared : Command.clear ∉ commands) : entry ∈ (cache.after commands).entries := by
  induction commands generalizing cache with
  | nil => exact present
  | cons command rest ih =>
    apply ih
    · rw [capacity_perform, unbounded]
    · apply mem_entries_perform_of_unbounded unbounded present
      rintro rfl
      exact uncleared List.mem_cons_self
    · intro inRest
      exact uncleared (List.mem_cons_of_mem _ inRest)

theorem fetch_of_find? {request : Request} (found : cache.find? request = some entry)
    (victim : Nat) : cache.fetch request victim = (cache, ⟨.ok entry, []⟩) := by
  rw [fetch, found]

theorem leaves_of_error {request : Request} {victim : Nat} {failure : Failure}
    (refused : (cache.fetch request victim).2.outcome = .error failure) :
    cache.Leaves (cache.fetch request victim) := by
  cases cache.fetchCase request victim with
  | hit other found fetched =>
    rw [fetched] at refused
    cases refused
  | refused failure missing built fetched =>
    rw [fetched]
    exact ⟨rfl, fun _ => List.not_mem_nil⟩
  | inserted kernel missing built fetched =>
    rw [fetched] at refused
    cases refused

/-- A fetch that succeeds without finding its request inserts an entry with the next number. -/
theorem inserts_of_missing (tidy : cache.Tidy) {request : Request} {victim : Nat}
    (missing : cache.find? request = none)
    (returned : (cache.fetch request victim).2.outcome = .ok entry) :
    cache.Inserts (cache.fetch request victim) entry ∧ entry.serial = cache.nextSerial := by
  have tidyNext : (cache.fetch request victim).1.Tidy := tidy_perform tidy (.fetch request victim)
  have found := (find?_eq_some_iff tidyNext).mpr ⟨(mem_of_fetch returned).1, rfl⟩
  cases cache.fetchCase request victim with
  | hit other isFound fetched =>
    rw [missing] at isFound
    cases isFound
  | refused failure _ built fetched =>
    rw [fetched] at returned
    cases returned
  | inserted kernel _ built fetched =>
    rw [fetched] at returned found ⊢
    cases returned
    refine ⟨⟨found, ⟨_, rfl, ?_⟩, rfl⟩, rfl⟩
    exact (makeRoom_cases tidy victim).imp_left And.right

/-- Without a clearing in between, an unbounded cache returns the same entry for two requests when
they are equal and only then. -/
theorem serial_eq_iff_of_unbounded (tidy : cache.Tidy) (unbounded : cache.capacity = none)
    (present : entry ∈ cache.entries) {between : List Command}
    (uncleared : Command.clear ∉ between) {request : Request} {victim : Nat} {other : Entry}
    (returned : ((cache.after between).fetch request victim).2.outcome = .ok other) :
    other.serial = entry.serial ↔ request = entry.request := by
  have tidyThen := tidy_after tidy between
  have still := mem_entries_after_of_unbounded unbounded present uncleared
  constructor
  · intro sameSerial
    cases found : (cache.after between).find? request with
    | none =>
      -- A new entry has a number above those of all entries that are still there.
      have new := (inserts_of_missing tidyThen found returned).2
      have old := tidyThen.numbered.lt entry still
      omega
    | some held =>
      rw [fetch_of_find? found] at returned
      cases returned
      rcases mem_of_find? found with ⟨otherMem, rfl⟩
      rw [List.inj_on_of_nodup_map tidyThen.numbered.nodup otherMem still sameSerial]
  · rintro rfl
    have found := (find?_eq_some_iff tidyThen).mpr ⟨still, rfl⟩
    rw [fetch_of_find? found] at returned
    cases returned
    rfl

/-- After any history of a new cache, its requests are distinct and within its bound. Fetching then
leaves the cache alone when it fails or finds the request, which gives back the entry some fetch
inserted for it; otherwise it inserts an entry that no fetch has returned before, and only a full
cache drops another one for it. In an unbounded cache two fetches with no clearing in between
return the same entry exactly when they ask for the same request. -/
theorem fetch_tracked (host : Capabilities) (limit : Option Nat) (commands : List Command)
    (request : Request) (victim : Nat) :
    let start := create host limit
    let cache := start.after commands
    let fetched := cache.fetch request victim
    (cache.entries.map Entry.request).Nodup ∧
      (∀ capacity, limit = some capacity → cache.size ≤ max capacity 1) ∧
      (∀ failure, fetched.2.outcome = .error failure → cache.Leaves fetched) ∧
      (∀ entry, cache.find? request = some entry →
        fetched.2.outcome = .ok entry ∧ cache.Leaves fetched ∧ start.InsertedBy commands entry) ∧
      (∀ entry, cache.find? request = none → fetched.2.outcome = .ok entry →
        entry.request = request ∧ cache.Inserts fetched entry ∧
          ∀ other, start.ReturnedBy commands other → other.serial ≠ entry.serial) ∧
      (limit = none → ∀ entry, fetched.2.outcome = .ok entry →
        ∀ between : List Command, Command.clear ∉ between → ∀ otherRequest otherVictim other,
          ((fetched.1.after between).fetch otherRequest otherVictim).2.outcome = .ok other →
            (other.serial = entry.serial ↔ otherRequest = request)) := by
  intro start cache fetched
  have tidyStart := tidy_create host limit
  have tidy : cache.Tidy := tidy_after tidyStart commands
  have capacityEq : cache.capacity = limit.map fun capacity => max capacity 1 :=
    (capacity_after start commands).trans (capacity_create host limit)
  refine ⟨tidy.requests_nodup, ?_, ?_, ?_, ?_, ?_⟩
  · rintro capacity rfl
    exact (tidy.size_le _ capacityEq).2
  · intro failure refused
    exact leaves_of_error refused
  · intro entry found
    have hit : fetched = (cache, ⟨.ok entry, []⟩) := fetch_of_find? found victim
    rw [hit]
    refine ⟨rfl, ⟨rfl, fun _ => List.not_mem_nil⟩, ?_⟩
    rcases insertedBy_of_mem (mem_of_find? found).1 with old | inserted
    · rw [entries_create] at old
      cases old
    · exact inserted
  · intro entry missing returned
    rcases inserts_of_missing tidy missing returned with ⟨inserts, serialEq⟩
    refine ⟨(mem_of_fetch returned).2, inserts, ?_⟩
    intro other returnedBefore
    rw [serialEq]
    exact Nat.ne_of_lt (serial_lt_of_returnedBy tidyStart returnedBefore)
  · rintro rfl entry returned between uncleared otherRequest otherVictim other returnedLater
    rcases mem_of_fetch returned with ⟨present, rfl⟩
    have unboundedThen : fetched.1.capacity = none :=
      (capacity_perform cache (.fetch entry.request victim)).trans capacityEq
    exact serial_eq_iff_of_unbounded (tidy_perform tidy (.fetch entry.request victim))
      unboundedThen present uncleared returnedLater

/-- Requests for a kernel on a single element that differ in their options only. -/
def elementRequest (unroll : Nat) : Request :=
  ⟨Operator.dense .maximum ⟨1, 1⟩, ⟨1, 1, ⟨1, 1⟩, .u8⟩, ⟨1, 1, ⟨1, 1⟩, .u8⟩, ⟨.auto, unroll⟩⟩

/-- With room for one kernel, a second request drops the entry of the first, which is then built
again as a new one. -/
theorem fetch_tracked_dropped :
    let start := create .full (some 0)
    let commands := [Command.fetch (elementRequest 1) 0, Command.fetch (elementRequest 2) 0]
    let fetched := (start.after commands).fetch (elementRequest 1) 0
    ∃ entry, fetched.2.outcome = .ok entry ∧ (start.after commands).Inserts fetched entry ∧
      ∀ other, start.ReturnedBy commands other → other.serial ≠ entry.serial := by
  have missing : ((create .full (some 0)).after
      [.fetch (elementRequest 1) 0, .fetch (elementRequest 2) 0]).find? (elementRequest 1) =
        none := rfl
  have returned : (((create .full (some 0)).after
      [.fetch (elementRequest 1) 0, .fetch (elementRequest 2) 0]).fetch (elementRequest 1)
        0).2.outcome = .ok ⟨elementRequest 1, 2,
          ⟨⟨.maximum, 1, 1, ⟨1, 1⟩, ⟨1, 1⟩, ⟨1, 1⟩, ⟨1, 1⟩, ⟨0, 0⟩, .u8, .u8, .wide, 32, 1⟩,
            ⟨.maximum .u8, ⟨1, 1, 1⟩, 32, .wide⟩⟩⟩ := rfl
  have tracked := fetch_tracked .full (some 0)
    [.fetch (elementRequest 1) 0, .fetch (elementRequest 2) 0] (elementRequest 1) 0
  rcases tracked.2.2.2.2.1 _ missing returned with ⟨_, inserts, isNew⟩
  exact ⟨_, returned, inserts, isNew⟩

end Cache

end IntegerPooling
