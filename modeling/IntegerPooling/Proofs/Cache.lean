import IntegerPooling.Cache
import Mathlib.Data.List.Basic

/-!
# Caches over time

Whatever has been fetched from a cache, dropped from it or cleared, each of its entries holds the
kernel that the request of the entry is built into (`faithful_after`). So fetching gives the same
kernel as building, whether the request is found or not. What a fetch can come to is said once
(`fetchCase`), and so is what a step does to a cache (`performCase`); what a history keeps is
derived from these.
-/

namespace IntegerPooling

theorem Request.build_of_ok {request : Request} {host : Capabilities} {kernel : Kernel}
    (built : (request.build host).outcome = .ok kernel) :
    request.build host = ⟨.ok kernel, [.built kernel.plan]⟩ := by
  unfold build Kernel.build at built ⊢
  split at built
  · cases built
    rfl
  · cases built

theorem Request.build_of_error {request : Request} {host : Capabilities} {failure : Failure}
    (refused : (request.build host).outcome = .error failure) :
    request.build host = ⟨.error failure, []⟩ := by
  unfold build Kernel.build at refused ⊢
  split at refused
  · cases refused
  · cases refused
    rfl

namespace Cache

/-- A cache without entries, bounded if there is a limit. -/
def create (host : Capabilities) : (limit : Option Nat) → Cache
  | some capacity => bounded host capacity
  | none => unbounded host

/-- What the users of a cache do to it. -/
inductive Command where
  | fetch (request : Request) (victim : Nat)
  | clear
deriving DecidableEq, Repr

def perform (cache : Cache) : Command → Cache
  | .fetch request victim => (cache.fetch request victim).1
  | .clear => cache.clear

def after (cache : Cache) (commands : List Command) : Cache :=
  commands.foldl perform cache

theorem after_append (start : Cache) (earlier later : List Command) :
    start.after (earlier ++ later) = (start.after earlier).after later :=
  List.foldl_append

/-- What a fetch comes to: the request is found, cannot be built, or is built and inserted. -/
inductive FetchCase (cache : Cache) (request : Request) (victim : Nat) : Prop where
  | hit (entry : Entry) (found : cache.find? request = some entry)
      (fetched : cache.fetch request victim = (cache, ⟨.ok entry, []⟩))
  | refused (failure : Failure) (missing : cache.find? request = none)
      (built : (request.build cache.host).outcome = .error failure)
      (fetched : cache.fetch request victim = (cache, ⟨.error failure, []⟩))
  | inserted (kernel : Kernel) (missing : cache.find? request = none)
      (built : (request.build cache.host).outcome = .ok kernel)
      (fetched : cache.fetch request victim =
        ((cache.insert request kernel victim).1,
          ⟨.ok (cache.insert request kernel victim).2,
            [.built kernel.plan, .cached (cache.insert request kernel victim).1.size]⟩))

theorem fetchCase (cache : Cache) (request : Request) (victim : Nat) :
    cache.FetchCase request victim := by
  cases found : cache.find? request with
  | some entry => exact .hit entry found (by rw [fetch, found])
  | none =>
    cases built : (request.build cache.host).outcome with
    | error failure =>
      refine .refused failure found built ?_
      simp only [fetch, found, Request.build_of_error built]
    | ok kernel =>
      refine .inserted kernel found built ?_
      simp only [fetch, found, Request.build_of_ok built, List.cons_append, List.nil_append]

/-- What a step does to a cache: nothing, one insertion for a request that is not found, or the
clearing. -/
inductive PerformCase (cache : Cache) (command : Command) : Prop where
  | unchanged (same : cache.perform command = cache)
  | inserted (request : Request) (victim : Nat) (kernel : Kernel)
      (isFetch : command = .fetch request victim) (missing : cache.find? request = none)
      (built : (request.build cache.host).outcome = .ok kernel)
      (returned : (cache.fetch request victim).2.outcome =
        .ok (cache.insert request kernel victim).2)
      (next : cache.perform command = (cache.insert request kernel victim).1)
  | cleared (isClear : command = .clear) (next : cache.perform command = cache.clear)

theorem performCase (cache : Cache) (command : Command) : cache.PerformCase command := by
  cases command with
  | fetch request victim =>
    cases cache.fetchCase request victim with
    | hit entry found fetched => exact .unchanged (by rw [perform, fetched])
    | refused failure missing built fetched => exact .unchanged (by rw [perform, fetched])
    | inserted kernel missing built fetched =>
      exact .inserted request victim kernel rfl missing built (by rw [fetched])
        (by rw [perform, fetched])
  | clear => exact .cleared rfl rfl

/-- Whether each entry holds the kernel of its request. -/
def Faithful (cache : Cache) : Prop :=
  ∀ entry ∈ cache.entries, (entry.request.build cache.host).outcome = .ok entry.kernel

theorem faithful_bounded (host : Capabilities) (capacity : Nat) :
    (bounded host capacity).Faithful := by
  intro entry entryMem
  cases entryMem

theorem entries_create (host : Capabilities) (limit : Option Nat) :
    (create host limit).entries = [] := by
  cases limit <;> rfl

theorem host_create (host : Capabilities) (limit : Option Nat) :
    (create host limit).host = host := by
  cases limit <;> rfl

theorem faithful_create (host : Capabilities) (limit : Option Nat) :
    (create host limit).Faithful := by
  intro entry entryMem
  rw [entries_create] at entryMem
  cases entryMem

theorem mem_of_mem_makeRoom {cache : Cache} {victim : Nat} {entry : Entry}
    (entryMem : entry ∈ cache.makeRoom victim) : entry ∈ cache.entries := by
  unfold makeRoom at entryMem
  split at entryMem
  · exact List.mem_of_mem_eraseIdx entryMem
  · exact entryMem

theorem faithful_insert {cache : Cache} (faithful : cache.Faithful) {request : Request}
    {kernel : Kernel} (built : (request.build cache.host).outcome = .ok kernel) (victim : Nat) :
    (cache.insert request kernel victim).1.Faithful := by
  intro entry entryMem
  rcases List.mem_append.mp entryMem with old | new
  · exact faithful entry (mem_of_mem_makeRoom old)
  · rw [List.mem_singleton.mp new]
    exact built

theorem host_perform (cache : Cache) (command : Command) :
    (cache.perform command).host = cache.host := by
  cases cache.performCase command with
  | unchanged same => rw [same]
  | inserted request victim kernel isFetch missing built returned next =>
    rw [next]
    rfl
  | cleared isClear next =>
    rw [next]
    rfl

theorem faithful_perform {cache : Cache} (faithful : cache.Faithful) (command : Command) :
    (cache.perform command).Faithful := by
  cases cache.performCase command with
  | unchanged same =>
    rw [same]
    exact faithful
  | inserted request victim kernel isFetch missing built returned next =>
    rw [next]
    exact faithful_insert faithful built victim
  | cleared isClear next =>
    rw [next]
    intro entry entryMem
    cases entryMem

theorem host_after (cache : Cache) (commands : List Command) :
    (cache.after commands).host = cache.host := by
  induction commands generalizing cache with
  | nil => rfl
  | cons command rest ih => exact (ih (cache.perform command)).trans (cache.host_perform command)

/-- Every history of a cache keeps its entries the kernels of their requests. -/
theorem faithful_after {cache : Cache} (faithful : cache.Faithful) (commands : List Command) :
    (cache.after commands).Faithful := by
  induction commands generalizing cache with
  | nil => exact faithful
  | cons command rest ih => exact ih (faithful_perform faithful command)

/-- The request of a found entry is the one that was looked for. -/
theorem mem_of_find? {cache : Cache} {request : Request} {entry : Entry}
    (found : cache.find? request = some entry) :
    entry ∈ cache.entries ∧ entry.request = request := by
  have requestEq := List.find?_some found
  rw [decide_eq_true_eq] at requestEq
  exact ⟨List.mem_of_find?_eq_some found, requestEq⟩

/-- A fetch comes to what building the request comes to. -/
theorem map_kernel_fetch {cache : Cache} (faithful : cache.Faithful) (request : Request)
    (victim : Nat) :
    (cache.fetch request victim).2.outcome.map Entry.kernel =
      (request.build cache.host).outcome := by
  cases cache.fetchCase request victim with
  | hit entry found fetched =>
    rcases mem_of_find? found with ⟨entryMem, rfl⟩
    rw [fetched, faithful entry entryMem]
    rfl
  | refused failure missing built fetched =>
    rw [fetched, built]
    rfl
  | inserted kernel missing built fetched =>
    rw [fetched, built]
    rfl

/-- Fetching a request that can be built gives the kernel it is built into. -/
theorem fetch_eq_ok {cache : Cache} (faithful : cache.Faithful) {request : Request}
    {kernel : Kernel} (built : (request.build cache.host).outcome = .ok kernel) (victim : Nat) :
    ∃ entry, (cache.fetch request victim).2.outcome = .ok entry ∧ entry.kernel = kernel := by
  have mapped := map_kernel_fetch faithful request victim
  rw [built] at mapped
  cases fetched : (cache.fetch request victim).2.outcome with
  | error failure =>
    rw [fetched] at mapped
    cases mapped
  | ok entry =>
    rw [fetched] at mapped
    cases mapped
    exact ⟨entry, rfl, rfl⟩

end Cache

end IntegerPooling
