import IntegerPooling.Proofs.Cache.Identity
import IntegerPooling.Session

/-!
# Sessions over time

Fetching in a session comes to what building the request afresh comes to, whatever was done before
(`fetch_agrees`). A kernel that was handed out is found under its serial number for good: entries
that are dropped or cleared leave the cache, not the session. This rests on the serial numbers,
which tell apart all entries a session ever handed out (`Keeps`).
-/

namespace IntegerPooling

namespace Session

variable {session : Session}

def perform (session : Session) : Cache.Command → Session
  | .fetch request victim => (session.fetch request victim).1
  | .clear => session.clear

def after (session : Session) (commands : List Cache.Command) : Session :=
  commands.foldl perform session

/-- Runs the kernel that was handed out under a serial number. -/
def runElements? {s d : ElementType} (session : Session) (serial : Nat) (traversal : Traversal)
    (source : List (Element s)) (destination : List (Element d)) :
    Option (Journaled (Except Fault (List (Element d)))) :=
  (session.kernel? serial).map fun kernel => kernel.runElements traversal source destination

/-- That a session still has every entry of its cache and tells apart all it ever handed out. -/
structure Keeps (session : Session) : Prop where
  tidy : session.cache.Tidy
  kept : ∀ entry ∈ session.cache.entries, entry ∈ session.handedOut
  numbered : Numbered session.cache.nextSerial session.handedOut

theorem keeps_start (host : Capabilities) (limit : Option Nat) :
    (start (Cache.create host limit)).Keeps := by
  refine ⟨Cache.tidy_create host limit, ?_, Numbered.nil _⟩
  intro entry entryMem
  rw [start, Cache.entries_create] at entryMem
  cases entryMem

/-- A session reports what its cache reports. -/
theorem snd_fetch (session : Session) (request : Request) (victim : Nat) :
    (session.fetch request victim).2 = (session.cache.fetch request victim).2 := by
  unfold fetch
  simp only
  split <;> rfl

theorem cache_fetch (session : Session) (request : Request) (victim : Nat) :
    (session.fetch request victim).1.cache = (session.cache.fetch request victim).1 := by
  unfold fetch
  simp only
  split <;> rfl

theorem cache_perform (session : Session) (command : Cache.Command) :
    (session.perform command).cache = session.cache.perform command := by
  cases command with
  | fetch request victim => exact session.cache_fetch request victim
  | clear => rfl

theorem cache_after (session : Session) (commands : List Cache.Command) :
    (session.after commands).cache = session.cache.after commands := by
  induction commands generalizing session with
  | nil => rfl
  | cons command rest ih =>
    refine (ih (session.perform command)).trans ?_
    rw [cache_perform]
    rfl

/-- What a step does to a session: nothing, one more entry in the cache and handed out, or the
clearing of the cache. -/
inductive PerformCase (session : Session) (command : Cache.Command) : Prop where
  | unchanged (same : session.perform command = session)
  | inserted (request : Request) (victim : Nat) (kernel : Kernel)
      (missing : session.cache.find? request = none)
      (next : session.perform command =
        ⟨(session.cache.insert request kernel victim).1,
          session.handedOut ++ [(session.cache.insert request kernel victim).2]⟩)
  | cleared (next : session.perform command = session.clear)

theorem performCase (keeps : session.Keeps) (command : Cache.Command) :
    session.PerformCase command := by
  cases command with
  | clear => exact .cleared rfl
  | fetch request victim =>
    cases session.cache.fetchCase request victim with
    | hit entry found fetched =>
      have handedOut := keeps.kept entry (Cache.mem_of_find? found).1
      have known : session.handedOut.any (fun held => held.serial = entry.serial) = true :=
        List.any_eq_true.mpr ⟨entry, handedOut, decide_eq_true rfl⟩
      refine .unchanged ?_
      simp only [perform, fetch, fetched, known, if_true]
    | refused failure missing built fetched =>
      refine .unchanged ?_
      simp only [perform, fetch, fetched]
    | inserted kernel missing built fetched =>
      -- The serial number of a new entry is none of those handed out before.
      have unknown : session.handedOut.any
          (fun held => held.serial = (session.cache.insert request kernel victim).2.serial) =
            false := by
        apply List.any_eq_false.mpr
        intro held heldMem sameSerial
        exact Nat.ne_of_lt (keeps.numbered.lt held heldMem) (of_decide_eq_true sameSerial)
      refine .inserted request victim kernel missing ?_
      simp only [perform, fetch, fetched, unknown, Bool.false_eq_true, if_false]

theorem keeps_perform (keeps : session.Keeps) (command : Cache.Command) :
    (session.perform command).Keeps := by
  have tidyNext : (session.perform command).cache.Tidy := by
    rw [cache_perform]
    exact Cache.tidy_perform keeps.tidy command
  cases performCase keeps command with
  | unchanged same =>
    rw [same]
    exact keeps
  | inserted request victim kernel missing next =>
    rw [next] at tidyNext ⊢
    refine ⟨tidyNext, ?_, keeps.numbered.concat rfl⟩
    intro entry entryMem
    rcases List.mem_append.mp entryMem with old | new
    · exact List.mem_append_left _ (keeps.kept entry (Cache.mem_of_mem_makeRoom old))
    · exact List.mem_append_right _ new
  | cleared next =>
    rw [next] at tidyNext ⊢
    refine ⟨tidyNext, ?_, keeps.numbered⟩
    intro entry entryMem
    cases entryMem

theorem keeps_after (keeps : session.Keeps) (commands : List Cache.Command) :
    (session.after commands).Keeps := by
  induction commands generalizing session with
  | nil => exact keeps
  | cons command rest ih => exact ih (keeps_perform keeps command)

/-- Every entry that was handed out is found under its serial number. -/
theorem kernel?_of_mem (keeps : session.Keeps) {held : Entry} (heldMem : held ∈ session.handedOut) :
    session.kernel? held.serial = some held.kernel := by
  have found := (Sequence.find?_key_eq_some_iff keeps.numbered.nodup).mpr ⟨heldMem, rfl⟩
  rw [kernel?, found]
  rfl

theorem mem_handedOut_perform (keeps : session.Keeps) {held : Entry}
    (heldMem : held ∈ session.handedOut) (command : Cache.Command) :
    held ∈ (session.perform command).handedOut := by
  cases performCase keeps command with
  | unchanged same =>
    rw [same]
    exact heldMem
  | inserted request victim kernel missing next =>
    rw [next]
    exact List.mem_append_left _ heldMem
  | cleared next =>
    rw [next]
    exact heldMem

/-- What was handed out is never taken back. -/
theorem mem_handedOut_after (keeps : session.Keeps) {held : Entry}
    (heldMem : held ∈ session.handedOut) (commands : List Cache.Command) :
    held ∈ (session.after commands).handedOut := by
  induction commands generalizing session with
  | nil => exact heldMem
  | cons command rest ih =>
    exact ih (keeps_perform keeps command) (mem_handedOut_perform keeps heldMem command)

/-- After any history of a new cache, fetching a request has the outcome of building it afresh: the
same kernel, refusal or fault. A kernel that was handed out stays the same kernel in the hands of
its holder, and pools every source as before, whatever is fetched or cleared later. -/
theorem fetch_agrees (host : Capabilities) (limit : Option Nat) (commands : List Cache.Command)
    (request : Request) (victim : Nat) :
    let session := (start (Cache.create host limit)).after commands
    let fetched := session.fetch request victim
    fetched.2.outcome.map Entry.kernel = (request.build host).outcome ∧
      ∀ entry, fetched.2.outcome = .ok entry → ∀ later : List Cache.Command,
        (fetched.1.after later).kernel? entry.serial = some entry.kernel ∧
          ∀ (s d : ElementType) (traversal : Traversal) (source : List (Element s))
            (destination : List (Element d)),
            (fetched.1.after later).runElements? entry.serial traversal source destination =
              some (entry.kernel.runElements traversal source destination) := by
  intro session fetched
  have keeps : session.Keeps := keeps_after (keeps_start host limit) commands
  have cacheEq : session.cache = (Cache.create host limit).after commands :=
    cache_after (start (Cache.create host limit)) commands
  have reported : fetched.2 = (session.cache.fetch request victim).2 :=
    session.snd_fetch request victim
  constructor
  · have faithful : session.cache.Faithful := by
      rw [cacheEq]
      exact Cache.faithful_after (Cache.faithful_create host limit) commands
    rw [reported, Cache.map_kernel_fetch faithful, cacheEq, Cache.host_after, Cache.host_create]
  · intro entry returned later
    have keepsNow : fetched.1.Keeps := keeps_perform keeps (.fetch request victim)
    rw [reported] at returned
    have entryMem : entry ∈ fetched.1.cache.entries := by
      rw [cache_fetch]
      exact (Cache.mem_of_fetch returned).1
    have handedOut := mem_handedOut_after keepsNow (keepsNow.kept entry entryMem) later
    have held := kernel?_of_mem (keeps_after keepsNow later) handedOut
    refine ⟨held, ?_⟩
    intro s d traversal source destination
    rw [runElements?, held]
    rfl

/-- The first kernel is dropped for the second, which is then cleared away; its holder still has
it. -/
theorem fetch_agrees_dropped :
    let fetched := (start (Cache.create .full (some 1))).fetch (Cache.elementRequest 1) 0
    let later := [Cache.Command.fetch (Cache.elementRequest 2) 0, Cache.Command.clear]
    ∃ entry, fetched.2.outcome = .ok entry ∧ (fetched.1.after later).cache.entries = [] ∧
      (fetched.1.after later).kernel? entry.serial = some entry.kernel := by
  have returned : ((start (Cache.create .full (some 1))).fetch (Cache.elementRequest 1)
      0).2.outcome = .ok ⟨Cache.elementRequest 1, 0,
        ⟨⟨.maximum, 1, 1, ⟨1, 1⟩, ⟨1, 1⟩, ⟨1, 1⟩, ⟨1, 1⟩, ⟨0, 0⟩, .u8, .u8, .wide, 32, 1⟩,
          ⟨.maximum .u8, ⟨1, 1, 1⟩, 32, .wide⟩⟩⟩ := rfl
  have agrees := fetch_agrees .full (some 1) [] (Cache.elementRequest 1) 0
  exact ⟨_, returned, rfl, (agrees.2 _ returned
    [.fetch (Cache.elementRequest 2) 0, .clear]).1⟩

end Session

end IntegerPooling
