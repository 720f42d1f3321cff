import IntegerPooling.Kernel.Basic

/-!
# Kernel caches

A cache keeps the kernels it has built for a host, each under the request it was built for. A
request that is found gets the kernel it got before; any other request builds one. A bounded cache
that is full drops one entry for a new one, whichever the caller of `fetch` points at.

Entries carry a serial number that is never used twice, so that one can tell a kernel that was
kept from an equal one that was built again.
-/

namespace IntegerPooling

/-- What a kernel is built for. -/
structure Request where
  operator : Operator
  source : Layout
  destination : Layout
  options : Options
deriving DecidableEq, Repr

structure Entry where
  request : Request
  serial : Nat
  kernel : Kernel
deriving DecidableEq, Repr

/-- The kernels built for a host, oldest first, at most `capacity` many if there is one. -/
structure Cache where
  host : Capabilities
  capacity : Option Nat
  entries : List Entry
  nextSerial : Nat
deriving DecidableEq, Repr

def Request.build (request : Request) (host : Capabilities) : Journaled (Except Failure Kernel) :=
  Kernel.build request.operator request.source request.destination host request.options

namespace Cache

def unbounded (host : Capabilities) : Cache :=
  ⟨host, none, [], 0⟩

/-- An empty cache that keeps a limited number of kernels, at least one. -/
def bounded (host : Capabilities) (capacity : Nat) : Cache :=
  ⟨host, some (max capacity 1), [], 0⟩

def sharedCapacity : Nat :=
  256

def size (cache : Cache) : Nat :=
  cache.entries.length

def isEmpty (cache : Cache) : Bool :=
  cache.entries.isEmpty

def find? (cache : Cache) (request : Request) : Option Entry :=
  cache.entries.find? fun entry => entry.request = request

def isFull (cache : Cache) : Bool :=
  match cache.capacity with
  | some capacity => decide (capacity ≤ cache.size)
  | none => false

/-- The entries of a cache with room for one more; `victim` counts around the entries. -/
def makeRoom (cache : Cache) (victim : Nat) : List Entry :=
  if cache.isFull then cache.entries.eraseIdx (victim % cache.size) else cache.entries

def insert (cache : Cache) (request : Request) (kernel : Kernel) (victim : Nat) : Cache × Entry :=
  let entry : Entry := ⟨request, cache.nextSerial, kernel⟩
  ({ cache with
      entries := cache.makeRoom victim ++ [entry]
      nextSerial := cache.nextSerial + 1 }, entry)

/-- The entry of a request, built and inserted if there is none. A failed build leaves the cache
as it was. -/
def fetch (cache : Cache) (request : Request) (victim : Nat) :
    Cache × Journaled (Except Failure Entry) :=
  match cache.find? request with
  | some entry => (cache, ⟨.ok entry, []⟩)
  | none =>
    let built := request.build cache.host
    match built.outcome with
    | .error failure => (cache, ⟨.error failure, built.notices⟩)
    | .ok kernel =>
      let inserted := cache.insert request kernel victim
      (inserted.1, ⟨.ok inserted.2, built.notices ++ [.cached inserted.1.size]⟩)

/-- The cache without its kernels; serial numbers go on. -/
def clear (cache : Cache) : Cache :=
  { cache with entries := [] }

end Cache

end IntegerPooling
