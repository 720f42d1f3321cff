import IntegerPooling.Session

/-!
# Pooling in one step

`Cache.pool` takes a list of elements to the list of its pooled elements: it gets the kernel from
a cache, makes room for the destination and runs the kernel. The pixels may be worked through in
parallel, in an order that nobody chooses, so the traversal of the run is an argument; the standard
one is taken when none is given.
-/

namespace IntegerPooling

/-- Runs a kernel on a list of elements and a new destination. -/
def Kernel.runFresh {s : ElementType} (kernel : Kernel) (traversal : Traversal) (d : ElementType)
    (destination : Layout) (source : List (Element s)) :
    Journaled (Except Fault (List (Element d))) :=
  match destination.allocation with
  | .error fault => ⟨.error fault, []⟩
  | .ok count => kernel.runElements traversal source (List.replicate count (Element.lowest d))

namespace Cache

/-- The cache that pooling in one step uses when no other is given. -/
def shared (host : Capabilities) : Cache :=
  bounded host sharedCapacity

def pool {s : ElementType} (cache : Cache) (operator : Operator) (d : ElementType)
    (batch channels : Nat) (extent : Spatial) (source : List (Element s)) (victim : Nat)
    (traversal : Traversal := Traversal.standard) :
    Cache × Journaled (Except Failure (List (Element d))) :=
  let layout : Layout := ⟨batch, channels, extent, s.dataType⟩
  match operator.destination layout d.dataType with
  | .error fault => (cache, ⟨.error (.faulted fault), []⟩)
  | .ok destination =>
    let fetched := cache.fetch ⟨operator, layout, destination, Options.standard⟩ victim
    match fetched.2.outcome with
    | .error failure => (fetched.1, ⟨.error failure, fetched.2.notices⟩)
    | .ok entry =>
      let result := entry.kernel.runFresh traversal d destination source
      (fetched.1, ⟨result.outcome.mapError .faulted, fetched.2.notices ++ result.notices⟩)

end Cache

end IntegerPooling
