import IntegerPooling.Cache
import IntegerPooling.Kernel.Run

/-!
# Sessions

A session is a cache together with the kernels that it has handed out. Those stay usable whatever
happens to the cache: evicting or clearing an entry does not take a kernel away from its holders.
-/

namespace IntegerPooling

/-- A cache and the entries handed out so far, in the order of their serial numbers. -/
structure Session where
  cache : Cache
  handedOut : List Entry

namespace Session

def start (cache : Cache) : Session :=
  ⟨cache, []⟩

/-- Gets the entry of a request from the cache and notes it if it is new. -/
def fetch (session : Session) (request : Request) (victim : Nat) :
    Session × Journaled (Except Failure Entry) :=
  let fetched := session.cache.fetch request victim
  match fetched.2.outcome with
  | .error _ => (⟨fetched.1, session.handedOut⟩, fetched.2)
  | .ok entry =>
    let handedOut :=
      if session.handedOut.any fun held => held.serial = entry.serial then session.handedOut
      else session.handedOut ++ [entry]
    (⟨fetched.1, handedOut⟩, fetched.2)

def clear (session : Session) : Session :=
  { session with cache := session.cache.clear }

def kernel? (session : Session) (serial : Nat) : Option Kernel :=
  (session.handedOut.find? fun held => held.serial = serial).map Entry.kernel

end Session

end IntegerPooling
