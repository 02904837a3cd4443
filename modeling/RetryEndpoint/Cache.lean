import RetryEndpoint.BigEndian
import RetryEndpoint.ExpiringStore

/-! The namespaced view of a cache backend of cache.go. The backend is shard-common's: it
is taken as a store whose operations may fail, and a failed write may have landed before
its answer was lost. Assumed of it is that the value and the lifetime are those of the last
write; that an entry is found up to its deadline and not from then on, so that a backend
that rounds lifetimes, to a second at least say, is outside; and that SetNX creates a key
only where Get finds nothing, in one step, whoever writes besides. -/
namespace RetryEndpoint.Cache
open BigEndian ExpiringStore

abbrev Backend := ExpiringStore.Store Bytes Bytes

inductive Fault where | none | lost | landed deriving DecidableEq, Repr

structure TTLConfig where
  tx : Int
  block : Int
  subtree : Int
  anchor : Int
  beef : Int
  deriving DecidableEq, Repr

structure Store where
  keyPrefix : Bytes
  deriving DecidableEq, Repr

def Store.key (s : Store) (k : Bytes) : Bytes := s.keyPrefix ++ k

/- Store, Retrieve, Delete and SetNX of one view. The first component is the answer;
true in the error position is a non-nil error. -/
def Store.store (s : Store) (b : Backend) (fault : Fault) (now : Int) (key value : Bytes)
    (ttl : Int) : Bool × Backend :=
  match fault with
  | .none => (false, put b now (s.key key) value ttl)
  | .lost => (true, b)
  | .landed => (true, put b now (s.key key) value ttl)

def Store.retrieve (s : Store) (b : Backend) (failed : Bool) (now : Int) (key : Bytes) :
    Except Unit (Option Bytes) :=
  if failed then .error () else .ok (read b now (s.key key))

def Store.delete (s : Store) (b : Backend) (fault : Fault) (key : Bytes) : Bool × Backend :=
  match fault with
  | .none => (false, drop b (s.key key))
  | .lost => (true, b)
  | .landed => (true, drop b (s.key key))

structure Reply where
  set : Bool
  err : Bool
  deriving DecidableEq, Repr

def Store.setNX (s : Store) (b : Backend) (fault : Fault) (now : Int) (key value : Bytes)
    (ttl : Int) : Reply × Backend :=
  let (created, b') := putNX b now (s.key key) value ttl
  match fault with
  | .none => (⟨created, false⟩, b')
  | .lost => (⟨false, true⟩, b)
  | .landed => (⟨false, true⟩, b')

theorem keyInj {s : Store} {k k' : Bytes} (same : s.key k = s.key k') : k = k' :=
  List.append_cancel_left same

end RetryEndpoint.Cache
