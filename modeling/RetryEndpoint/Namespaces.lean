import RetryEndpoint.FrameCache
import RetryEndpoint.LocalCalls

/-! Several namespaced views of one backend. A view reaches the backend under its
prefix only, and no prefix begins another, so whatever the other views do a view is
answered as on a backend of its own. -/
namespace RetryEndpoint.Namespaces
open BigEndian ExpiringStore Cache LocalCalls
open FrameCache (frames dedupClaims proxyClaims)

structure Views (ι : Type) where
  store : ι → Cache.Store
  free : ∀ i j, i ≠ j → ¬ (store i).keyPrefix <+: (store j).keyPrefix

inductive Op where
  | store (key value : Bytes) (ttl : Int) (fault : Fault)
  | retrieve (key : Bytes) (failed : Bool)
  | delete (key : Bytes) (fault : Fault)
  | setNX (key value : Bytes) (ttl : Int) (fault : Fault)
  deriving DecidableEq, Repr

def Op.key : Op → Bytes
  | .store key _ _ _ | .retrieve key _ | .delete key _ | .setNX key _ _ _ => key

inductive Answer where
  | wrote (err : Bool)
  | found (value : Except Unit (Option Bytes))
  | claimed (reply : Reply)

structure Call (ι : Type) where
  view : ι
  now : Int
  op : Op
  deriving DecidableEq, Repr

variable {ι : Type}

def Call.key (views : Views ι) (c : Call ι) : Bytes := (views.store c.view).key c.op.key

def perform (views : Views ι) (c : Call ι) (b : Backend) : Answer × Backend :=
  let s := views.store c.view
  match c.op with
  | .store key value ttl fault =>
    (.wrote (s.store b fault c.now key value ttl).1, (s.store b fault c.now key value ttl).2)
  | .retrieve key failed => (.found (s.retrieve b failed c.now key), b)
  | .delete key fault => (.wrote (s.delete b fault key).1, (s.delete b fault key).2)
  | .setNX key value ttl fault =>
    (.claimed (s.setNX b fault c.now key value ttl).1, (s.setNX b fault c.now key value ttl).2)

section Local
variable (now ttl : Int) (v : Bytes)

theorem readSame {b b' : Backend} {now : Int} {k : Bytes} (same : b k = b' k) : read b now k = read b' now k := by
  simp only [ExpiringStore.read, same]

theorem putNXLocal (k : Bytes) : LocalAt k (fun b : Backend => putNX b now k v ttl) where
  answer b b' same := by
    simp only [putNX, readSame same]
    split <;> rfl
  effect b b' same := by
    simp only [putNX, readSame same]
    split
    · exact same
    · exact (putSame b now k v ttl).trans (putSame b' now k v ttl).symm
  others b k' other := by
    unfold putNX
    split
    · rfl
    · exact putOther _ _ _ _ other

theorem storeLocal (s : Cache.Store) (fault : Fault) (key : Bytes) :
    LocalAt (s.key key) (fun b => s.store b fault now key v ttl) where
  answer b b' same := by cases fault <;> rfl
  effect b b' same := by
    cases fault with
    | none | landed => simp only [Store.store, putSame]
    | lost => exact same
  others b k' other := by
    cases fault with
    | none | landed => exact putOther _ _ _ _ other
    | lost => rfl

theorem deleteLocal (s : Cache.Store) (fault : Fault) (key : Bytes) :
    LocalAt (s.key key) (fun b => s.delete b fault key) where
  answer b b' same := by cases fault <;> rfl
  effect b b' same := by
    cases fault with
    | none | landed => simp only [Store.delete, drop, Function.update_self]
    | lost => exact same
  others b k' other := by
    cases fault with
    | none | landed => exact Function.update_of_ne other ..
    | lost => rfl

theorem setNXLocal (s : Cache.Store) (fault : Fault) (key : Bytes) :
    LocalAt (s.key key) (fun b => s.setNX b fault now key v ttl) where
  answer b b' same := by
    have created := (putNXLocal now ttl v (s.key key)).answer b b' same
    cases fault with
    | none => simp only [Store.setNX, created]
    | lost | landed => rfl
  effect b b' same := by
    cases fault with
    | none | landed => exact (putNXLocal now ttl v (s.key key)).effect b b' same
    | lost => exact same
  others b k' other := by
    cases fault with
    | none | landed => exact (putNXLocal now ttl v (s.key key)).others b k' other
    | lost => rfl

theorem performLocal (views : Views ι) (c : Call ι) : LocalAt (c.key views) (perform views c) := by
  obtain ⟨view, now, op⟩ := c
  cases op with
  | store key value ttl fault =>
    have h := storeLocal now ttl value (views.store view) fault key
    exact ⟨fun b b' same => congrArg Answer.wrote (h.answer b b' same), h.effect, h.others⟩
  | retrieve key failed =>
    refine ⟨?_, fun _ _ same => same, fun _ _ _ => rfl⟩
    intro b b' same
    have value : read b now ((views.store view).key key) = read b' now ((views.store view).key key) :=
      readSame same
    simp only [perform, Store.retrieve, value]
  | delete key fault =>
    have h := deleteLocal (views.store view) fault key
    exact ⟨fun b b' same => congrArg Answer.wrote (h.answer b b' same), h.effect, h.others⟩
  | setNX key value ttl fault =>
    have h := setNXLocal now ttl value (views.store view) fault key
    exact ⟨fun b b' same => congrArg Answer.claimed (h.answer b b' same), h.effect, h.others⟩

end Local

theorem keysApart (views : Views ι) {i j : ι} (other : i ≠ j) (k k' : Bytes) :
    (views.store i).key k ≠ (views.store j).key k' := by
  intro same
  have left : (views.store i).keyPrefix <+: (views.store i).key k := List.prefix_append ..
  have right : (views.store j).keyPrefix <+: (views.store i).key k := same ▸ List.prefix_append ..
  rcases List.prefix_or_prefix_of_prefix left right with begins | begins
  · exact views.free i j other begins
  · exact views.free j i other.symm begins

/-- Whatever calls interleave, and whatever the outside makes of each, a view gets the
answers and is left with the entries it would have on a backend that receives its own
calls only. -/
theorem viewsIndependent [DecidableEq ι] (views : Views ι) (b : Backend) (calls : List (Call ι)) (i : ι) :
    (answers (perform views) b calls).filter (fun p => p.1.view = i) =
      answers (perform views) b (calls.filter (fun c => c.view = i)) ∧
    ∀ k, final (perform views) b calls ((views.store i).key k) =
      final (perform views) b (calls.filter (fun c => c.view = i)) ((views.store i).key k) := by
  have apart : ∀ c d : Call ι, decide (c.view = i) = true → decide (d.view = i) = false →
      d.key views ≠ c.key views := by
    intro c d mine other
    have mine := of_decide_eq_true mine
    have other := of_decide_eq_false other
    exact keysApart views (fun same => other (same.trans mine)) d.op.key c.op.key
  refine ⟨answersAlone (performLocal views) apart (fun _ _ => rfl) calls, ?_⟩
  intro k
  exact finalAlone (performLocal views) apart (fun _ _ => rfl) calls ⟨i, 0, .retrieve k false⟩
    (decide_eq_true rfl)

inductive Name where | frame | dedup | proxy deriving DecidableEq, Repr

def endpointViews : Views Name where
  store
    | .frame => frames
    | .dedup => dedupClaims
    | .proxy => proxyClaims
  free i j other := by
    cases i <;> cases j <;> first | exact absurd rfl other | decide

def sameKey : List (Call Name) :=
  [⟨.frame, 0, .store [7] [1, 2, 3] 60 .none⟩, ⟨.dedup, 1, .setNX [7] [0x31] 10 .none⟩,
    ⟨.proxy, 1, .setNX [7] [0x31] 10 .none⟩, ⟨.dedup, 2, .delete [7] .none⟩,
    ⟨.proxy, 2, .store [7] [] 0 .landed⟩, ⟨.frame, 3, .retrieve [7] false⟩]

theorem viewsIndependentSameKey :
    (answers (perform endpointViews) empty sameKey).filter (fun p => p.1.view = .frame) =
      [(⟨.frame, 0, .store [7] [1, 2, 3] 60 .none⟩, .wrote false),
        (⟨.frame, 3, .retrieve [7] false⟩, .found (.ok (some [1, 2, 3])))] := by
  rw [(viewsIndependent endpointViews empty sameKey .frame).1]
  rfl

end RetryEndpoint.Namespaces
