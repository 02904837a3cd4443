import Mathlib.Logic.Function.Basic

/-! A key-value store whose entries expire. An entry holds from the moment it is
written until its deadline; a read at or past the deadline finds nothing. The
conditional write creates a key only where a read finds nothing, in one step.
Dropping entries early, for room, is a separate step of its own. -/
namespace RetryEndpoint.ExpiringStore

variable {κ ν : Type} [DecidableEq κ]

structure Entry (ν : Type) where
  value : ν
  expires : Int
  deriving DecidableEq, Repr

abbrev Store (κ ν : Type) := κ → Option (Entry ν)

def empty : Store κ ν := fun _ => none

def read (s : Store κ ν) (now : Int) (k : κ) : Option ν := match s k with
  | none => none
  | some e => if now < e.expires then some e.value else none

def put (s : Store κ ν) (now : Int) (k : κ) (v : ν) (ttl : Int) : Store κ ν :=
  Function.update s k (some ⟨v, now + ttl⟩)

def putNX (s : Store κ ν) (now : Int) (k : κ) (v : ν) (ttl : Int) : Bool × Store κ ν :=
  if (read s now k).isSome then (false, s) else (true, put s now k v ttl)

@[simp] theorem putSame (s : Store κ ν) (now : Int) (k : κ) (v : ν) (ttl : Int) :
    put s now k v ttl k = some ⟨v, now + ttl⟩ := Function.update_self ..

theorem putOther (s : Store κ ν) (now : Int) {k k' : κ} (v : ν) (ttl : Int) (other : k' ≠ k) :
    put s now k v ttl k' = s k' := Function.update_of_ne other ..

theorem putCases {s : Store κ ν} {now : Int} {k k' : κ} {v : ν} {ttl : Int} {e : Entry ν}
    (found : put s now k v ttl k' = some e) : (k' = k ∧ e = ⟨v, now + ttl⟩) ∨ (k' ≠ k ∧ s k' = some e) := by
  by_cases same : k' = k
  · subst k'
    rw [putSame] at found
    exact .inl ⟨rfl, (Option.some.inj found).symm⟩
  · rw [putOther _ _ _ _ same] at found
    exact .inr ⟨same, found⟩

omit [DecidableEq κ] in
theorem readNone {s : Store κ ν} {now : Int} {k : κ} {e : Entry ν}
    (absent : read s now k = none) (found : s k = some e) : e.expires ≤ now := by
  simp only [read, found] at absent
  split at absent
  · cases absent
  · omega

omit [DecidableEq κ] in
theorem readSome {s : Store κ ν} {now : Int} {k : κ} (present : (read s now k).isSome) :
    ∃ e, s k = some e ∧ now < e.expires := by
  unfold read at present
  split at present
  · cases present
  · rename_i e found
    split at present
    · exact ⟨e, found, by assumption⟩
    · cases present

def drop (s : Store κ ν) (k : κ) : Store κ ν := Function.update s k none

def Every (p : κ → ν → Prop) (s : Store κ ν) : Prop := ∀ k e, s k = some e → p k e.value

omit [DecidableEq κ] in
theorem everyEmpty (p : κ → ν → Prop) : Every p (empty : Store κ ν) := by
  intro k e found
  cases found

theorem everyPut {p : κ → ν → Prop} {s : Store κ ν} (h : Every p s) {k : κ} {v : ν}
    (good : p k v) (now ttl : Int) : Every p (put s now k v ttl) := by
  intro k' e found
  rcases putCases found with ⟨rfl, rfl⟩ | ⟨-, held⟩
  · exact good
  · exact h k' e held

theorem everyDrop {p : κ → ν → Prop} {s : Store κ ν} (h : Every p s) (k : κ) :
    Every p (drop s k) := by
  intro k' e found
  by_cases same : k' = k
  · subst k'
    rw [drop, Function.update_self] at found
    cases found
  · rw [drop, Function.update_of_ne same] at found
    exact h k' e found

omit [DecidableEq κ] in
theorem everyRead {p : κ → ν → Prop} {s : Store κ ν} (h : Every p s) {now : Int} {k : κ} {v : ν}
    (found : read s now k = some v) : p k v := by
  unfold read at found
  split at found
  · cases found
  · rename_i e held
    split at found <;> try contradiction
    cases Option.some.inj found
    exact h k e held

inductive Write (κ ν : Type) where
  | stored (k : κ) (v : ν) (expires : Int)
  | evicted (k : κ)
  deriving DecidableEq, Repr

def Write.key : Write κ ν → κ
  | .stored k _ _ | .evicted k => k

def Write.entry : Write κ ν → Option (Entry ν)
  | .stored _ v expires => some ⟨v, expires⟩
  | .evicted _ => none

def last (writes : List (Write κ ν)) : Store κ ν := fun k =>
  (writes.find? (fun w => w.key = k)).bind Write.entry

theorem lastSame (w : Write κ ν) (older : List (Write κ ν)) : last (w :: older) w.key = w.entry := by
  simp [last]

theorem lastOther {w : Write κ ν} (older : List (Write κ ν)) {k : κ} (other : w.key ≠ k) :
    last (w :: older) k = last older k := by
  simp [last, other]

end RetryEndpoint.ExpiringStore
