import Mathlib.Algebra.Ring.Nat
import Mathlib.Data.Finset.Card
import Mathlib.Data.List.AList

/-! Filtering and rebuilding of a map with distinct keys, and its size. The map itself,
its lookup and its insertion are the library's association lists. -/
namespace RetryEndpoint.KeyedMap

abbrev Map (κ ν : Type) := AList (fun _ : κ => ν)

variable {κ ν : Type}

def size (m : Map κ ν) : Nat := m.entries.length

def keep (p : ν → Bool) (m : Map κ ν) : Map κ ν :=
  ⟨m.entries.filter (fun e => p e.2), m.nodupKeys.sublist List.filter_sublist⟩

def rebuild [DecidableEq κ] (m : Map κ ν) : Map κ ν := m.entries.toAList

theorem lookupKeep [DecidableEq κ] (p : ν → Bool) (m : Map κ ν) (k : κ) :
    (keep p m).lookup k = (m.lookup k).filter p := by
  apply Option.ext
  intro v
  have kept := AList.mem_lookup_iff (a := k) (b := v) (s := keep p m)
  have held := AList.mem_lookup_iff (a := k) (b := v) (s := m)
  rw [Option.mem_def] at kept held
  rw [kept, Option.filter_eq_some_iff, held]
  simp [keep]

theorem lookupRebuild [DecidableEq κ] (m : Map κ ν) (k : κ) :
    (rebuild m).lookup k = m.lookup k := AList.lookup_to_alist m.entries

theorem sizeKeep (p : ν → Bool) (m : Map κ ν) : size (keep p m) ≤ size m :=
  List.length_filter_le ..

section Insert
variable [DecidableEq κ] {m : Map κ ν} {k : κ}

theorem sizeInsertNew (absent : m.lookup k = none) (v : ν) : size (m.insert k v) = size m + 1 := by
  simp only [size, AList.entries_insert_of_notMem (AList.lookup_eq_none.mp absent), List.length_cons]

theorem sizeInsertOld {old : ν} (present : m.lookup k = some old) (v : ν) :
    size (m.insert k v) = size m := by
  have held : k ∈ m.keys := AList.mem_keys.mp (AList.lookup_isSome.mp (by simp [present]))
  have lengths : ∀ n : Map κ ν, size n = n.keys.length := fun n => by simp [size, AList.keys, List.keys]
  rw [lengths, lengths, AList.keys_insert, List.length_cons, List.length_erase_of_mem held]
  exact Nat.succ_pred_eq_of_pos (List.length_pos_of_mem held)

theorem sizeInsert (v : ν) : size (m.insert k v) = size m + if (m.lookup k).isNone then 1 else 0 := by
  cases found : m.lookup k with
  | none => simp [sizeInsertNew found]
  | some old => simp [sizeInsertOld found]

theorem lookupInserted {k' : κ} {v v' : ν} (found : (m.insert k v).lookup k' = some v') :
    k' = k ∧ v' = v ∨ k' ≠ k ∧ m.lookup k' = some v' := by
  by_cases same : k' = k
  · subst k'
    rw [AList.lookup_insert, Option.some.injEq] at found
    exact .inl ⟨rfl, found.symm⟩
  · rw [AList.lookup_insert_ne same] at found
    exact .inr ⟨same, found⟩

end Insert

theorem sizeKeys [DecidableEq κ] {m : Map κ ν} {keys : Finset κ} (same : ∀ k, k ∈ m ↔ k ∈ keys) :
    size m = keys.card := by
  have held : m.keys.toFinset = keys := by
    ext k
    rw [List.mem_toFinset, AList.mem_keys.symm]
    exact same k
  rw [← held, List.toFinset_card_of_nodup m.keys_nodup]
  simp [size, AList.keys, List.keys]

theorem sizeRebuild [DecidableEq κ] (m : Map κ ν) : size (rebuild m) = size m := by
  obtain ⟨entries, distinct⟩ := m
  simp only [size, rebuild, AList.entries_toAList]
  induction entries with
  | nil => rfl
  | cons e rest ih =>
    obtain ⟨new, tail⟩ := List.nodupKeys_cons.mp distinct
    have fresh : e.1 ∉ (List.dedupKeys rest).keys := by
      intro mem
      obtain ⟨v, found⟩ := Option.isSome_iff_exists.mp (List.dlookup_isSome.mpr mem)
      rw [List.dlookup_dedupKeys] at found
      exact new (List.dlookup_isSome.mp (by rw [found]; rfl))
    rw [List.dedupKeys_cons, List.kinsert_def, List.kerase_of_notMem_keys fresh, List.length_cons,
      List.length_cons, ih tail]

end RetryEndpoint.KeyedMap
