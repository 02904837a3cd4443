import RetryEndpoint.ExpiringStore
import Mathlib.Data.List.Basic

/-! Leases in a store whose entries expire, taken by conditional writes only. Beside
the store stands every lease ever taken, newest first. A key is leased again only
when its last lease has run out, so what the store answers about a key is what the
record says about it, and no two leases of one key overlap. -/
namespace RetryEndpoint.Leases
open ExpiringStore

variable {κ ν : Type} [DecidableEq κ]

structure Lease (κ : Type) where
  key : κ
  start : Int
  ttl : Int
  deriving DecidableEq, Repr

def Lease.stop (l : Lease κ) : Int := l.start + l.ttl

def Apart (newer older : Lease κ) : Prop := newer.key = older.key → older.stop ≤ newer.start

structure Ledger (s : Store κ ν) (now : Int) (leases : List (Lease κ)) : Prop where
  held : ∀ l ∈ leases, l.stop ≤ now ∨ ∃ e, s l.key = some e ∧ e.expires = l.stop
  owned : ∀ k e, s k = some e → ∃ l ∈ leases, l.key = k ∧ e.expires = l.stop
  apart : leases.Pairwise Apart
  past : ∀ l ∈ leases, l.start ≤ now

omit [DecidableEq κ] in
theorem emptyLedger (now : Int) : Ledger (empty : Store κ ν) now [] :=
  ⟨fun _ mem => (nomatch mem), fun _ _ found => (nomatch found), .nil, fun _ mem => (nomatch mem)⟩

omit [DecidableEq κ] in
theorem Ledger.later {s : Store κ ν} {now next : Int} {leases : List (Lease κ)} (h : Ledger s now leases)
    (forward : now ≤ next) : Ledger s next leases := by
  refine ⟨?_, h.owned, h.apart, fun l mem => Int.le_trans (h.past l mem) forward⟩
  intro l mem
  rcases h.held l mem with spent | present
  · exact .inl (Int.le_trans spent forward)
  · exact .inr present

omit [DecidableEq κ] in
theorem Ledger.live {s : Store κ ν} {now : Int} {leases : List (Lease κ)} (h : Ledger s now leases)
    (k : κ) : (read s now k).isSome = true ↔ ∃ l ∈ leases, l.key = k ∧ now < l.stop := by
  constructor
  · intro present
    obtain ⟨e, found, running⟩ := readSome present
    obtain ⟨l, mem, same, expires⟩ := h.owned k e found
    exact ⟨l, mem, same, expires ▸ running⟩
  · rintro ⟨l, mem, rfl, running⟩
    rcases h.held l mem with spent | ⟨e, found, expires⟩
    · omega
    · rw [← expires] at running
      simp only [ExpiringStore.read, found, if_pos running, Option.isSome_some]

theorem Ledger.take {s : Store κ ν} {now : Int} {leases : List (Lease κ)} (h : Ledger s now leases)
    {k : κ} (free : read s now k = none) (v : ν) (ttl : Int) :
    Ledger (put s now k v ttl) now (⟨k, now, ttl⟩ :: leases) := by
  have spent : ∀ l ∈ leases, l.key = k → l.stop ≤ now := by
    intro l mem same
    apply Int.not_lt.mp
    intro running
    have present := (h.live k).mpr ⟨l, mem, same, running⟩
    rw [free] at present
    cases present
  refine ⟨?_, ?_, List.pairwise_cons.mpr ⟨?_, h.apart⟩, ?_⟩
  · intro l mem
    rcases List.mem_cons.mp mem with rfl | old
    · exact .inr ⟨_, putSame .., rfl⟩
    · by_cases same : l.key = k
      · exact .inl (spent l old same)
      · rcases h.held l old with past | ⟨e, found, expires⟩
        · exact .inl past
        · exact .inr ⟨e, (putOther _ _ _ _ same).trans found, expires⟩
  · intro k' e found
    rcases putCases found with ⟨rfl, rfl⟩ | ⟨-, held⟩
    · exact ⟨_, List.mem_cons_self, rfl, rfl⟩
    · obtain ⟨l, mem, rest⟩ := h.owned k' e held
      exact ⟨l, List.mem_cons_of_mem _ mem, rest⟩
  · intro l mem same
    exact spent l mem same.symm
  · intro l mem
    rcases List.mem_cons.mp mem with rfl | old
    · exact Int.le_refl _
    · exact h.past l old

end RetryEndpoint.Leases
