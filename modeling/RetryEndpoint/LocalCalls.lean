import Mathlib.Data.List.Basic

/-! Calls on one shared store, each of which reads and writes the place of its own key
and no other. A group of calls whose keys no other call uses is answered as if it had
the store to itself: dropping all other calls changes none of its answers and leaves
its places as they end up. -/
namespace RetryEndpoint.LocalCalls

variable {κ τ ρ α : Type}

structure LocalAt (k : κ) (f : (κ → τ) → ρ × (κ → τ)) : Prop where
  answer : ∀ s s', s k = s' k → (f s).1 = (f s').1
  effect : ∀ s s', s k = s' k → (f s).2 k = (f s').2 k
  others : ∀ s k', k' ≠ k → (f s).2 k' = s k'

variable (call : α → (κ → τ) → ρ × (κ → τ))

def answers : (κ → τ) → List α → List (α × ρ)
  | _, [] => []
  | s, a :: rest => (a, (call a s).1) :: answers (call a s).2 rest

def final : (κ → τ) → List α → κ → τ
  | s, [] => s
  | s, a :: rest => final (call a s).2 rest

variable {call}

section Alone
variable {key : α → κ} {mine : α → Bool} (isLocal : ∀ a, LocalAt (key a) (call a))
  (apart : ∀ a b, mine a = true → mine b = false → key b ≠ key a)
include isLocal

theorem mineAgrees {s s' : κ → τ} (agree : ∀ a, mine a = true → s (key a) = s' (key a)) {b : α}
    (inside : mine b = true) (a : α) (also : mine a = true) :
    (call b s).2 (key a) = (call b s').2 (key a) := by
  by_cases same : key a = key b
  · rw [same]
    exact (isLocal b).effect s s' (agree b inside)
  · rw [(isLocal b).others s _ same, (isLocal b).others s' _ same]
    exact agree a also

include apart

theorem otherAgrees {s s' : κ → τ} (agree : ∀ a, mine a = true → s (key a) = s' (key a)) {b : α}
    (outside : mine b = false) (a : α) (inside : mine a = true) : (call b s).2 (key a) = s' (key a) := by
  rw [(isLocal b).others s (key a) (apart a b inside outside).symm]
  exact agree a inside

theorem answersAlone {s s' : κ → τ} (agree : ∀ a, mine a = true → s (key a) = s' (key a)) (calls : List α) :
    (answers call s calls).filter (fun p => mine p.1) = answers call s' (calls.filter mine) := by
  induction calls generalizing s s' with
  | nil => rfl
  | cons b rest ih =>
    cases here : mine b with
    | true =>
      have tail := ih (mineAgrees isLocal agree here)
      simp only [answers, List.filter_cons, here, if_true, tail, (isLocal b).answer s s' (agree b here)]
    | false =>
      have tail := ih (otherAgrees isLocal apart agree here)
      simp only [answers, List.filter_cons, here, Bool.false_eq_true, if_false, tail]

theorem finalAlone {s s' : κ → τ} (agree : ∀ a, mine a = true → s (key a) = s' (key a)) (calls : List α)
    (a : α) (inside : mine a = true) :
    final call s calls (key a) = final call s' (calls.filter mine) (key a) := by
  induction calls generalizing s s' with
  | nil => exact agree a inside
  | cons b rest ih =>
    cases here : mine b with
    | true =>
      rw [List.filter_cons_of_pos here]
      exact ih (mineAgrees isLocal agree here)
    | false =>
      rw [List.filter_cons_of_neg (by rw [here]; decide)]
      exact ih (otherAgrees isLocal apart agree here)

end Alone

end RetryEndpoint.LocalCalls
