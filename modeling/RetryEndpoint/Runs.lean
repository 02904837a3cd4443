import Mathlib.Algebra.Ring.Nat
import Mathlib.Data.List.Basic

/-! Runs of a partial step function, and histories kept newest first. A step
that is not enabled ends the run; a run that exists took every step it lists.
The rules below are the only inductions over runs: an invariant is two goals. -/
namespace RetryEndpoint.Runs

variable {σ α ε : Type*}

def run (step : σ → α → Option σ) : σ → List α → Option σ
  | s, [] => some s
  | s, a :: rest => do
      let s ← step s a
      run step s rest

def Along (step : σ → α → Option σ) (ok : σ → α → Prop) : σ → List α → Prop
  | _, [] => True
  | s, a :: rest => ok s a ∧ ∀ s', step s a = some s' → Along step ok s' rest

def Met (step : σ → α → Option σ) (p : σ → Prop) : σ → List α → Prop
  | s, [] => p s
  | s, a :: rest => p s ∨ ∃ s', step s a = some s' ∧ Met step p s' rest

theorem runCons {step : σ → α → Option σ} {s t : σ} {a : α} {rest : List α}
    (ran : run step s (a :: rest) = some t) : ∃ s', step s a = some s' ∧ run step s' rest = some t := by
  simpa only [run, bind, Option.bind_eq_some_iff] using ran

theorem runFirst {step : σ → α → Option σ} {s s' t : σ} {a : α} {rest : List α}
    (stepped : step s a = some s') (tail : run step s' rest = some t) : run step s (a :: rest) = some t := by
  simp only [run, stepped, bind, Option.bind_some, tail]

theorem runAppend {step : σ → α → Option σ} {s t u : σ} {acts acts' : List α}
    (first : run step s acts = some t) (second : run step t acts' = some u) :
    run step s (acts ++ acts') = some u := by
  induction acts generalizing s with
  | nil => cases Option.some.inj first; exact second
  | cons a rest ih =>
    obtain ⟨s', stepped, tail⟩ := runCons first
    simp only [List.cons_append, run, stepped, bind, Option.bind_some, ih tail]

theorem invariant {step : σ → α → Option σ} {inv : σ → Prop}
    (keeps : ∀ s a s', inv s → step s a = some s' → inv s') {s t : σ} {acts : List α}
    (start : inv s) (ran : run step s acts = some t) : inv t := by
  induction acts generalizing s with
  | nil => cases Option.some.inj ran; exact start
  | cons a rest ih =>
    obtain ⟨s', stepped, tail⟩ := runCons ran
    exact ih (keeps s a s' start stepped) tail

theorem invariantAlong {step : σ → α → Option σ} {ok : σ → α → Prop} {inv : σ → Prop}
    (keeps : ∀ s a s', inv s → ok s a → step s a = some s' → inv s') {s t : σ} {acts : List α}
    (start : inv s) (along : Along step ok s acts) (ran : run step s acts = some t) : inv t := by
  induction acts generalizing s with
  | nil => cases Option.some.inj ran; exact start
  | cons a rest ih =>
    obtain ⟨s', stepped, tail⟩ := runCons ran
    exact ih (keeps s a s' start along.1 stepped) (along.2 s' stepped) tail

theorem cameAbout {step : σ → α → Option σ} {p holds : σ → Prop}
    (comes : ∀ s a s', step s a = some s' → holds s' → holds s ∨ p s) {s t : σ} {acts : List α}
    (ran : run step s acts = some t) (last : holds t) : holds s ∨ Met step p s acts := by
  induction acts generalizing s with
  | nil => cases Option.some.inj ran; exact .inl last
  | cons a rest ih =>
    obtain ⟨s', stepped, tail⟩ := runCons ran
    rcases ih tail with there | later
    · exact (comes s a s' stepped there).imp_right .inl
    · exact .inr (.inr ⟨s', stepped, later⟩)

theorem alongAll {step : σ → α → Option σ} {ok : α → Prop} {acts : List α} (all : ∀ a ∈ acts, ok a)
    (s : σ) : Along step (fun _ => ok) s acts := by
  induction acts generalizing s with
  | nil => trivial
  | cons a rest ih =>
    exact ⟨all a List.mem_cons_self, fun s' _ => ih (fun b mem => all b (List.mem_cons_of_mem _ mem)) s'⟩

def check (step : σ → α → Option σ) (ok : σ → α → Bool) : σ → List α → Bool
  | _, [] => true
  | s, a :: rest => ok s a && (step s a).all (fun s' => check step ok s' rest)

theorem alongCheck {step : σ → α → Option σ} {ok : σ → α → Bool} {s : σ} {acts : List α}
    (passes : check step ok s acts = true) : Along step (fun s a => ok s a = true) s acts := by
  induction acts generalizing s with
  | nil => trivial
  | cons a rest ih =>
    obtain ⟨here, later⟩ := Bool.and_eq_true_iff.mp passes
    refine ⟨here, ?_⟩
    intro s' stepped
    rw [stepped] at later
    exact ih later

theorem refines {τ β : Type*} {step : σ → α → Option σ} {step' : τ → β → Option τ} {inv : σ → Prop}
    {view : σ → τ} (keeps : ∀ s a s', inv s → step s a = some s' → inv s')
    (maps : ∀ s a s', inv s → step s a = some s' →
      view s' = view s ∨ ∃ b, step' (view s) b = some (view s')) {s t : σ} {acts : List α}
    (start : inv s) (ran : run step s acts = some t) :
    ∃ acts', run step' (view s) acts' = some (view t) := by
  induction acts generalizing s with
  | nil => cases Option.some.inj ran; exact ⟨[], rfl⟩
  | cons a rest ih =>
    obtain ⟨s', stepped, tail⟩ := runCons ran
    obtain ⟨acts', ran'⟩ := ih (keeps s a s' start stepped) tail
    rcases maps s a s' start stepped with same | ⟨b, stepped'⟩
    · exact ⟨acts', same ▸ ran'⟩
    · refine ⟨b :: acts', ?_⟩
      simp only [run, stepped', bind, Option.bind_some, ran']

theorem refinesMany {τ β : Type*} {step : σ → α → Option σ} {step' : τ → β → Option τ} {inv : σ → Prop}
    {view : σ → τ} (keeps : ∀ s a s', inv s → step s a = some s' → inv s')
    (maps : ∀ s a s', inv s → step s a = some s' → ∃ acts', run step' (view s) acts' = some (view s'))
    {s t : σ} {acts : List α} (start : inv s) (ran : run step s acts = some t) :
    ∃ acts', run step' (view s) acts' = some (view t) := by
  induction acts generalizing s with
  | nil => cases Option.some.inj ran; exact ⟨[], rfl⟩
  | cons a rest ih =>
    obtain ⟨s', stepped, tail⟩ := runCons ran
    obtain ⟨first, moved⟩ := maps s a s' start stepped
    obtain ⟨later, ran'⟩ := ih (keeps s a s' start stepped) tail
    exact ⟨first ++ later, runAppend moved ran'⟩

/- A measure that some steps use up, and that others add a known amount to, bounds how
many of the first a run takes, whatever comes in between. -/
theorem spent {step : σ → α → Option σ} {inv : σ → Prop} {own : α → Bool} {gain : α → Nat}
    {measure : σ → Nat} (keeps : ∀ s a s', inv s → step s a = some s' → inv s')
    (uses : ∀ s a s', inv s → step s a = some s' →
      measure s' + (if own a then 1 else 0) ≤ measure s + gain a) {s t : σ} {acts : List α} (start : inv s)
    (ran : run step s acts = some t) : acts.countP own + measure t ≤ measure s + (acts.map gain).sum := by
  induction acts generalizing s with
  | nil => cases Option.some.inj ran; simp
  | cons a rest ih =>
    obtain ⟨s', stepped, tail⟩ := runCons ran
    have later := ih (keeps s a s' start stepped) tail
    have here := uses s a s' start stepped
    rw [List.countP_cons, List.map_cons, List.sum_cons]
    omega

theorem used {step : σ → α → Option σ} {own : α → Bool} {measure : σ → Nat}
    (uses : ∀ s a s', step s a = some s' → measure s' + (if own a then 1 else 0) ≤ measure s) {s t : σ}
    {acts : List α} (ran : run step s acts = some t) : acts.countP own + measure t ≤ measure s := by
  have bound : acts.countP own + measure t ≤ measure s + (acts.map (fun _ => 0)).sum :=
    spent (fun _ _ _ _ _ => trivial) (fun s a s' _ stepped => uses s a s' stepped) trivial ran
  simpa using bound

theorem movedSum {τ : Type*} {places : List τ} {i : Nat} {v w : τ} (here : places[i]? = some v)
    (f : τ → Nat) : ((places.set i w).map f).sum + f v = (places.map f).sum + f w := by
  induction places generalizing i with
  | nil => cases here
  | cons first rest ih =>
    cases i with
    | zero =>
      cases Option.some.inj here
      simp only [List.set_cons_zero, List.map_cons, List.sum_cons]
      omega
    | succ i =>
      have tail := ih (i := i) here
      simp only [List.set_cons_succ, List.map_cons, List.sum_cons]
      omega

theorem movedCases {ι τ : Type*} [DecidableEq ι] {place : ι → Option τ} {i j : ι} {v w : τ}
    (here : Function.update place i (some v) j = some w) :
    (j = i ∧ v = w) ∨ (j ≠ i ∧ place j = some w) := by
  by_cases same : j = i
  · subst j
    rw [Function.update_self] at here
    exact .inl ⟨rfl, Option.some.inj here⟩
  · rw [Function.update_of_ne same] at here
    exact .inr ⟨same, here⟩

/- Each event, with the events before it, satisfies p. The newest is the head. -/
def Each (p : ε → List ε → Prop) : List ε → Prop
  | [] => True
  | e :: older => p e older ∧ Each p older

theorem eachAt {p : ε → List ε → Prop} {newer older : List ε} {e : ε}
    (h : Each p (newer ++ e :: older)) : p e older := by
  induction newer with
  | nil => exact h.1
  | cons x newer ih => exact ih h.2

theorem pairwiseEither {R : ε → ε → Prop} {xs : List ε} (h : xs.Pairwise R) {a b : ε}
    (ha : a ∈ xs) (hb : b ∈ xs) (ne : a ≠ b) : R a b ∨ R b a := by
  induction xs with
  | nil => cases ha
  | cons x xs ih =>
    obtain ⟨head, tail⟩ := List.pairwise_cons.mp h
    rcases List.mem_cons.mp ha with rfl | left
    · rcases List.mem_cons.mp hb with rfl | right
      · exact absurd rfl ne
      · exact .inl (head b right)
    · rcases List.mem_cons.mp hb with rfl | right
      · exact .inr (head a left)
      · exact ih tail left right

end RetryEndpoint.Runs
