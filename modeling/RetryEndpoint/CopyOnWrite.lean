import RetryEndpoint.KeyedMap
import RetryEndpoint.Runs

/-! A map of values that are made on first use. Readers load the published map and
look; who finds nothing takes a lock, looks again, and publishes a copy with the
value added. Nobody writes a published map, so it is a value here, and any step of
one call may come between two of another. -/
namespace RetryEndpoint.CopyOnWrite
open KeyedMap Runs

variable {κ ν : Type} [DecidableEq κ]

structure Cell (κ ν : Type) where
  published : Option (Map κ ν)
  holder : Option Nat
  made : List κ

inductive Phase (κ ν : Type) where
  | load
  | lock
  | reload
  | publish (copy : Map κ ν)
  | unlock (value : ν)
  | done (value : ν)

structure State (κ ν : Type) where
  cell : Cell κ ν
  calls : Nat → Option (κ × Phase κ ν)

inductive Action (κ : Type) where
  | call (id : Nat) (k : κ)
  | move (id : Nat)

def Cell.find (c : Cell κ ν) (k : κ) : Option ν := c.published.bind (·.lookup k)

def Cell.grown (c : Cell κ ν) (k : κ) (v : ν) : Map κ ν := ((c.published.map rebuild).getD ∅).insert k v

def advance (make : κ → ν) (c : Cell κ ν) (id : Nat) (k : κ) : Phase κ ν → Option (Cell κ ν × Phase κ ν)
  | .load => match c.find k with
    | some v => some (c, .done v)
    | none => some (c, .lock)
  | .lock => if c.holder = none then some ({ c with holder := some id }, .reload) else none
  | .reload => match c.find k with
    | some v => some (c, .unlock v)
    | none => some ({ c with made := k :: c.made }, .publish (c.grown k (make k)))
  | .publish copy => some ({ c with published := some copy }, .unlock (make k))
  | .unlock v => some ({ c with holder := none }, .done v)
  | .done _ => none

def step (make : κ → ν) (s : State κ ν) : Action κ → Option (State κ ν)
  | .call id k => match s.calls id with
    | none => some { s with calls := Function.update s.calls id (some (k, .load)) }
    | some _ => none
  | .move id => match s.calls id with
    | some (k, phase) => do
      let (cell, phase) ← advance make s.cell id k phase
      some ⟨cell, Function.update s.calls id (some (k, phase))⟩
    | none => none

def start : State κ ν := ⟨⟨none, none, []⟩, fun _ => none⟩

inductive Advanced (make : κ → ν) (c : Cell κ ν) (id : Nat) (k : κ) :
    Phase κ ν → Cell κ ν → Phase κ ν → Prop where
  | hit {v} (found : c.find k = some v) : Advanced make c id k .load c (.done v)
  | miss (absent : c.find k = none) : Advanced make c id k .load c .lock
  | locked (free : c.holder = none) : Advanced make c id k .lock { c with holder := some id } .reload
  | hitLate {v} (found : c.find k = some v) : Advanced make c id k .reload c (.unlock v)
  | made (absent : c.find k = none) :
      Advanced make c id k .reload { c with made := k :: c.made } (.publish (c.grown k (make k)))
  | published {copy} :
      Advanced make c id k (.publish copy) { c with published := some copy } (.unlock (make k))
  | unlocked {v} : Advanced make c id k (.unlock v) { c with holder := none } (.done v)

section Inversion
variable {make : κ → ν}

theorem advanced {c c' : Cell κ ν} {id : Nat} {k : κ} {phase phase' : Phase κ ν}
    (ok : advance make c id k phase = some (c', phase')) : Advanced make c id k phase c' phase' := by
  cases phase with
  | load =>
    simp only [advance] at ok
    split at ok <;> cases Option.some.inj ok
    · exact .hit (by assumption)
    · exact .miss (by assumption)
  | lock =>
    simp only [advance] at ok
    split at ok <;> try contradiction
    cases Option.some.inj ok
    exact .locked (by assumption)
  | reload =>
    simp only [advance] at ok
    split at ok <;> cases Option.some.inj ok
    · exact .hitLate (by assumption)
    · exact .made (by assumption)
  | publish copy => cases Option.some.inj ok; exact .published
  | unlock v => cases Option.some.inj ok; exact .unlocked
  | done v => cases ok

theorem stepCases {s s' : State κ ν} {a : Action κ} (ok : step make s a = some s') :
    (∃ id k, s.calls id = none ∧ s' = { s with calls := Function.update s.calls id (some (k, .load)) }) ∨
    ∃ id k phase cell phase', s.calls id = some (k, phase) ∧ Advanced make s.cell id k phase cell phase' ∧
      s' = ⟨cell, Function.update s.calls id (some (k, phase'))⟩ := by
  cases a with
  | call id k =>
    simp only [step] at ok
    split at ok <;> try contradiction
    cases Option.some.inj ok
    exact .inl ⟨id, k, by assumption, rfl⟩
  | move id =>
    simp only [step] at ok
    split at ok <;> try contradiction
    rename_i k phase here
    obtain ⟨⟨cell, phase'⟩, moved, ok⟩ := Option.bind_eq_some_iff.mp ok
    cases Option.some.inj ok
    exact .inr ⟨id, k, phase, cell, phase', here, advanced moved, rfl⟩

end Inversion

def Phase.inside : Phase κ ν → Bool
  | .reload | .publish _ | .unlock _ => true
  | _ => false

def Knows (make : κ → ν) (c : Cell κ ν) (k : κ) : Phase κ ν → Prop
  | .publish copy => c.find k = none ∧ ∀ k', copy.lookup k' = if k' = k then some (make k) else c.find k'
  | .unlock v | .done v => v = make k ∧ c.find k = some (make k)
  | _ => True

structure Sound (make : κ → ν) (s : State κ ν) : Prop where
  own : ∀ k v, s.cell.find k = some v → v = make k
  locked : ∀ id k phase, s.calls id = some (k, phase) → phase.inside = true → s.cell.holder = some id
  knows : ∀ id k phase, s.calls id = some (k, phase) → Knows make s.cell k phase
  keys : ∀ k, k ∈ s.cell.made ↔
    (s.cell.find k).isSome = true ∨ ∃ id copy, s.calls id = some (k, .publish copy)
  once : s.cell.made.Nodup
  asked : ∀ k ∈ s.cell.made, ∃ id phase, s.calls id = some (k, phase)

section Keeps
variable {make : κ → ν} {s s' : State κ ν}

theorem startSound : Sound make (start : State κ ν) where
  own := nofun
  locked := nofun
  knows := nofun
  keys := fun k => by simp [start, Cell.find]
  once := List.nodup_nil
  asked := nofun

omit [DecidableEq κ] in
theorem askedUpdate {made : List κ} {calls : Nat → Option (κ × Phase κ ν)} {id : Nat} {k : κ}
    {phase' : Phase κ ν} (asked : ∀ k ∈ made, ∃ id phase, calls id = some (k, phase))
    (mine : ∀ k' phase, calls id = some (k', phase) → k' = k) :
    ∀ k' ∈ made, ∃ other phase, Function.update calls id (some (k, phase')) other = some (k', phase) := by
  intro k' mem
  obtain ⟨other, phase, there⟩ := asked k' mem
  by_cases same : other = id
  · subst same
    rw [mine k' phase there]
    exact ⟨other, phase', Function.update_self ..⟩
  · exact ⟨other, phase, (Function.update_of_ne same ..).trans there⟩

theorem Sound.askedMove (h : Sound make s) {id : Nat} {k : κ} {phase : Phase κ ν}
    (here : s.calls id = some (k, phase)) (phase' : Phase κ ν) :
    ∀ k' ∈ s.cell.made, ∃ other phase, Function.update s.calls id (some (k, phase')) other = some (k', phase) := by
  refine askedUpdate h.asked ?_
  intro k' phase there
  rw [here] at there
  cases Option.some.inj there
  rfl

theorem findGrown (c : Cell κ ν) (k k' : κ) (v : ν) :
    (c.grown k v).lookup k' = if k' = k then some v else c.find k' := by
  unfold Cell.grown Cell.find
  by_cases same : k' = k
  · subst same
    rw [AList.lookup_insert, if_pos rfl]
  · rw [AList.lookup_insert_ne same, if_neg same]
    cases c.published with
    | none => rfl
    | some m => exact lookupRebuild m k'

theorem Sound.alone (h : Sound make s) {id other : Nat} {k k' : κ} {phase phase' : Phase κ ν}
    (here : s.calls id = some (k, phase)) (mine : phase.inside = true)
    (there : s.calls other = some (k', phase')) (inside : phase'.inside = true) : other = id := by
  have one := h.locked id k phase here mine
  rw [h.locked other k' phase' there inside] at one
  exact Option.some.inj one

def isPublish : Phase κ ν → Bool
  | .publish _ => true
  | _ => false

theorem Sound.move (h : Sound make s) {id : Nat} {k : κ} {phase phase' : Phase κ ν} {cell : Cell κ ν}
    (here : s.calls id = some (k, phase)) (published : cell.published = s.cell.published)
    (made : cell.made = s.cell.made) (before : isPublish phase = false) (after : isPublish phase' = false)
    (others : ∀ other, other ≠ id → s.cell.holder = some other → cell.holder = some other)
    (mine : phase'.inside = true → cell.holder = some id) (knows : Knows make s.cell k phase') :
    Sound make ⟨cell, Function.update s.calls id (some (k, phase'))⟩ := by
  have find : cell.find = s.cell.find := by
    funext k
    rw [Cell.find, published, Cell.find]
  have same : ∀ k phase, Knows make cell k phase ↔ Knows make s.cell k phase := by
    intro k phase
    cases phase <;> simp only [Knows, find]
  refine ⟨?_, ?_, ?_, ?_, made ▸ h.once, made ▸ h.askedMove here phase'⟩
  · intro k v found
    exact h.own k v (find ▸ found)
  · intro other k' phase'' there inside
    rcases movedCases there with ⟨rfl, same⟩ | ⟨apart, old⟩
    · cases same
      exact mine inside
    · exact others other apart (h.locked other k' phase'' old inside)
  · intro other k' phase'' there
    rcases movedCases there with ⟨-, moved⟩ | ⟨-, old⟩
    · cases moved
      exact (same k phase').mpr knows
    · exact (same k' phase'').mpr (h.knows other k' phase'' old)
  · intro k'
    simp only [made, find, h.keys k']
    refine or_congr Iff.rfl ⟨?_, ?_⟩
    · rintro ⟨other, copy, there⟩
      have apart : other ≠ id := by
        rintro rfl
        rw [here] at there
        cases Option.some.inj there
        cases before
      exact ⟨other, copy, by rw [Function.update_of_ne apart, there]⟩
    · rintro ⟨other, copy, there⟩
      rcases movedCases there with ⟨-, same⟩ | ⟨-, old⟩
      · cases same
        cases after
      · exact ⟨other, copy, old⟩

theorem Sound.makes (h : Sound make s) {id : Nat} {k : κ} (here : s.calls id = some (k, .reload))
    (absent : s.cell.find k = none) :
    Sound make ⟨{ s.cell with made := k :: s.cell.made },
      Function.update s.calls id (some (k, .publish (s.cell.grown k (make k))))⟩ := by
  have noOther : ∀ other k' copy, s.calls other = some (k', .publish copy) → False := by
    intro other k' copy there
    rw [h.alone here rfl there rfl, here] at there
    cases there
  refine ⟨h.own, ?_, ?_, ?_, ?_, ?_⟩
  · intro other k' phase there inside
    rcases movedCases there with ⟨rfl, -⟩ | ⟨-, old⟩
    · exact h.locked other k .reload here rfl
    · exact h.locked other k' phase old inside
  · intro other k' phase there
    rcases movedCases there with ⟨-, same⟩ | ⟨-, old⟩
    · cases same
      exact ⟨absent, fun k' => findGrown s.cell k k' (make k)⟩
    · exact h.knows other k' phase old
  · intro k'
    simp only [List.mem_cons, h.keys k']
    constructor
    · rintro (rfl | found | ⟨other, copy, there⟩)
      · exact .inr ⟨id, _, Function.update_self ..⟩
      · exact .inl found
      · exact (noOther other k' copy there).elim
    · rintro (found | ⟨other, copy, there⟩)
      · exact .inr (.inl found)
      · rcases movedCases there with ⟨-, same⟩ | ⟨-, old⟩
        · cases same
          exact .inl rfl
        · exact (noOther other k' copy old).elim
  · refine List.nodup_cons.mpr ⟨?_, h.once⟩
    intro already
    rcases (h.keys k).mp already with found | ⟨other, copy, there⟩
    · rw [absent] at found
      cases found
    · exact noOther other k copy there
  · intro k' mem
    rcases List.mem_cons.mp mem with rfl | old
    · exact ⟨id, _, Function.update_self ..⟩
    · exact h.askedMove here _ k' old

theorem findPublished (c : Cell κ ν) (copy : Map κ ν) (k : κ) :
    ({ c with published := some copy } : Cell κ ν).find k = copy.lookup k := rfl

theorem Sound.copyKeeps (h : Sound make s) {id : Nat} {k : κ} {copy : Map κ ν}
    (here : s.calls id = some (k, .publish copy)) {k' : κ} {v : ν} (found : s.cell.find k' = some v) :
    copy.lookup k' = some v := by
  obtain ⟨absent, looks⟩ := h.knows id k _ here
  rw [looks, if_neg, found]
  rintro rfl
  rw [absent] at found
  cases found

theorem Sound.publishes (h : Sound make s) {id : Nat} {k : κ} {copy : Map κ ν}
    (here : s.calls id = some (k, .publish copy)) :
    Sound make ⟨{ s.cell with published := some copy },
      Function.update s.calls id (some (k, .unlock (make k)))⟩ := by
  obtain ⟨-, looks⟩ := h.knows id k _ here
  have keeps : ∀ k' v, s.cell.find k' = some v → copy.lookup k' = some v := fun _ _ => h.copyKeeps here
  have added : copy.lookup k = some (make k) := by rw [looks, if_pos rfl]
  have noOther : ∀ other k' phase, other ≠ id → s.calls other = some (k', phase) → phase.inside = false := by
    intro other k' phase apart there
    exact Bool.eq_false_iff.mpr (fun inside => apart (h.alone here rfl there inside))
  refine ⟨?_, ?_, ?_, ?_, h.once, h.askedMove here _⟩
  · intro k' v found
    rw [findPublished, looks] at found
    split at found
    · rename_i same
      rw [same]
      exact (Option.some.inj found).symm
    · exact h.own k' v found
  · intro other k' phase there inside
    rcases movedCases there with ⟨rfl, -⟩ | ⟨-, old⟩
    · exact h.locked other k _ here rfl
    · exact h.locked other k' phase old inside
  · intro other k' phase there
    rcases movedCases there with ⟨-, same⟩ | ⟨apart, old⟩
    · cases same
      exact ⟨rfl, added⟩
    · have outside := noOther other k' phase apart old
      have knew := h.knows other k' phase old
      cases phase with
      | done v => exact ⟨knew.1, keeps k' _ knew.2⟩
      | publish | unlock | reload => cases outside
      | load | lock => trivial
  · intro k'
    simp only [h.keys k', findPublished]
    constructor
    · rintro (found | ⟨other, copy', there⟩)
      · obtain ⟨v, found⟩ := Option.isSome_iff_exists.mp found
        exact .inl (by rw [keeps k' v found]; rfl)
      · rw [h.alone here rfl there rfl, here] at there
        cases Option.some.inj there
        exact .inl (by rw [added]; rfl)
    · rintro (found | ⟨other, copy', there⟩)
      · rw [looks] at found
        split at found
        · rename_i same
          exact .inr ⟨id, copy, same ▸ here⟩
        · exact .inl found
      · rcases movedCases there with ⟨-, same⟩ | ⟨apart, old⟩
        · cases same
        · exact .inr ⟨other, copy', old⟩

theorem Sound.begins (h : Sound make s) {id : Nat} {k : κ} (fresh : s.calls id = none) :
    Sound make ⟨s.cell, Function.update s.calls id (some (k, .load))⟩ := by
  refine ⟨h.own, ?_, ?_, ?_, h.once, askedUpdate h.asked ?_⟩
  · intro other k' phase there inside
    rcases movedCases there with ⟨-, same⟩ | ⟨-, old⟩
    · cases same
      cases inside
    · exact h.locked other k' phase old inside
  · intro other k' phase there
    rcases movedCases there with ⟨-, same⟩ | ⟨-, old⟩
    · cases same
      trivial
    · exact h.knows other k' phase old
  · intro k'
    rw [h.keys k']
    refine or_congr Iff.rfl ⟨?_, ?_⟩
    · rintro ⟨other, copy, there⟩
      have apart : other ≠ id := by
        rintro rfl
        rw [fresh] at there
        cases there
      exact ⟨other, copy, (Function.update_of_ne apart ..).trans there⟩
    · rintro ⟨other, copy, there⟩
      rcases movedCases there with ⟨-, same⟩ | ⟨-, old⟩
      · cases same
      · exact ⟨other, copy, old⟩
  · intro k' phase there
    rw [fresh] at there
    cases there

theorem stepSound {a : Action κ} (h : Sound make s) (stepped : step make s a = some s') : Sound make s' := by
  rcases stepCases stepped with ⟨id, k, fresh, rfl⟩ | ⟨id, k, phase, cell, phase', here, moved, rfl⟩
  · exact h.begins fresh
  · cases moved with
    | hit found =>
      have own := h.own k _ found
      exact h.move here rfl rfl rfl rfl (fun _ _ held => held) nofun ⟨own, own ▸ found⟩
    | miss absent => exact h.move here rfl rfl rfl rfl (fun _ _ held => held) nofun trivial
    | locked free =>
      refine h.move here rfl rfl rfl rfl ?_ (fun _ => rfl) trivial
      intro other _ held
      rw [free] at held
      cases held
    | hitLate found =>
      have own := h.own k _ found
      exact h.move here rfl rfl rfl rfl (fun _ _ held => held) (fun _ => h.locked id k _ here rfl) ⟨own, own ▸ found⟩
    | made absent => exact h.makes here absent
    | published => exact h.publishes here
    | unlocked =>
      have knew := h.knows id k _ here
      refine h.move here rfl rfl rfl rfl ?_ nofun knew
      intro other apart held
      rw [h.locked id k _ here rfl] at held
      exact absurd (Option.some.inj held).symm apart

theorem stepFound {a : Action κ} (h : Sound make s) (stepped : step make s a = some s') {k : κ} {v : ν}
    (found : s.cell.find k = some v) : s'.cell.find k = some v := by
  rcases stepCases stepped with ⟨id, k', -, rfl⟩ | ⟨id, k', phase, cell, phase', here, moved, rfl⟩
  · exact found
  · cases moved with
    | published => exact h.copyKeeps here found
    | hit | miss | locked | hitLate | made | unlocked => exact found

end Keeps

end RetryEndpoint.CopyOnWrite
