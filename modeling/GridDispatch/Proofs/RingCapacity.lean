/-
The capacity of a ring, by the longest queue it has held.

A ring is never made smaller, except by giving all its slots up, and it grows only when it has
to. So its capacity is known from one number, the greatest length that the queue has come to
since it last had no slots: it is the least capacity of the form `10 * 2 ^ k` in which that many
items leave a slot empty (`roomy`). `Suits` states this for a capacity and a peak, `Peaks` for a
ring.

The test that decides on growing compares positions, which may have gone round the end of the
slots. `RingWindow` has shown what it comes to, namely that there is one empty slot left
(`Stores.next_eq_start`), and nothing below looks at a position again. What remains is arithmetic
of two steps. A push into the last empty slot makes a new peak, and the peak is then one less
than the old capacity, so the next capacity of the form is the doubled one; any other push stays
below the capacity, and the capacity stays the least one.
-/
import GridDispatch.Proofs.RingWindow
import Mathlib.Algebra.Group.Nat.Defs
import Mathlib.Data.Nat.Find
import Mathlib.Order.Bounds.Basic

set_option autoImplicit false

namespace GridDispatch

namespace Ring

variable {α : Type}

/-! ## Capacities with room -/

/-- The capacities a ring may have that keep a slot empty beside so many items. -/
def roomy (items : Nat) : Set Nat :=
  {capacity | (∃ k, capacity = minCapacity * 2 ^ k) ∧ items < capacity}

/-- There is room for fewer items wherever there is room for more. -/
theorem roomy_anti {fewer more : Nat} (h : fewer ≤ more) : roomy more ⊆ roomy fewer :=
  fun _ hroomy => ⟨hroomy.1, Nat.lt_of_le_of_lt h hroomy.2⟩

/-- Between a capacity and its double lies no other one. -/
theorem two_mul_le_of_lt {j k : Nat} (h : minCapacity * 2 ^ k < minCapacity * 2 ^ j) :
    minCapacity * 2 ^ k * 2 ≤ minCapacity * 2 ^ j := by
  have hless : 2 ^ k < 2 ^ j := Nat.lt_of_mul_lt_mul_left h
  have hsucc : k + 1 ≤ j := (Nat.pow_lt_pow_iff_right (by decide)).mp hless
  calc minCapacity * 2 ^ k * 2 = minCapacity * 2 ^ (k + 1) := by rw [Nat.mul_assoc, ← Nat.pow_succ]
    _ ≤ minCapacity * 2 ^ j := Nat.mul_le_mul_left _ (Nat.pow_le_pow_right (by decide) hsucc)

theorem minCapacity_le (k : Nat) : minCapacity ≤ minCapacity * 2 ^ k :=
  Nat.le_mul_of_pos_right _ (Nat.two_pow_pos k)

/-- For every number of items there is a least one. -/
theorem exists_isLeast_roomy (items : Nat) : ∃ capacity, IsLeast (roomy items) capacity := by
  classical
  have hsome : ∃ capacity, capacity ∈ roomy items := by
    refine ⟨minCapacity * 2 ^ items, ⟨items, rfl⟩, ?_⟩
    have hpow : items < 2 ^ items := Nat.lt_two_pow_self
    have hmul : 2 ^ items ≤ minCapacity * 2 ^ items := Nat.le_mul_of_pos_left _ (by decide)
    omega
  exact ⟨Nat.find hsome, Nat.find_spec hsome, fun _ h => Nat.find_min' hsome h⟩

/-- The capacity of a ring whose queue has had so many items at most. -/
def Suits (capacity peak : Nat) : Prop :=
  if peak = 0 then capacity = 0 else IsLeast (roomy peak) capacity

namespace Suits

variable {capacity peak : Nat}

theorem zero : Suits 0 0 := by
  rw [Suits, if_pos rfl]

theorem isLeast (h : Suits capacity peak) (hpeak : peak ≠ 0) : IsLeast (roomy peak) capacity := by
  rwa [Suits, if_neg hpeak] at h

theorem of_isLeast (hpeak : peak ≠ 0) (h : IsLeast (roomy peak) capacity) :
    Suits capacity peak := by
  rwa [Suits, if_neg hpeak]

theorem eq_zero_iff (h : Suits capacity peak) : capacity = 0 ↔ peak = 0 := by
  unfold Suits at h
  by_cases hpeak : peak = 0
  · rw [if_pos hpeak] at h
    exact iff_of_true h hpeak
  · rw [if_neg hpeak] at h
    have hroom : peak < capacity := h.1.2
    omega

/-- Higher peaks take higher capacities. -/
theorem mono {capacity' peak' : Nat} (h : Suits capacity peak) (h' : Suits capacity' peak')
    (hle : peak ≤ peak') : capacity ≤ capacity' := by
  by_cases hpeak : peak = 0
  · rw [h.eq_zero_iff.mpr hpeak]
    exact Nat.zero_le _
  · have hroomy : capacity' ∈ roomy peak' := (h'.isLeast (by omega)).1
    exact (h.isLeast hpeak).2 (roomy_anti hle hroomy)

/-- A peak decides on the capacity. -/
theorem unique {capacity' : Nat} (h : Suits capacity peak) (h' : Suits capacity' peak) :
    capacity = capacity' :=
  Nat.le_antisymm (h.mono h' (Nat.le_refl _)) (h'.mono h (Nat.le_refl _))

/-- The higher of two peaks takes the higher of two capacities. -/
theorem max_eq {capacity' peak' highest : Nat} (h : Suits capacity peak)
    (h' : Suits capacity' peak') (hmax : Suits highest (max peak peak')) :
    highest = max capacity capacity' := by
  rcases Nat.le_total peak peak' with hle | hle
  · rw [Nat.max_eq_right hle] at hmax
    rw [Nat.max_eq_right (h.mono h' hle)]
    exact hmax.unique h'
  · rw [Nat.max_eq_left hle] at hmax
    rw [Nat.max_eq_left (h'.mono h hle)]
    exact hmax.unique h

/-- A push makes at most one more than the peak, and takes the capacity there. -/
theorem push (h : Suits capacity peak) {length : Nat} (hle : length ≤ peak) :
    Suits (pushedCapacity capacity length) (max peak (length + 1)) := by
  have hpos : max peak (length + 1) ≠ 0 := by omega
  apply of_isLeast hpos
  unfold pushedCapacity
  by_cases hpeak : peak = 0
  -- the first slots of all
  · obtain rfl : capacity = 0 := h.eq_zero_iff.mpr hpeak
    obtain rfl : length = 0 := by omega
    rw [if_neg (Nat.not_lt_zero _), hpeak]
    refine ⟨⟨⟨0, rfl⟩, by decide⟩, ?_⟩
    rintro _ ⟨⟨k, rfl⟩, -⟩
    exact minCapacity_le k
  obtain ⟨⟨⟨k, rfl⟩, hroom⟩, hleast⟩ := h.isLeast hpeak
  by_cases hfits : length + 1 < minCapacity * 2 ^ k
  · rw [if_pos hfits]
    refine ⟨⟨⟨k, rfl⟩, Nat.max_lt.mpr ⟨hroom, hfits⟩⟩, ?_⟩
    exact fun _ hother => hleast (roomy_anti (Nat.le_max_left _ _) hother)
  -- the length is the peak, and one less than the capacity
  · have htop : max peak (length + 1) = minCapacity * 2 ^ k := by omega
    have hfirst := minCapacity_le k
    rw [if_neg hfits, htop, grownCapacity, Nat.max_eq_left (by omega)]
    refine ⟨⟨⟨k + 1, by rw [Nat.pow_succ, Nat.mul_assoc]⟩, by omega⟩, ?_⟩
    rintro _ ⟨⟨j, rfl⟩, hless⟩
    exact two_mul_le_of_lt hless

end Suits

/-! ## Rings and their peaks -/

/-- The ring stores these items, and has never had more than so many since it had no slots. -/
structure Peaks (q : Ring α) (items : List α) (peak : Nat) : Prop where
  stores : q.Stores items
  length_le : items.length ≤ peak
  suits : Suits q.capacity peak

namespace Peaks

variable {q : Ring α} {items : List α} {peak : Nat}

theorem empty : (empty : Ring α).Peaks [] 0 :=
  ⟨stores_empty, Nat.le_refl 0, .zero⟩

theorem length_eq (h : q.Peaks items peak) : q.length = items.length :=
  h.stores.length_eq

/-- A push that is answered makes the peak at most one higher. -/
theorem push_eq (h : q.Peaks items peak) (hcap : q.capacity < word) {item : α} {after : Ring α}
    {growth : Option Growth} (hpush : q.push item = .ok (after, growth)) :
    growth = growthOf q.capacity items.length
      ∧ after.Peaks (items ++ [item]) (max peak (items.length + 1)) ∧ after.capacity < word := by
  rcases h.stores.push_cases item hcap with ⟨ring, hring, hstores, hsize, hless⟩ | ⟨fault, hfault⟩
  · cases hpush.symm.trans hring
    refine ⟨rfl, ⟨hstores, ?_, ?_⟩, hless⟩
    · rw [List.length_append]
      exact Nat.le_max_right _ _
    · rw [hsize]
      exact h.suits.push h.length_le
  · cases hpush.symm.trans hfault

/-- With fewer slots than half a word it is answered. -/
theorem push (h : q.Peaks items peak) (hcap : q.capacity < halfWord) (item : α) :
    ∃ after, q.push item = .ok (after, growthOf q.capacity items.length)
      ∧ after.Peaks (items ++ [item]) (max peak (items.length + 1))
      ∧ after.capacity = pushedCapacity q.capacity items.length := by
  have hword : word = 2 * halfWord := by decide
  rcases h.stores.push_cases item (by omega) with ⟨after, hpush, -, hsize, -⟩ | ⟨fault, hfault⟩
  · exact ⟨after, hpush, (h.push_eq (by omega) hpush).2.1, hsize⟩
  -- the items fit the slots, so it is appended
  · obtain ⟨after, hok, -⟩ := h.stores.apply_eq (.push item) hcap
    rw [apply, hfault] at hok
    cases hok

/-- A pop leaves the capacity alone. -/
theorem pop (h : q.Peaks items peak) (hcap : q.capacity < word) :
    ∃ after, q.pop = .ok (items.head?, after) ∧ after.Peaks items.tail peak
      ∧ after.capacity = q.capacity := by
  cases items with
  | nil => exact ⟨q, h.stores.pop_nil, h, rfl⟩
  | cons first rest =>
      obtain ⟨after, hpop, hstores, hsize⟩ := h.stores.pop_cons hcap
      exact ⟨after, hpop, ⟨hstores, Nat.le_of_succ_le h.length_le, hsize ▸ h.suits⟩, hsize⟩

/-- A ring without room for one more has no slots, or one empty slot. -/
theorem full_iff (h : q.Peaks items peak) :
    q.capacity ≤ items.length + 1 ↔ q.capacity = 0 ∨ q.length = q.capacity - 1 := by
  have hroom : q.capacity = 0 ∨ items.length < q.capacity := by
    rcases h.stores with ⟨rfl, rfl⟩ | hholds
    · exact .inl rfl
    · exact .inr hholds.room
  rw [h.length_eq]
  omega

/-- What the next push does about the capacity. -/
theorem push_growth (h : q.Peaks items peak) (hcap : q.capacity < halfWord) (item : α) :
    ∃ after growth, q.push item = .ok (after, growth)
      ∧ if q.capacity = 0 ∨ q.length = q.capacity - 1
        then growth = some ⟨q.capacity, after.capacity⟩ ∧ q.capacity < after.capacity
        else growth = none ∧ after.capacity = q.capacity := by
  obtain ⟨after, hpush, -, hsize⟩ := h.push hcap item
  refine ⟨after, _, hpush, ?_⟩
  unfold pushedCapacity at hsize
  unfold growthOf
  -- the capacity and the record of it depend on one comparison
  by_cases hfull : q.capacity ≤ items.length + 1
  · rw [if_neg (Nat.not_lt.mpr hfull)] at hsize
    rw [if_pos (h.full_iff.mp hfull), if_neg (Nat.not_lt.mpr hfull), hsize]
    have hpos := grownCapacity_pos q.capacity
    have hdouble := two_mul_le_grownCapacity q.capacity
    exact ⟨rfl, by omega⟩
  · rw [if_pos (Nat.not_le.mp hfull)] at hsize
    rw [if_neg (mt h.full_iff.mpr hfull), if_pos (Nat.not_le.mp hfull)]
    exact ⟨rfl, hsize⟩

end Peaks

/-! ## Runs -/

/-- Actions that are made in two parts. -/
theorem applyAll_append (first later : List (Action α)) : ∀ q : Ring α,
    q.applyAll (first ++ later) = match q.applyAll first with
      | .error fault => .error fault
      | .ok (answers, mid) => match mid.applyAll later with
        | .error fault => .error fault
        | .ok (more, last) => .ok (answers ++ more, last) := by
  induction first with
  | nil =>
      intro q
      simp only [List.nil_append, applyAll]
      split <;> simp_all
  | cons action rest ih =>
      intro q
      simp only [List.cons_append, applyAll]
      cases q.apply action with
      | error fault => rfl
      | ok stepped =>
          simp only [ih]
          cases stepped.2.applyAll rest with
          | error fault => rfl
          | ok ran =>
              simp only
              cases ran.2.applyAll later <;> rfl

/-- The lengths that a ring comes through while actions are made on it one after another. -/
def lengthsFrom (q : Ring α) (actions : List (Action α)) : Set Nat :=
  {n | ∃ done answers after, done <+: actions ∧ q.applyAll done = .ok (answers, after)
    ∧ after.length = n}

theorem length_mem_lengthsFrom (q : Ring α) (actions : List (Action α)) :
    q.length ∈ q.lengthsFrom actions :=
  ⟨[], [], q, List.nil_prefix, rfl, rfl⟩

theorem lengthsFrom_cons {q next : Ring α} {action : Action α} {answer : Option α}
    (h : q.apply action = .ok (answer, next)) (rest : List (Action α)) :
    q.lengthsFrom (action :: rest) = insert q.length (next.lengthsFrom rest) := by
  apply Set.ext
  intro n
  rw [Set.mem_insert_iff]
  constructor
  · rintro ⟨done, answers, after, hdone, hrun, rfl⟩
    cases done with
    | nil =>
        cases hrun
        exact .inl rfl
    | cons first done =>
        obtain ⟨rfl, hbegin⟩ := List.cons_prefix_cons.mp hdone
        rw [applyAll, h] at hrun
        dsimp only at hrun
        cases hrest : next.applyAll done with
        | error fault =>
            rw [hrest] at hrun
            cases hrun
        | ok ran =>
            rw [hrest] at hrun
            cases hrun
            exact .inr ⟨done, ran.1, ran.2, hbegin, hrest, rfl⟩
  · rintro (rfl | ⟨done, answers, after, hdone, hrun, rfl⟩)
    · exact length_mem_lengthsFrom _ _
    · refine ⟨action :: done, answer :: answers, after, List.cons_prefix_cons.mpr ⟨rfl, hdone⟩, ?_,
        rfl⟩
      rw [applyAll, h]
      dsimp only
      rw [hrun]

/-- One action that is no release. -/
theorem Peaks.apply {q : Ring α} {items : List α} {peak : Nat} (h : q.Peaks items peak)
    (hcap : q.capacity < halfWord) {action : Action α} (haction : action ≠ .free) :
    ∃ answer next items' peak', q.apply action = .ok (answer, next) ∧ next.Peaks items' peak'
      ∧ peak' = max peak next.length ∧ (peak' = 0 ↔ peak = 0 ∧ ∀ item, action ≠ .push item) := by
  have hword : halfWord < word := by decide
  cases action with
  | push item =>
      obtain ⟨after, hpush, hafter, -⟩ := h.push hcap item
      refine ⟨none, after, _, _, ?_, hafter, ?_, ?_⟩
      · rw [Ring.apply, hpush]
      · rw [hafter.length_eq, List.length_append]
        rfl
      · refine iff_of_false (by omega) fun hnone => hnone.2 item rfl
  | pop =>
      obtain ⟨after, hpop, hafter, -⟩ := h.pop (by omega)
      refine ⟨_, after, _, peak, hpop, hafter, ?_, ?_⟩
      · rw [hafter.length_eq]
        exact (Nat.max_eq_left hafter.length_le).symm
      · refine (and_iff_left fun item heq => ?_).symm
        cases heq
  | free => exact absurd rfl haction

/-- The peak after an action is the one before it or the length after it, so the greatest length of
the rest is one of the whole. -/
theorem isGreatest_lengthsFrom_cons {q next : Ring α} {action : Action α} {answer : Option α}
    (hstep : q.apply action = .ok (answer, next)) {rest : List (Action α)} {peak highest : Nat}
    (hle : q.length ≤ peak)
    (h : IsGreatest (insert (max peak next.length) (next.lengthsFrom rest)) highest) :
    IsGreatest (insert peak (q.lengthsFrom (action :: rest))) highest := by
  rw [lengthsFrom_cons hstep]
  have hupper : max peak next.length ≤ highest := h.2 (Set.mem_insert _ _)
  constructor
  · rcases h.1 with heq | hmem
    · rcases Nat.le_total next.length peak with hless | hless
      · rw [heq, Nat.max_eq_left hless]
        exact Set.mem_insert _ _
      · rw [heq, Nat.max_eq_right hless]
        exact .inr (.inr (length_mem_lengthsFrom _ _))
    · exact .inr (.inr hmem)
  · rintro n (rfl | rfl | hmem)
    · omega
    · omega
    · exact h.2 (.inr hmem)

theorem push_notMem_cons_iff {action : Action α} {rest : List (Action α)} :
    (∀ item, .push item ∉ action :: rest)
      ↔ (∀ item, action ≠ .push item) ∧ ∀ item, .push item ∉ rest := by
  rw [← forall_and]
  refine forall_congr' fun item => ?_
  rw [List.mem_cons, not_or, ne_comm]

/-- The peak of a run is the greatest of its lengths, or the peak before it. -/
theorem Peaks.applyAll (actions : List (Action α)) : ∀ {q : Ring α} {items : List α} {peak : Nat},
    q.Peaks items peak → .free ∉ actions →
    (∀ done, done <+: actions → ∀ answers after, q.applyAll done = .ok (answers, after) →
      after.capacity < halfWord) →
    ∃ answers last items' peak', q.applyAll actions = .ok (answers, last)
      ∧ last.Peaks items' peak' ∧ IsGreatest (insert peak (q.lengthsFrom actions)) peak'
      ∧ (peak' = 0 ↔ peak = 0 ∧ ∀ item, .push item ∉ actions) := by
  induction actions with
  | nil =>
      intro q items peak h _ _
      refine ⟨[], q, items, peak, rfl, h, ⟨Set.mem_insert _ _, ?_⟩, ?_⟩
      · rintro n (rfl | ⟨done, answers, after, hdone, hrun, rfl⟩)
        · exact Nat.le_refl _
        · obtain rfl := List.prefix_nil.mp hdone
          cases hrun
          rw [h.length_eq]
          exact h.length_le
      · exact (and_iff_left fun item => List.not_mem_nil).symm
  | cons action rest ih =>
      intro q items peak h hfree hcap
      obtain ⟨haction, hrest⟩ := not_or.mp (mt List.mem_cons.mpr hfree)
      obtain ⟨answer, next, items₁, peak₁, hstep, hnext, hpeak₁, hzero₁⟩ :=
        h.apply (hcap [] List.nil_prefix [] q rfl) (Ne.symm haction)
      obtain ⟨answers, last, items₂, peak₂, hrun, hlast, hgreatest, hzero₂⟩ := ih hnext hrest (by
        intro done hdone answers after hrun
        refine hcap (action :: done) (List.cons_prefix_cons.mpr ⟨rfl, hdone⟩)
          (answer :: answers) after ?_
        rw [Ring.applyAll, hstep]
        dsimp only
        rw [hrun])
      refine ⟨answer :: answers, last, items₂, peak₂, ?_, hlast, ?_, ?_⟩
      · rw [Ring.applyAll, hstep]
        dsimp only
        rw [hrun]
      · rw [hpeak₁] at hgreatest
        exact isGreatest_lengthsFrom_cons hstep (h.length_eq ▸ h.length_le) hgreatest
      · rw [hzero₂, hzero₁, and_assoc, push_notMem_cons_iff]

/-- A ring that is new, or was released last, has no slots. -/
theorem applyAll_eq_empty {actions : List (Action α)} {answers : List (Option α)} {q : Ring α}
    (hlast : actions = [] ∨ ∃ earlier, actions = earlier ++ [.free])
    (hrun : empty.applyAll actions = .ok (answers, q)) : q = empty := by
  rcases hlast with rfl | ⟨earlier, rfl⟩
  · cases hrun
    rfl
  · rw [applyAll_append] at hrun
    cases hearlier : (empty : Ring α).applyAll earlier with
    | error fault =>
        rw [hearlier] at hrun
        cases hrun
    | ok ran =>
        rw [hearlier] at hrun
        cases hrun
        rfl

/-- After that, a run is known from its second part. -/
theorem applyAll_append_eq_ok_iff {before : List (Action α)} {first : List (Option α)}
    (hbefore : empty.applyAll before = .ok (first, empty)) (done : List (Action α))
    (answers : List (Option α)) (q : Ring α) :
    empty.applyAll (before ++ done) = .ok (answers, q)
      ↔ ∃ more, empty.applyAll done = .ok (more, q) ∧ first ++ more = answers := by
  rw [applyAll_append, hbefore]
  dsimp only
  cases empty.applyAll done with
  | error fault => exact ⟨nofun, fun ⟨_, hrun, _⟩ => nomatch hrun⟩
  | ok ran =>
      simp only [Except.ok.injEq, Prod.mk.injEq]
      constructor
      · rintro ⟨rfl, rfl⟩
        exact ⟨ran.1, rfl, rfl⟩
      · rintro ⟨more, rfl, rfl⟩
        exact ⟨rfl, rfl⟩

/-- The lengths a new ring has come through since these actions were made on it. -/
def lengthsSince (before since : List (Action α)) : Set Nat :=
  {n | ∃ done answers q, done <+: since ∧ empty.applyAll (before ++ done) = .ok (answers, q)
    ∧ q.length = n}

theorem lengthsSince_eq {before : List (Action α)} {first : List (Option α)}
    (hbefore : empty.applyAll before = .ok (first, empty)) (since : List (Action α)) :
    lengthsSince before since = empty.lengthsFrom since := by
  apply Set.ext
  intro n
  constructor
  · rintro ⟨done, answers, q, hdone, hrun, hlength⟩
    obtain ⟨more, hrun, -⟩ := (applyAll_append_eq_ok_iff hbefore done answers q).mp hrun
    exact ⟨done, more, q, hdone, hrun, hlength⟩
  · rintro ⟨done, more, q, hdone, hrun, hlength⟩
    exact ⟨done, _, q, hdone, (applyAll_append_eq_ok_iff hbefore done _ q).mpr ⟨more, hrun, rfl⟩,
      hlength⟩

theorem lengthsFrom_mono (q : Ring α) {done actions : List (Action α)} (h : done <+: actions) :
    q.lengthsFrom done ⊆ q.lengthsFrom actions := by
  rintro n ⟨part, answers, after, hpart, hrun, hlength⟩
  exact ⟨part, answers, after, hpart.trans h, hrun, hlength⟩

/-- **The capacity follows the peak.** Take any history of a ring that is new or was just
released, and any pushes and pops since. The ring has no slots if nothing was pushed, and else
the least capacity of the form `10 * 2 ^ k` that is greater than the greatest length since; it
has never been higher in between. The next push grows the ring, and answers with the record of
it, exactly if there are no slots or all but one are taken, wherever on the ring that is; and
otherwise a push leaves the capacity alone, as a pop always does. -/
theorem capacity_of_peak (before since : List (Action α))
    (hbefore : before = [] ∨ ∃ earlier, before = earlier ++ [.free]) (hsince : .free ∉ since)
    (hcap : ∀ done, done <+: before ++ since → ∀ answers q,
      empty.applyAll done = .ok (answers, q) → q.capacity < halfWord) :
    ∃ answers q peak, empty.applyAll (before ++ since) = .ok (answers, q)
      ∧ IsGreatest (lengthsSince before since) peak
      ∧ ((∀ item, .push item ∉ since) → q.capacity = 0)
      ∧ (∀ item, .push item ∈ since →
          IsLeast {capacity | (∃ k, capacity = 10 * 2 ^ k) ∧ peak < capacity} q.capacity)
      ∧ (∀ done, done <+: since → ∀ answers earlier,
          empty.applyAll (before ++ done) = .ok (answers, earlier) →
          earlier.capacity ≤ q.capacity)
      ∧ (∀ item, ∃ after growth, q.push item = .ok (after, growth)
          ∧ if q.capacity = 0 ∨ q.length = q.capacity - 1
            then growth = some ⟨q.capacity, after.capacity⟩ ∧ q.capacity < after.capacity
            else growth = none ∧ after.capacity = q.capacity)
      ∧ ∃ answer after, q.pop = .ok (answer, after) ∧ after.capacity = q.capacity := by
  have hhalf : halfWord < word := by decide
  -- the first actions leave an empty ring behind, so that only the others count
  obtain ⟨start, hstart, -⟩ := stores_empty.applyAll_eq before fun done hdone =>
    hcap done (hdone.trans (List.prefix_append _ _))
  obtain rfl := applyAll_eq_empty hbefore hstart
  have hparts := applyAll_append_eq_ok_iff hstart
  have hcap' : ∀ done, done <+: since → ∀ answers after,
      empty.applyAll done = .ok (answers, after) → after.capacity < halfWord := by
    intro done hdone answers after hafter
    exact hcap (before ++ done) ((List.prefix_append_right_inj _).mpr hdone) _ after
      ((hparts done _ after).mpr ⟨answers, hafter, rfl⟩)
  obtain ⟨answers, q, items, peak, hrun, hpeaks, hgreatest, hzero⟩ :=
    Peaks.empty.applyAll since hsince hcap'
  have hq : q.capacity < halfWord := hcap' since List.prefix_rfl answers q hrun
  refine ⟨_, q, peak, (hparts since _ q).mpr ⟨answers, hrun, rfl⟩, ?_, ?_, ?_, ?_,
    hpeaks.push_growth hq, ?_⟩
  · rwa [lengthsSince_eq hstart, ← Set.insert_eq_of_mem (length_mem_lengthsFrom empty since)]
  · intro hnone
    exact hpeaks.suits.eq_zero_iff.mpr (hzero.mpr ⟨rfl, hnone⟩)
  · intro item hitem
    exact hpeaks.suits.isLeast fun hpeak => (hzero.mp hpeak).2 item hitem
  · -- an earlier peak is no higher
    intro done hdone answers earlier hearlier
    obtain ⟨more, hdone', -⟩ := (hparts done answers earlier).mp hearlier
    obtain ⟨_, earlier', _, peak', hrun', hpeaks', hgreatest', -⟩ := Peaks.empty.applyAll done
      (fun hmem => hsince (hdone.subset hmem)) fun part hpart => hcap' part (hpart.trans hdone)
    cases hdone'.symm.trans hrun'
    refine hpeaks'.suits.mono hpeaks.suits (hgreatest.2 ?_)
    exact Set.insert_subset_insert (lengthsFrom_mono _ hdone) hgreatest'.1
  · obtain ⟨after, hpop, -, hsize⟩ := hpeaks.pop (by omega)
    exact ⟨_, after, hpop, hsize⟩

/-- Ten items and their release, and then eight pushes, six pops and eight more pushes, which go
round the end of the slots: the length comes to ten again, and no higher. -/
theorem capacity_of_peak_wrapped :
    let before := (List.range 10).map Action.push ++ [.free]
    let since := (List.range 8).map Action.push ++ List.replicate 6 .pop
      ++ (List.range' 8 8).map Action.push
    (∃ earlier, before = earlier ++ [.free]) ∧ .free ∉ since
    ∧ (∀ done, done <+: before ++ since → ∀ answers q,
        (empty : Ring Nat).applyAll done = .ok (answers, q) → q.capacity < halfWord)
    ∧ ∃ answers q peak, empty.applyAll (before ++ since) = .ok (answers, q)
      ∧ IsGreatest (lengthsSince before since) peak
      ∧ IsLeast {capacity | (∃ k, capacity = 10 * 2 ^ k) ∧ peak < capacity} q.capacity := by
  intro before since
  have hall : ∀ done ∈ (before ++ since).inits, ((empty.applyAll done).toOption.all fun run =>
      decide (run.2.capacity < halfWord)) = true := by
    decide +kernel
  have hcap : ∀ done, done <+: before ++ since → ∀ answers q,
      empty.applyAll done = .ok (answers, q) → q.capacity < halfWord := by
    intro done hdone answers q hrun
    have hone := hall done ((List.mem_inits done _).mpr hdone)
    rw [hrun] at hone
    simpa [Except.toOption] using hone
  have hbefore : ∃ earlier, before = earlier ++ [.free] := ⟨_, rfl⟩
  have hsince : .free ∉ since := by decide
  obtain ⟨answers, q, peak, hrun, hpeak, -, hleast, -⟩ :=
    capacity_of_peak before since (.inr hbefore) hsince hcap
  exact ⟨hbefore, hsince, hcap, answers, q, peak, hrun, hpeak, hleast 0 (by decide)⟩

end Ring

end GridDispatch
