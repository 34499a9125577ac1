/-
Which sets a program finds bound.

Coroutines are handed the constants of the context, and nothing else of it. After a preparation
these are derived from its arguments and the two tables (`Preparation.leaves`), with one
exception: the first set is bound if there is any storage, and storage is kept from earlier
preparations. So a set is bound if any program that was prepared since the context was last
released has declared one (`hasSet_iff`), be it the last program or not.

Two histories that end with the same preparation and agree in the tables can therefore leave
different constants, but only for a program without a set, and there only if an earlier program
had one in just one of the histories (`Ledger.constants_eq_iff`). Where the constants are the same,
no dispatch can tell the histories apart, as the storage itself is not looked at.
-/
import GridDispatch.Proofs.NativeCalls

set_option autoImplicit false

namespace GridDispatch

variable {ρ σ : Type}

/-! ## What a preparation leaves -/

/-- The context that a preparation leaves, over some storage and with some tables. -/
def Preparation.leaves (p : Preparation ρ σ) (storage : Block) (dynamicOffsets : Array Nat)
    (pushConstants : Bytes) : Context ρ σ where
  storage := storage
  threads := p.threads
  hasBarriers := p.program.info.hasBarriers
  memorySize := p.program.info.minMemorySize
  workgroups := p.grid.volume
  program := some p.program
  constants := Context.deriveConstants { Constants.initial with dynamicOffsets, pushConstants }
    storage p.program.info.workgroupSize p.grid p.program.info.workgroupSize.volume

namespace Context

/-- Of the bound sets, only the first one can have been another one before. -/
theorem leaves_of_prepare {context after : Context ρ σ} {p : Preparation ρ σ} {events : List Event}
    {found : Bool} (hbound : context.constants.bound = #[found, false, false, false])
    (h : context.prepare p.threads p.program p.set p.grid = (.ok events, after)) :
    after = p.leaves after.storage context.constants.dynamicOffsets
      context.constants.pushConstants := by
  unfold prepare at h
  dsimp only at h
  split at h
  · cases h
  · next invocations workgroups haccept =>
      obtain ⟨-, hinvocations, hworkgroups⟩ := accept_eq haccept
      obtain ⟨rfl, -, -⟩ := workgroupVolume_eq hinvocations
      obtain ⟨rfl, -⟩ := gridVolume_eq hworkgroups
      split at h
      · cases h
      · cases h
        simp only [Preparation.leaves, deriveConstants, hbound]
        rfl

/-- The context over other storage. -/
def withStorage (context : Context ρ σ) (storage : Block) : Context ρ σ :=
  { context with storage }

theorem runFrom_withStorage (context : Context ρ σ) (storage : Block) (backend : Backend ρ σ)
    (program : Program ρ σ) (thread count : Nat) : ∀ (stats : Stats) (run : Run ρ σ) (place : Nat),
      (context.withStorage storage).runFrom backend program thread stats run place count
        = context.runFrom backend program thread stats run place count := by
  induction count with
  | zero => exact fun _ _ _ => rfl
  | succ count ih =>
      intro stats run place
      have hfirst : (context.withStorage storage).runWorkgroup backend program stats run
          ((context.withStorage storage).shareAt thread place)
            = context.runWorkgroup backend program stats run (context.shareAt thread place) := rfl
      rw [runFrom, runFrom, hfirst]
      split
      · rfl
      · next stats after _ => exact ih stats after (place + 1)

/-- A dispatch does not look at the storage. -/
theorem dispatch_withStorage (context : Context ρ σ) (storage : Block) (backend : Backend ρ σ)
    (thread : Nat) (run : Run ρ σ) :
    (context.withStorage storage).dispatch backend thread run
      = context.dispatch backend thread run := by
  unfold dispatch
  simp only [runFrom_withStorage]
  rfl

end Context

/-! ## Histories -/

namespace Ledger

/-- The context is what the last preparation leaves. -/
def Left (ledger : Ledger ρ σ) : Prop :=
  ∀ last earlier, ledger.done = last :: earlier → ledger.context
    = last.leaves ledger.context.storage ledger.context.constants.dynamicOffsets
      ledger.context.constants.pushConstants

theorem Left.perform {ledger : Ledger ρ σ} (h : ledger.Left) (hfaithful : ledger.Faithful)
    (request : Context.Request ρ σ) : (ledger.perform request).Left := by
  have htables : ∀ dynamicOffsets pushConstants,
      Left ⟨ledger.context.withTables dynamicOffsets pushConstants, ledger.done⟩ := by
    intro dynamicOffsets pushConstants last earlier hdone
    dsimp only
    rw [h last earlier hdone]
    rfl
  cases request with
  | prepare p =>
      rw [Ledger.perform]
      split
      · next after hprepare =>
          intro last earlier hdone
          obtain ⟨rfl, -⟩ := List.cons.inj hdone
          have hafter := Context.leaves_of_prepare hfaithful.bound_eq hprepare
          dsimp only
          rw [hafter]
          rfl
      · next hprepare =>
          rw [Context.prepare_of_error hprepare]
          exact h
  | setPushConstants bytes =>
      obtain ⟨dynamicOffsets, pushConstants, heq⟩ := ledger.context.setPushConstants_eq bytes
      rw [Ledger.perform, heq]
      exact htables dynamicOffsets pushConstants
  | setDynamicOffsets offsets =>
      obtain ⟨dynamicOffsets, pushConstants, heq⟩ := ledger.context.setDynamicOffsets_eq offsets
      rw [Ledger.perform, heq]
      exact htables dynamicOffsets pushConstants
  | dispatch backend thread run => exact h
  | dispatchAll backend crew => exact h
  | release =>
      intro last earlier hdone
      cases hdone

theorem left_performAll (requests : List (Context.Request ρ σ)) : (performAll requests).Left := by
  have hboth : (performAll requests).Faithful ∧ (performAll requests).Left :=
    List.foldlRecOn (motive := fun ledger => ledger.Faithful ∧ ledger.Left) requests Ledger.perform
      ⟨faithful_initial, nofun⟩
      fun _ h request _ => ⟨h.1.perform request, h.2.perform h.1 request⟩
  exact hboth.2

/-! ## Bound sets -/

/-- Some of these preparations has declared a set. -/
def DeclaresSet (done : List (Preparation ρ σ)) : Prop :=
  ∃ p ∈ done, 0 < p.setSize

theorem declaresSet_cons {last : Preparation ρ σ} {earlier : List (Preparation ρ σ)} :
    DeclaresSet (last :: earlier) ↔ 0 < last.setSize ∨ DeclaresSet earlier := by
  simp [DeclaresSet]

/-- Storage is there as soon as a set was declared. -/
theorem capacityOf_pos_iff {done : List (Preparation ρ σ)} :
    0 < capacityOf done ↔ DeclaresSet done := by
  induction done with
  | nil => simp [capacityOf, DeclaresSet]
  | cons last earlier ih =>
      have hlast : 0 < last.capacity ↔ 0 < last.setSize := by
        change 0 < (last.setSize + 16 - 1) / 16 * 16 ↔ 0 < last.setSize
        omega
      rw [capacityOf_cons, declaresSet_cons, ← hlast, ← ih]
      omega

/-- And it is then bound as the first set. -/
theorem Faithful.hasSet_iff {ledger : Ledger ρ σ} (h : ledger.Faithful) (index : Nat) :
    ledger.context.constants.hasSet index = true ↔ index = 0 ∧ DeclaresSet ledger.done := by
  rw [← capacityOf_pos_iff, ← h.size_eq, Constants.hasSet, h.bound_eq]
  rcases index with - | - | - | - | index
  · simp [Block.isEmpty, Nat.pos_iff_ne_zero]
  all_goals simp

theorem Faithful.isEmpty_iff {ledger : Ledger ρ σ} (h : ledger.Faithful) :
    ledger.context.storage.isEmpty = true ↔ ¬ DeclaresSet ledger.done := by
  rw [← capacityOf_pos_iff, ← h.size_eq]
  simp [Block.isEmpty]

section

variable {requests requests' : List (Context.Request ρ σ)} {last : Preparation ρ σ}
  {earlier earlier' : List (Preparation ρ σ)}

/-- After the same preparation and with the same tables, contexts can only differ in the storage
and in what is bound, and so only in the storage if both have some or none. -/
theorem withStorage_eq (hdone : (performAll requests).done = last :: earlier)
    (hdone' : (performAll requests').done = last :: earlier')
    (hoffsets : (performAll requests).context.constants.dynamicOffsets
      = (performAll requests').context.constants.dynamicOffsets)
    (hpush : (performAll requests).context.constants.pushConstants
      = (performAll requests').context.constants.pushConstants) :
    { (performAll requests).context.constants with
        bound := (performAll requests').context.constants.bound }
      = (performAll requests').context.constants
    ∧ ((performAll requests).context.storage.isEmpty
        = (performAll requests').context.storage.isEmpty →
      (performAll requests).context.withStorage (performAll requests').context.storage
        = (performAll requests').context) := by
  have hleft := left_performAll requests last earlier hdone
  have hleft' := left_performAll requests' last earlier' hdone'
  rw [← hoffsets, ← hpush] at hleft'
  constructor
  · rw [hleft', hleft]
    rfl
  · intro hempty
    rw [hleft', hleft]
    simp only [Context.withStorage, Preparation.leaves, Context.deriveConstants, hempty]

/-- Whether both have some or none. -/
theorem isEmpty_eq_iff (hdone : (performAll requests).done = last :: earlier)
    (hdone' : (performAll requests').done = last :: earlier') :
    (performAll requests).context.storage.isEmpty = (performAll requests').context.storage.isEmpty
      ↔ 0 < last.setSize ∨ (DeclaresSet earlier ↔ DeclaresSet earlier') := by
  have hempty := (faithful_performAll requests).isEmpty_iff
  have hempty' := (faithful_performAll requests').isEmpty_iff
  rw [hdone, declaresSet_cons] at hempty
  rw [hdone', declaresSet_cons] at hempty'
  rw [Bool.eq_iff_iff, hempty, hempty']
  tauto

/-- **What is bound depends on all programs since the last release.** In two histories that end
with the same preparation, and in which both tables hold the same, coroutines are handed the
same constants but for the first set. That set is bound if any of the programs prepared since the
context was released last has declared one. So the constants are the same exactly if the last
program declares a set, or the earlier ones do in both histories or in neither, and then no
dispatch can tell the histories apart. Of a context, programs are handed nothing but its
constants. -/
theorem constants_eq_iff (hdone : (performAll requests).done = last :: earlier)
    (hdone' : (performAll requests').done = last :: earlier')
    (hoffsets : (performAll requests).context.constants.dynamicOffsets
      = (performAll requests').context.constants.dynamicOffsets)
    (hpush : (performAll requests).context.constants.pushConstants
      = (performAll requests').context.constants.pushConstants) :
    let context := (performAll requests).context
    let context' := (performAll requests').context
    { context.constants with bound := context'.constants.bound } = context'.constants
    ∧ (∀ index, context.constants.hasSet index = true
        ↔ index = 0 ∧ DeclaresSet (last :: earlier))
    ∧ (context.constants = context'.constants
        ↔ 0 < last.setSize ∨ (DeclaresSet earlier ↔ DeclaresSet earlier'))
    ∧ (context.constants = context'.constants → ∀ (backend : Backend ρ σ) (thread : Nat)
        (run : Run ρ σ), context.dispatch backend thread run = context'.dispatch backend thread run)
    ∧ ∀ other : Program ρ σ,
        (∀ workgroup subgroups, other.start context.constants workgroup subgroups
          = last.program.start context.constants workgroup subgroups) →
        ∀ (backend : Backend ρ σ) (thread : Nat) (run : Run ρ σ),
          (context.withProgram other).dispatch backend thread run
            = context.dispatch backend thread run := by
  intro context context'
  have hfaithful := faithful_performAll requests
  obtain ⟨hbut, hstorage⟩ := withStorage_eq hdone hdone' hoffsets hpush
  have hempty := isEmpty_eq_iff hdone hdone'
  -- whether there is storage is read off what is bound
  have hconstants : context.constants = context'.constants
      ↔ context.storage.isEmpty = context'.storage.isEmpty := by
    constructor
    · intro heq
      have hbound : context.constants.bound = context'.constants.bound := by rw [heq]
      rw [hfaithful.bound_eq, (faithful_performAll requests').bound_eq] at hbound
      simpa using hbound
    · intro heq
      have hsame := congrArg Context.constants (hstorage heq)
      exact hsame
  refine ⟨hbut, fun index => ?_, hconstants.trans hempty, fun heq backend thread run => ?_,
    fun other hother backend thread run => ?_⟩
  · rw [← hdone]
    exact hfaithful.hasSet_iff index
  · rw [← context.dispatch_withStorage context'.storage, hstorage (hconstants.mp heq)]
  · exact Context.dispatch_withProgram (hfaithful.governed last earlier hdone).program_eq backend
      run fun start _ => (hother start.1 start.2).symm

end

/-! ## A set that is still bound -/

/-- A program that notes for every coroutine whether it finds a set bound. -/
def notingPreparation (setSize : Nat) : Preparation Unit (List Bool) where
  threads := 1
  program := {
    info := ⟨0, false, setSize, ⟨1, 1, 1⟩⟩
    start := fun constants _ _ scene =>
      (.ok (), { scene with shared := scene.shared ++ [constants.hasSet 0] }) }
  set := Bytes.zeros setSize
  grid := ⟨1, 1, 1⟩

/-- A set of eight bytes is found alike with new storage and with that of a longer one. -/
theorem constants_eq_iff_reused :
    let reused := [.prepare (notingPreparation 40), .prepare (notingPreparation 8)]
    let fresh := [.setPushConstants #[0], .prepare (notingPreparation 8)]
    (performAll reused).done = notingPreparation 8 :: [notingPreparation 40]
    ∧ (performAll fresh).done = notingPreparation 8 :: []
    ∧ (performAll reused).context.constants.dynamicOffsets
      = (performAll fresh).context.constants.dynamicOffsets
    ∧ (performAll reused).context.constants.pushConstants
      = (performAll fresh).context.constants.pushConstants
    ∧ (performAll reused).context.constants = (performAll fresh).context.constants
    ∧ ∀ (backend : Backend Unit (List Bool)) (thread : Nat) (run : Run Unit (List Bool)),
      (performAll reused).context.dispatch backend thread run
        = (performAll fresh).context.dispatch backend thread run := by
  intro reused fresh
  have hdone : (performAll reused).done = notingPreparation 8 :: [notingPreparation 40] := rfl
  have hdone' : (performAll fresh).done = notingPreparation 8 :: [] := rfl
  have hoffsets : (performAll reused).context.constants.dynamicOffsets
      = (performAll fresh).context.constants.dynamicOffsets := by decide +kernel
  have hpush : (performAll reused).context.constants.pushConstants
      = (performAll fresh).context.constants.pushConstants := by decide +kernel
  obtain ⟨-, -, hiff, hdispatch, -⟩ := constants_eq_iff hdone hdone' hoffsets hpush
  have heq := hiff.mpr (.inl (by decide))
  exact ⟨hdone, hdone', hoffsets, hpush, heq, hdispatch heq⟩

/-- A program without a set finds one bound if the context was prepared for a program with a set
before, and none if it was not. -/
theorem stale_set_bound :
    let reused := [.prepare (notingPreparation 16), .prepare (notingPreparation 0)]
    let fresh := [.prepare (notingPreparation 0)]
    (notingPreparation 0).setSize = 0
    ∧ (performAll reused).done = notingPreparation 0 :: [notingPreparation 16]
    ∧ (performAll fresh).done = notingPreparation 0 :: []
    ∧ (performAll reused).context.constants.dynamicOffsets
      = (performAll fresh).context.constants.dynamicOffsets
    ∧ (performAll reused).context.constants.pushConstants
      = (performAll fresh).context.constants.pushConstants
    ∧ ((performAll reused).context.dispatch (idle (List Bool)) 0
      ⟨.initial, [], #[]⟩).2.shared = [true]
    ∧ ((performAll fresh).context.dispatch (idle (List Bool)) 0
      ⟨.initial, [], #[]⟩).2.shared = [false] := by
  exact ⟨rfl, rfl, rfl, rfl, rfl, by decide +kernel, by decide +kernel⟩

end Ledger

end GridDispatch
