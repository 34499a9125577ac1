/-
Histories of a context.

A context is prepared again and again, sometimes in vain, its tables are set, it is dispatched on
and released, in any order. Its dozen fields are derived in preparations only, some from the last
one and one from all: the storage for descriptor sets is kept from one preparation to the next.

`Ledger` runs such a history and keeps, beside the context, the preparations that succeeded since
the context was last released. The context is then a function of this list, apart from the two
tables (`Ledger.Faithful`): without preparations it is not prepared, the last one fixes everything
but the storage, and the storage is `contentsOf` the list, in which every declared set lies over
what was there before, or over zeros where the storage had to grow. That a preparation which does
not succeed changes nothing is what keeps this true when one fails late.

The facts about single fields, `Ledger.Consistent`, are read off the list.
-/
import GridDispatch.Proofs.Prepared
import GridDispatch.Proofs.Rounding
import GridDispatch.Proofs.RunView

set_option autoImplicit false

namespace GridDispatch

variable {ρ σ : Type}

/-! ## Preparations -/

/-- The arguments of a preparation. -/
structure Preparation (ρ σ : Type) where
  threads : Nat
  program : Program ρ σ
  set : Bytes
  grid : Coord

namespace Preparation

/-- The length of the declared set. -/
def setSize (p : Preparation ρ σ) : Nat :=
  p.program.info.setSize

/-- The storage it takes. -/
def capacity (p : Preparation ρ σ) : Nat :=
  roundUp p.setSize memoryAlign

/-- The declared part of the set. -/
def declared (p : Preparation ρ σ) : Bytes :=
  p.set.extract 0 p.setSize

theorem setSize_le_capacity (p : Preparation ρ σ) : p.setSize ≤ p.capacity :=
  le_roundUp (by decide) p.setSize

end Preparation

/-- The storage that preparations take, the last one first. -/
def capacityOf (done : List (Preparation ρ σ)) : Nat :=
  (done.map Preparation.capacity).foldr max 0

/-- What they leave in it: the declared sets, each over what was there before, or over zeros where
the storage had to grow. -/
def contentsOf : List (Preparation ρ σ) → Bytes
  | [] => #[]
  | last :: earlier =>
    let found := if last.capacity ≤ capacityOf earlier then contentsOf earlier
      else Bytes.zeros last.capacity
    found.overwrite 0 last.declared

theorem capacityOf_cons (last : Preparation ρ σ) (earlier : List (Preparation ρ σ)) :
    capacityOf (last :: earlier) = max last.capacity (capacityOf earlier) :=
  rfl

theorem size_contentsOf (done : List (Preparation ρ σ)) :
    (contentsOf done).size = capacityOf done := by
  induction done with
  | nil => rfl
  | cons last earlier ih =>
      rw [contentsOf, Bytes.size_overwrite, capacityOf_cons]
      split
      · next hfits => rw [ih, Nat.max_eq_right hfits]
      · next hfits => rw [Bytes.size_zeros, Nat.max_eq_left (by omega)]

section

variable {last : Preparation ρ σ} {earlier : List (Preparation ρ σ)}

/-- The set of the last preparation is found where it begins. -/
theorem extract_contentsOf (hset : last.setSize ≤ last.set.size) :
    (contentsOf (last :: earlier)).extract 0 last.setSize = last.declared := by
  have hfits : last.setSize ≤ (contentsOf (last :: earlier)).size := by
    rw [size_contentsOf, capacityOf_cons]
    exact Nat.le_trans last.setSize_le_capacity (Nat.le_max_left _ _)
  have hdeclared : last.declared.size = last.setSize := by
    rw [Preparation.declared, Array.size_extract]
    omega
  apply Array.ext
  · rw [Array.size_extract, hdeclared]
    omega
  · intro index hindex hindex'
    simp [contentsOf, Bytes.overwrite, hindex']

/-- Behind it there are zeros, if the storage had to grow. -/
theorem getElem?_contentsOf_grown (hgrown : capacityOf earlier < last.capacity) {index : Nat}
    (hbehind : last.setSize ≤ index) (hindex : index < last.capacity) :
    (contentsOf (last :: earlier))[index]? = some 0 := by
  have hout : last.declared.size ≤ index := by
    rw [Preparation.declared, Array.size_extract]
    omega
  rw [contentsOf, if_neg (by omega)]
  simp [Bytes.overwrite, Bytes.zeros, hindex, hout]

/-- And otherwise what was there before. -/
theorem getElem?_contentsOf_kept (hkept : last.capacity ≤ capacityOf earlier) {index : Nat}
    (hbehind : last.setSize ≤ index) :
    (contentsOf (last :: earlier))[index]? = (contentsOf earlier)[index]? := by
  have hout : last.declared.size ≤ index := by
    rw [Preparation.declared, Array.size_extract]
    omega
  rw [contentsOf, if_pos hkept]
  simp [Bytes.overwrite, hout]

end

/-! ## What preparing does -/

namespace Context

/-- Storage that can be had is the old one if it is long enough, and otherwise zeros. -/
theorem reserveStorage_eq_ok {storage after : Block} {setSize : Nat} {events : List Event}
    (halign : storage.align = memoryAlign)
    (h : reserveStorage storage setSize = .ok (events, after)) :
    after = ⟨if roundUp setSize memoryAlign ≤ storage.size then storage.bytes
      else Bytes.zeros (roundUp setSize memoryAlign), memoryAlign⟩ := by
  rw [reserveStorage] at h
  split at h
  · cases h
  · next capacity hrounded =>
      obtain ⟨-, -, rfl⟩ := alignUp_eq_ok_iff.mp hrounded
      rw [Block.reserve] at h
      by_cases hfits : roundUp setSize memoryAlign ≤ storage.size
      · rw [if_pos hfits] at h ⊢
        cases h
        rw [← halign]
      · rw [if_neg hfits, halign, Block.allocate_eq] at h
        rw [if_neg hfits]
        split at h
        · cases h
        · next heq =>
            split at heq
            · cases heq
            · next hgrown =>
                split at hgrown
                · cases hgrown
                  cases heq
                  cases h
                  rfl
                · cases hgrown

/-- What a context holds on account of the last preparation. -/
structure Governed (context : Context ρ σ) (last : Preparation ρ σ) : Prop
    extends Prepared context last.threads last.program last.grid where
  memorySize_eq : context.memorySize = last.program.info.minMemorySize
  setSize_le : last.setSize ≤ last.set.size

/-- A context that is not prepared. -/
structure Unprepared (context : Context ρ σ) : Prop where
  threads_eq : context.threads = 0
  program_eq : context.program = none
  workgroups_eq : context.workgroups = 0
  grid_eq : context.grid = ⟨0, 0, 0⟩

/-- A preparation that succeeds governs, and has laid its set over the storage. -/
theorem governed_of_prepare {context after : Context ρ σ} {p : Preparation ρ σ}
    {events : List Event} (halign : context.storage.align = memoryAlign)
    (h : context.prepare p.threads p.program p.set p.grid = (.ok events, after)) :
    after.Governed p ∧ after.storage = ⟨(if p.capacity ≤ context.storage.size
      then context.storage.bytes else Bytes.zeros p.capacity).overwrite 0 p.declared, memoryAlign⟩
      ∧ after.constants.bound
        = context.constants.bound.setIfInBounds 0 (!after.storage.isEmpty) := by
  have hprepared := prepared_of_prepare h
  unfold prepare at h
  dsimp only at h
  split at h
  · cases h
  · next invocations workgroups haccept =>
      have hset : p.setSize ≤ p.set.size := by
        unfold accept at haccept
        split at haccept
        · cases haccept
        · split at haccept
          · cases haccept
          · next hlong => exact Nat.not_lt.mp hlong
      split at h
      · cases h
      · next hreserve =>
          have hreserved := reserveStorage_eq_ok halign hreserve
          cases h
          refine ⟨⟨hprepared, rfl, hset⟩, ?_, rfl⟩
          dsimp only
          rw [Block.refill_overwrite, hreserved]
          rfl

/-- The context with other tables. -/
def withTables (context : Context ρ σ) (dynamicOffsets : Array Nat) (pushConstants : Bytes) :
    Context ρ σ :=
  { context with constants := { context.constants with dynamicOffsets, pushConstants } }

theorem setPushConstants_eq (context : Context ρ σ) (bytes : Bytes) :
    ∃ dynamicOffsets pushConstants, (context.setPushConstants bytes).2
      = context.withTables dynamicOffsets pushConstants := by
  rw [setPushConstants]
  split
  · exact ⟨_, _, rfl⟩
  · exact ⟨context.constants.dynamicOffsets, context.constants.pushConstants, rfl⟩

theorem setDynamicOffsets_eq (context : Context ρ σ) (offsets : List Nat) :
    ∃ dynamicOffsets pushConstants, (context.setDynamicOffsets offsets).2
      = context.withTables dynamicOffsets pushConstants := by
  rw [setDynamicOffsets]
  split
  · exact ⟨_, _, rfl⟩
  · exact ⟨context.constants.dynamicOffsets, context.constants.pushConstants, rfl⟩

end Context

/-! ## Histories -/

/-- What can happen to a context. -/
inductive Context.Request (ρ σ : Type) where
  | prepare (p : Preparation ρ σ)
  | setPushConstants (bytes : Bytes)
  | setDynamicOffsets (offsets : List Nat)
  /-- A thread runs its share. -/
  | dispatch (backend : Backend ρ σ) (thread : Nat) (run : Run ρ σ)
  /-- All threads run their shares. -/
  | dispatchAll (backend : Backend ρ σ) (crew : Context.Crew ρ σ)
  | release

/-- A context, and the preparations that succeeded since it was last released, the last one
first. -/
structure Ledger (ρ σ : Type) where
  context : Context ρ σ
  done : List (Preparation ρ σ)

namespace Ledger

/-- A new context. -/
def initial : Ledger ρ σ :=
  ⟨.initial, []⟩

/-- The context after one request. Dispatching answers no context, as it only reads the one it
is given. -/
def perform (ledger : Ledger ρ σ) : Context.Request ρ σ → Ledger ρ σ
  | .prepare p =>
    match ledger.context.prepare p.threads p.program p.set p.grid with
    | (.ok _, context) => ⟨context, p :: ledger.done⟩
    | (.error _, context) => ⟨context, ledger.done⟩
  | .setPushConstants bytes => ⟨(ledger.context.setPushConstants bytes).2, ledger.done⟩
  | .setDynamicOffsets offsets => ⟨(ledger.context.setDynamicOffsets offsets).2, ledger.done⟩
  | .dispatch .. | .dispatchAll .. => ledger
  | .release => ⟨ledger.context.release, []⟩

/-- A new context after requests, one after another. -/
def performAll (requests : List (Context.Request ρ σ)) : Ledger ρ σ :=
  requests.foldl perform initial

/-- The context is what the preparations make it. -/
structure Faithful (ledger : Ledger ρ σ) : Prop where
  storage_eq : ledger.context.storage = ⟨contentsOf ledger.done, memoryAlign⟩
  bound_eq : ledger.context.constants.bound
    = #[!ledger.context.storage.isEmpty, false, false, false]
  unprepared : ledger.done = [] → ledger.context.Unprepared
  governed : ∀ last earlier, ledger.done = last :: earlier → ledger.context.Governed last

theorem faithful_initial : (initial : Ledger ρ σ).Faithful :=
  ⟨rfl, rfl, fun _ => ⟨rfl, rfl, rfl, rfl⟩, nofun⟩

/-- Nothing here depends on the tables. -/
theorem Faithful.withTables {ledger : Ledger ρ σ} (h : ledger.Faithful)
    (dynamicOffsets : Array Nat) (pushConstants : Bytes) :
    Faithful ⟨ledger.context.withTables dynamicOffsets pushConstants, ledger.done⟩ := by
  refine ⟨h.storage_eq, h.bound_eq, fun hnone => ?_, fun last earlier hdone => ?_⟩
  · obtain ⟨hthreads, hprogram, hworkgroups, hgrid⟩ := h.unprepared hnone
    exact ⟨hthreads, hprogram, hworkgroups, hgrid⟩
  · obtain ⟨⟨hpos, hthreads, hprogram, hbarriers, hgrid, hside, hworkgroups, hlt, hsize, hwidth,
      hinvocations, hinvpos, hinvlt, hsubgroups⟩, hmemory, hset⟩ := h.governed last earlier hdone
    exact ⟨⟨hpos, hthreads, hprogram, hbarriers, hgrid, hside, hworkgroups, hlt, hsize, hwidth,
      hinvocations, hinvpos, hinvlt, hsubgroups⟩, hmemory, hset⟩

theorem Faithful.prepare {ledger : Ledger ρ σ} (h : ledger.Faithful) (p : Preparation ρ σ) :
    (ledger.perform (.prepare p)).Faithful := by
  rw [perform]
  split
  · next after hprepare =>
      have halign : ledger.context.storage.align = memoryAlign := by rw [h.storage_eq]
      obtain ⟨hgoverned, hstorage, hbound⟩ := Context.governed_of_prepare halign hprepare
      refine ⟨?_, ?_, nofun, fun last earlier hdone => ?_⟩
      · dsimp only
        rw [hstorage, h.storage_eq, contentsOf, ← size_contentsOf]
        rfl
      · dsimp only
        rw [hbound, h.bound_eq]
        rfl
      · obtain ⟨rfl, -⟩ := List.cons.inj hdone
        exact hgoverned
  · next hprepare =>
      rw [Context.prepare_of_error hprepare]
      exact h

theorem Faithful.perform {ledger : Ledger ρ σ} (h : ledger.Faithful)
    (request : Context.Request ρ σ) : (ledger.perform request).Faithful := by
  cases request with
  | prepare p => exact h.prepare p
  | setPushConstants bytes =>
      obtain ⟨dynamicOffsets, pushConstants, heq⟩ := ledger.context.setPushConstants_eq bytes
      rw [Ledger.perform, heq]
      exact h.withTables dynamicOffsets pushConstants
  | setDynamicOffsets offsets =>
      obtain ⟨dynamicOffsets, pushConstants, heq⟩ := ledger.context.setDynamicOffsets_eq offsets
      rw [Ledger.perform, heq]
      exact h.withTables dynamicOffsets pushConstants
  | dispatch backend thread run => exact h
  | dispatchAll backend crew => exact h
  | release => exact faithful_initial

theorem faithful_performAll (requests : List (Context.Request ρ σ)) :
    (performAll requests).Faithful :=
  List.foldlRecOn requests Ledger.perform faithful_initial fun _ h request _ => h.perform request

/-- A coroutine finds the storage bound as the first set, unless it is empty, and no other. -/
theorem Faithful.boundSet_eq {ledger : Ledger ρ σ} (h : ledger.Faithful) (index : Nat) :
    ledger.context.boundSet index
      = if index = 0 ∧ 0 < ledger.context.storage.size then some ledger.context.storage.bytes
        else none := by
  have hhas : ledger.context.constants.hasSet index
      = (decide (index = 0) && !ledger.context.storage.isEmpty) := by
    rw [Constants.hasSet, h.bound_eq]
    match index with
    | 0 => rfl
    | 1 | 2 | 3 | _ + 4 => rfl
  have hempty : ledger.context.storage.isEmpty = decide (ledger.context.storage.size = 0) := rfl
  rw [Context.boundSet, hhas, hempty]
  by_cases hindex : index = 0
  · by_cases hsize : ledger.context.storage.size = 0 <;> simp [hindex, hsize, Nat.pos_iff_ne_zero]
  · simp [hindex]

/-- Requests other than to release add at most a preparation. -/
theorem done_perform (ledger : Ledger ρ σ) {request : Context.Request ρ σ}
    (hkept : request ≠ .release) : (ledger.perform request).done = ledger.done
      ∨ ∃ p, (ledger.perform request).done = p :: ledger.done := by
  cases request with
  | prepare p =>
      rw [perform]
      split
      · exact .inr ⟨p, rfl⟩
      · exact .inl rfl
  | release => exact absurd rfl hkept
  | _ => exact .inl rfl

/-- What the fields of a context say about each other, and about the preparations since it was
last released. -/
structure Consistent (ledger : Ledger ρ σ) : Prop where
  threads_eq_zero_iff : ledger.context.threads = 0 ↔ ledger.context.program = none
  program_eq_none_iff : ledger.context.program = none ↔ ledger.done = []
  workgroups_eq : ledger.context.workgroups = ledger.context.grid.volume
  side_le : ledger.context.grid.x ≤ signedMax ∧ ledger.context.grid.y ≤ signedMax
    ∧ ledger.context.grid.z ≤ signedMax
  /-- The storage has room for the largest of their sets. -/
  size_eq : ledger.context.storage.size
    = (ledger.done.map fun p => roundUp p.program.info.setSize memoryAlign).foldr max 0
  boundSet_eq : ∀ index, ledger.context.boundSet index
    = if index = 0 ∧ 0 < ledger.context.storage.size then some ledger.context.storage.bytes
      else none
  /-- Sizes, grid, barriers, memory and threads are those of the last one. -/
  governed : ∀ last earlier, ledger.done = last :: earlier → ledger.context.Governed last
  /-- Its set is in front of the storage. -/
  front_eq : ∀ last earlier, ledger.done = last :: earlier →
    ledger.context.storage.bytes.extract 0 last.program.info.setSize
      = last.set.extract 0 last.program.info.setSize
  /-- Behind it are zeros if it has made the storage grow. -/
  behind_grown : ∀ last earlier, ledger.done = last :: earlier →
    capacityOf earlier < last.capacity →
    ∀ index, last.program.info.setSize ≤ index → index < ledger.context.storage.size →
      ledger.context.storage.bytes[index]? = some 0
  /-- Otherwise there is what those before have left. -/
  behind_kept : ∀ last earlier, ledger.done = last :: earlier →
    last.capacity ≤ capacityOf earlier →
    ∀ index, last.program.info.setSize ≤ index →
      ledger.context.storage.bytes[index]? = (contentsOf earlier)[index]?

theorem Faithful.size_eq {ledger : Ledger ρ σ} (h : ledger.Faithful) :
    ledger.context.storage.size = capacityOf ledger.done := by
  rw [h.storage_eq]
  exact size_contentsOf ledger.done

theorem Faithful.consistent {ledger : Ledger ρ σ} (h : ledger.Faithful) : ledger.Consistent := by
  have hbytes : ledger.context.storage.bytes = contentsOf ledger.done :=
    congrArg Block.bytes h.storage_eq
  have hfields : (ledger.context.threads = 0 ↔ ledger.done = [])
      ∧ (ledger.context.program = none ↔ ledger.done = [])
      ∧ ledger.context.workgroups = ledger.context.grid.volume
      ∧ ledger.context.grid.x ≤ signedMax ∧ ledger.context.grid.y ≤ signedMax
      ∧ ledger.context.grid.z ≤ signedMax := by
    cases hdone : ledger.done with
    | nil =>
        obtain ⟨hthreads, hprogram, hworkgroups, hgrid⟩ := h.unprepared hdone
        rw [hthreads, hprogram, hworkgroups, hgrid]
        exact ⟨⟨fun _ => rfl, fun _ => rfl⟩, ⟨fun _ => rfl, fun _ => rfl⟩, rfl, by decide⟩
    | cons last earlier =>
        have hlast := h.governed last earlier hdone
        have hthreads : ledger.context.threads ≠ 0 := by
          rw [hlast.threads_eq]
          exact Nat.pos_iff_ne_zero.mp hlast.threads_pos
        rw [hlast.program_eq, hlast.grid_eq]
        exact ⟨⟨fun hzero => absurd hzero hthreads, nofun⟩, ⟨nofun, nofun⟩, hlast.workgroups_eq,
          hlast.side_le⟩
  obtain ⟨hthreads, hprogram, hworkgroups, hside⟩ := hfields
  refine ⟨hthreads.trans hprogram.symm, hprogram, hworkgroups, hside, h.size_eq, h.boundSet_eq,
    h.governed, ?_, ?_, ?_⟩
  · intro last earlier hdone
    rw [hbytes, hdone]
    exact extract_contentsOf (h.governed last earlier hdone).setSize_le
  · intro last earlier hdone hgrown index hbehind hindex
    rw [h.size_eq, hdone, capacityOf_cons, Nat.max_eq_left (Nat.le_of_lt hgrown)] at hindex
    rw [hbytes, hdone]
    exact getElem?_contentsOf_grown hgrown hbehind hindex
  · intro last earlier hdone hkept index hbehind
    rw [hbytes, hdone]
    exact getElem?_contentsOf_kept hkept hbehind

/-- **The fields of a context agree over every history.** Whatever is asked of a new context, and
whether its preparations succeed or not, it has no threads exactly while it is not prepared; its
workgroups are the volume of its grid, whose sides fit signed numbers; everything derived is
derived from the last preparation that succeeded; and its storage is as long as the largest of
the declared sets since it was last released, the last set in front, behind it zeros if the
storage had to grow for it. So only releasing takes storage away. -/
theorem consistent_performAll (requests : List (Context.Request ρ σ)) :
    (performAll requests).Consistent
    ∧ ∀ request, request ≠ .release → (performAll requests).context.storage.size
        ≤ ((performAll requests).perform request).context.storage.size := by
  have hfaithful := faithful_performAll requests
  refine ⟨hfaithful.consistent, fun request hkept => ?_⟩
  rw [hfaithful.size_eq, (hfaithful.perform request).size_eq]
  rcases (performAll requests).done_perform hkept with hdone | ⟨p, hdone⟩
  · rw [hdone]
  · rw [hdone, capacityOf_cons]
    exact Nat.le_max_right _ _

-- of sets of 20, 8 and 40 bytes the second finds room and the third does not
example : [[20], [20, 8], [20, 8, 40]].map (fun sizes =>
    (performAll (sizes.map fun size => .prepare
      ⟨1, idleProgram ⟨0, false, size, ⟨1, 1, 1⟩⟩, Bytes.zeros size, ⟨1, 1, 1⟩⟩)
      ).context.storage.size) = [32, 32, 48] := by
  decide

end Ledger

end GridDispatch
