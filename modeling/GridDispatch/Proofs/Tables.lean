/-
The tables of a context.

Push constants and dynamic offsets are handed to every coroutine, in the same record as what a
preparation derives, and yet are none of its business. They are set by requests of their own, each
of which lays what it carries over the front of a table. So an entry was set last by a request that
need not be the last one, nor the last that set anything.

`Ledger.lastSet` looks for it: through the requests since the context was last released, from the
last one back, for the first that reached the entry. What one request does to an entry is that of
`pushed` and `placed` (`getElem?_pushConstants_perform`, `getElem?_dynamicOffsets_perform`), and
so the entries after a history are those found (`getElem?_performAll_of_perform`, for both tables).
For the other fields it is the other way round: setting a table leaves everything else, whatever
the context.
-/
import GridDispatch.Proofs.ContextHistory
import GridDispatch.Proofs.Items

set_option autoImplicit false

namespace GridDispatch

variable {ρ σ : Type}

/-! ## Requests that reach an entry -/

namespace Context.Request

def isRelease : Context.Request ρ σ → Bool
  | .release => true
  | _ => false

def setsTable : Context.Request ρ σ → Bool
  | .setPushConstants _ | .setDynamicOffsets _ => true
  | _ => false

/-- The byte that a request puts at an index of the push constants, if it reaches there. -/
def pushed (index : Nat) : Context.Request ρ σ → Option UInt8
  | .setPushConstants bytes => if bytes.size ≤ maxPush then bytes[index]? else none
  | _ => none

/-- The offset that a request puts at an index of the dynamic offset table, if it reaches there. -/
def placed (index : Nat) : Context.Request ρ σ → Option Nat
  | .setDynamicOffsets offsets => if offsets.length ≤ maxDynamic then offsets[index]? else none
  | _ => none

end Context.Request

namespace Context

/-! ## What setting and preparing do -/

section

variable {length limit : Nat} {refusal refused : Refusal} {taken before : Context ρ σ}

/-- Input for a table is refused if and only if it is longer. -/
theorem fst_ite_eq_error_iff :
    (if length ≤ limit then ((.ok () : Except Refusal Unit), taken)
      else (.error refusal, before)).1 = .error refused ↔ limit < length ∧ refused = refusal := by
  by_cases hfits : length ≤ limit
  · rw [if_pos hfits]
    exact ⟨nofun, fun h => absurd hfits (Nat.not_le.mpr h.1)⟩
  · rw [if_neg hfits, Except.error.injEq, eq_comm, and_iff_right (Nat.lt_of_not_le hfits)]

/-- And is not taken then. -/
theorem snd_ite_of_error
    (h : (if length ≤ limit then ((.ok () : Except Refusal Unit), taken)
      else (.error refusal, before)).1 = .error refused) :
    (if length ≤ limit then ((.ok () : Except Refusal Unit), taken)
      else (.error refusal, before)).2 = before := by
  have hlong := Nat.not_le.mpr (fst_ite_eq_error_iff.mp h).1
  rw [if_neg hlong]

end

section

variable (context : Context ρ σ)

theorem setPushConstants_eq_ite (bytes : Bytes) : context.setPushConstants bytes
    = if bytes.size ≤ maxPush then (.ok (), context.withTables context.constants.dynamicOffsets
        (context.constants.pushConstants.overwrite 0 bytes))
      else (.error (.pushConstants bytes.size maxPush), context) :=
  rfl

theorem setDynamicOffsets_eq_ite (offsets : List Nat) : context.setDynamicOffsets offsets
    = if offsets.length ≤ maxDynamic then (.ok (), context.withTables
        (context.constants.dynamicOffsets.mapIdx fun index old => offsets.getD index old)
        context.constants.pushConstants)
      else (.error (.dynamicOffsets offsets.length maxDynamic), context) :=
  rfl

/-- A preparation leaves the tables, whether it succeeds, is refused or stops. -/
theorem tables_prepare (p : Preparation ρ σ) :
    let after := (context.prepare p.threads p.program p.set p.grid).2
    after.constants.pushConstants = context.constants.pushConstants
    ∧ after.constants.dynamicOffsets = context.constants.dynamicOffsets := by
  dsimp only
  unfold prepare
  dsimp only
  split
  · exact ⟨rfl, rfl⟩
  · split
    · exact ⟨rfl, rfl⟩
    · exact ⟨rfl, rfl⟩

end

/-- The tables have their fixed lengths. -/
structure Sized (context : Context ρ σ) : Prop where
  pushConstants : context.constants.pushConstants.size = maxPush
  dynamicOffsets : context.constants.dynamicOffsets.size = maxDynamic

theorem sized_initial : (initial : Context ρ σ).Sized :=
  ⟨rfl, rfl⟩

end Context

namespace Ledger

/-! ## One request -/

theorem context_perform_prepare (ledger : Ledger ρ σ) (p : Preparation ρ σ) :
    (ledger.perform (.prepare p)).context
      = (ledger.context.prepare p.threads p.program p.set p.grid).2 := by
  rw [perform]
  split <;> next h => rw [h]

section

variable {ledger : Ledger ρ σ} (h : ledger.context.Sized) (request : Context.Request ρ σ)

include h

theorem Sized.perform : (ledger.perform request).context.Sized := by
  cases request with
  | prepare p =>
      obtain ⟨hpush, hoffsets⟩ := ledger.context.tables_prepare p
      rw [context_perform_prepare]
      exact ⟨(congrArg Array.size hpush).trans h.1, (congrArg Array.size hoffsets).trans h.2⟩
  | setPushConstants bytes =>
      rw [Ledger.perform, Context.setPushConstants_eq_ite]
      split
      · exact ⟨(Bytes.size_overwrite _ _ _).trans h.1, h.2⟩
      · exact h
  | setDynamicOffsets offsets =>
      rw [Ledger.perform, Context.setDynamicOffsets_eq_ite]
      split
      · exact ⟨h.1, Array.size_mapIdx.trans h.2⟩
      · exact h
  | dispatch backend thread run => exact h
  | dispatchAll backend crew => exact h
  | release => exact Context.sized_initial

/-- What one request does to an entry of the push constants. -/
theorem getElem?_pushConstants_perform (index : Nat) :
    (ledger.perform request).context.constants.pushConstants[index]?
      = if request.isRelease then (Bytes.zeros maxPush)[index]?
        else (request.pushed index).or ledger.context.constants.pushConstants[index]? := by
  cases request with
  | prepare p =>
      rw [context_perform_prepare, (ledger.context.tables_prepare p).1]
      rfl
  | setPushConstants bytes =>
      have hkept : ¬ (Context.Request.setPushConstants bytes : Context.Request ρ σ).isRelease :=
        Bool.false_ne_true
      rw [Ledger.perform, Context.setPushConstants_eq_ite, if_neg hkept, Context.Request.pushed]
      by_cases hfits : bytes.size ≤ maxPush
      · have hroom : 0 + bytes.size ≤ ledger.context.constants.pushConstants.size := by
          rw [h.pushConstants, Nat.zero_add]
          exact hfits
        have hentry := Bytes.getElem?_overwrite hroom index
        rw [if_pos (Nat.zero_le index), Nat.sub_zero] at hentry
        rw [if_pos hfits, if_pos hfits]
        exact hentry
      · rw [if_neg hfits, if_neg hfits, Option.none_or]
  | setDynamicOffsets offsets =>
      rw [Ledger.perform, Context.setDynamicOffsets_eq_ite]
      split <;> rfl
  | dispatch backend thread run => rfl
  | dispatchAll backend crew => rfl
  | release => rfl

/-- What one request does to an entry of the dynamic offset table. -/
theorem getElem?_dynamicOffsets_perform (index : Nat) :
    (ledger.perform request).context.constants.dynamicOffsets[index]?
      = if request.isRelease then (Array.replicate maxDynamic 0)[index]?
        else (request.placed index).or ledger.context.constants.dynamicOffsets[index]? := by
  cases request with
  | prepare p =>
      rw [context_perform_prepare, (ledger.context.tables_prepare p).2]
      rfl
  | setPushConstants bytes =>
      rw [Ledger.perform, Context.setPushConstants_eq_ite]
      split <;> rfl
  | setDynamicOffsets offsets =>
      have hkept : ¬ (Context.Request.setDynamicOffsets offsets : Context.Request ρ σ).isRelease :=
        Bool.false_ne_true
      rw [Ledger.perform, Context.setDynamicOffsets_eq_ite, if_neg hkept, Context.Request.placed]
      by_cases hfits : offsets.length ≤ maxDynamic
      · rw [if_pos hfits, if_pos hfits]
        refine Array.getElem?_mapIdx.trans ?_
        by_cases hindex : index < offsets.length
        · have hroom : index < ledger.context.constants.dynamicOffsets.size := by
            rw [h.dynamicOffsets]
            exact Nat.lt_of_lt_of_le hindex hfits
          simp [hindex, hroom]
        · simp [Nat.not_lt.mp hindex]
      · rw [if_neg hfits, if_neg hfits, Option.none_or]
  | dispatch backend thread run => rfl
  | dispatchAll backend crew => rfl
  | release => rfl

end

/-! ## Histories -/

/-- The requests since the context was last released, the last one first. -/
def sinceRelease (requests : List (Context.Request ρ σ)) : List (Context.Request ρ σ) :=
  requests.reverse.takeWhile fun request => !request.isRelease

/-- What was set last since then, if anything was, and otherwise what was there initially. -/
def lastSet {α : Type} (initially : α) (sets : Context.Request ρ σ → Option α)
    (requests : List (Context.Request ρ σ)) : α :=
  ((sinceRelease requests).findSome? sets).getD initially

theorem performAll_concat (requests : List (Context.Request ρ σ)) (request : Context.Request ρ σ) :
    performAll (requests ++ [request]) = (performAll requests).perform request := by
  rw [performAll, List.foldl_concat, performAll]

theorem lastSet_concat {α : Type} (initially : α) (sets : Context.Request ρ σ → Option α)
    (requests : List (Context.Request ρ σ)) (request : Context.Request ρ σ) :
    lastSet initially sets (requests ++ [request]) = if request.isRelease then initially
      else (sets request).getD (lastSet initially sets requests) := by
  rw [lastSet, sinceRelease, List.reverse_concat, List.takeWhile_cons]
  cases request.isRelease with
  | true => rfl
  | false =>
      rw [Bool.not_false, if_pos rfl, if_neg Bool.false_ne_true, List.findSome?_cons]
      cases sets request <;> rfl

theorem sized_performAll (requests : List (Context.Request ρ σ)) :
    (performAll requests).context.Sized :=
  List.foldlRecOn requests Ledger.perform (motive := fun ledger => ledger.context.Sized)
    Context.sized_initial fun _ h request _ => Sized.perform h request

/-- A table that every request changes where it reaches, and a release clears, holds what was set
last. -/
theorem getElem?_performAll_of_perform {α : Type} {initially : α} (table : Context ρ σ → Array α)
    {sets : Nat → Context.Request ρ σ → Option α} {index : Nat}
    (hinitial : (table .initial)[index]? = some initially)
    (hperform : ∀ ledger : Ledger ρ σ, ledger.context.Sized → ∀ request,
      (table (ledger.perform request).context)[index]?
        = if request.isRelease then (table .initial)[index]?
          else (sets index request).or (table ledger.context)[index]?)
    (requests : List (Context.Request ρ σ)) :
    (table (performAll requests).context)[index]?
      = some (lastSet initially (sets index) requests) := by
  -- on the last request, as what is set last is what the history ends with
  induction requests using List.reverseRecOn with
  | nil => exact hinitial
  | append_singleton requests request ih =>
      rw [performAll_concat, hperform _ (sized_performAll requests), lastSet_concat, ih, hinitial]
      split
      · rfl
      · cases sets index request <;> rfl

/-! ## The law -/

/-- What the tables of a context hold, and what the next request does to them and to everything
else. -/
structure KeepsTables (requests : List (Context.Request ρ σ)) : Prop where
  sized : (performAll requests).context.Sized
  /-- A byte of the push constants is that of the last input, since the context was last released,
  that was long enough to have one and was taken. -/
  pushConstants : ∀ index < maxPush,
    (performAll requests).context.constants.pushConstants[index]?
      = some (lastSet 0 (Context.Request.pushed index) requests)
  dynamicOffsets : ∀ index < maxDynamic,
    (performAll requests).context.constants.dynamicOffsets[index]?
      = some (lastSet 0 (Context.Request.placed index) requests)
  /-- What is longer than the table is refused. -/
  setPushConstants_eq_error_iff : ∀ bytes refusal,
    ((performAll requests).context.setPushConstants bytes).1 = .error refusal
      ↔ maxPush < bytes.size ∧ refusal = .pushConstants bytes.size maxPush
  setDynamicOffsets_eq_error_iff : ∀ offsets refusal,
    ((performAll requests).context.setDynamicOffsets offsets).1 = .error refusal
      ↔ maxDynamic < offsets.length ∧ refusal = .dynamicOffsets offsets.length maxDynamic
  /-- And leaves the context as it was. -/
  setPushConstants_of_error : ∀ bytes refusal,
    ((performAll requests).context.setPushConstants bytes).1 = .error refusal →
    ((performAll requests).context.setPushConstants bytes).2 = (performAll requests).context
  setDynamicOffsets_of_error : ∀ offsets refusal,
    ((performAll requests).context.setDynamicOffsets offsets).1 = .error refusal →
    ((performAll requests).context.setDynamicOffsets offsets).2 = (performAll requests).context
  /-- What is taken changes this table, and no other field. -/
  setPushConstants_frame : ∀ bytes, ∃ pushConstants,
    ((performAll requests).context.setPushConstants bytes).2
      = (performAll requests).context.withTables
        (performAll requests).context.constants.dynamicOffsets pushConstants
  setDynamicOffsets_frame : ∀ offsets, ∃ dynamicOffsets,
    ((performAll requests).context.setDynamicOffsets offsets).2
      = (performAll requests).context.withTables dynamicOffsets
        (performAll requests).context.constants.pushConstants
  /-- Preparing, in vain or not, and dispatching leave both tables. -/
  kept : ∀ request : Context.Request ρ σ, request.setsTable = false → request.isRelease = false →
    ((performAll requests).perform request).context.constants.pushConstants
      = (performAll requests).context.constants.pushConstants
    ∧ ((performAll requests).perform request).context.constants.dynamicOffsets
      = (performAll requests).context.constants.dynamicOffsets

/-- **Tables last.** Whatever is asked of a new context, and whether it is done or refused, an
entry of its tables is the one that was set last since the context was released, by an input that
reached it and was taken, or zero if there was none. Inputs are refused only for their length, and
change their own table only, which nothing else does. -/
theorem keepsTables_performAll (requests : List (Context.Request ρ σ)) : KeepsTables requests where
  sized := sized_performAll requests
  pushConstants index hindex :=
    getElem?_performAll_of_perform (fun context => context.constants.pushConstants)
      (Array.getElem?_replicate.trans (if_pos hindex))
      (fun _ hsized request => getElem?_pushConstants_perform hsized request index) requests
  dynamicOffsets index hindex :=
    getElem?_performAll_of_perform (fun context => context.constants.dynamicOffsets)
      (Array.getElem?_replicate.trans (if_pos hindex))
      (fun _ hsized request => getElem?_dynamicOffsets_perform hsized request index) requests
  setPushConstants_eq_error_iff bytes refusal := by
    rw [Context.setPushConstants_eq_ite]
    exact Context.fst_ite_eq_error_iff
  setDynamicOffsets_eq_error_iff offsets refusal := by
    rw [Context.setDynamicOffsets_eq_ite]
    exact Context.fst_ite_eq_error_iff
  setPushConstants_of_error bytes refusal herror := by
    rw [Context.setPushConstants_eq_ite] at herror ⊢
    exact Context.snd_ite_of_error herror
  setDynamicOffsets_of_error offsets refusal herror := by
    rw [Context.setDynamicOffsets_eq_ite] at herror ⊢
    exact Context.snd_ite_of_error herror
  setPushConstants_frame bytes := by
    rw [Context.setPushConstants_eq_ite]
    split
    · exact ⟨_, rfl⟩
    · exact ⟨(performAll requests).context.constants.pushConstants, rfl⟩
  setDynamicOffsets_frame offsets := by
    rw [Context.setDynamicOffsets_eq_ite]
    split
    · exact ⟨_, rfl⟩
    · exact ⟨(performAll requests).context.constants.dynamicOffsets, rfl⟩
  kept request hsets hrelease := by
    cases request with
    | prepare p =>
        rw [context_perform_prepare]
        exact (performAll requests).context.tables_prepare p
    | setPushConstants bytes => cases hsets
    | setDynamicOffsets offsets => cases hsets
    | dispatch backend thread run => exact ⟨rfl, rfl⟩
    | dispatchAll backend crew => exact ⟨rfl, rfl⟩
    | release => cases hrelease

-- a shorter input lies over a longer one, one that is refused over nothing, a preparation in
-- between or not
example :
    let set : Nat → UInt8 → Context.Request Unit Unit := fun length byte =>
      .setPushConstants (Array.replicate length byte)
    let prepare : Context.Request Unit Unit := .prepare
      ⟨1, idleProgram ⟨0, false, 0, ⟨1, 1, 1⟩⟩, #[], ⟨1, 1, 1⟩⟩
    let requests := [set 9 7, .release, set 4 1, prepare, set 2 2, set 129 3]
    (performAll requests).context.constants.pushConstants.extract 0 6 = #[2, 2, 1, 1, 0, 0]
    ∧ (List.range 6).map (fun index => lastSet 0 (Context.Request.pushed index) requests)
      = [2, 2, 1, 1, 0, 0] := by
  decide +kernel

end Ledger

end GridDispatch
