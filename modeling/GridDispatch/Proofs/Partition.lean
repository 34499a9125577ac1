/-
Every workgroup is run by one thread.

The share of a thread is a progression: it starts with the thread's own index, goes on by the
number of threads, and ends below the volume of the grid. So a workgroup belongs to the thread
that its number leaves as a remainder, and no other; that is the whole argument for disjointness
and coverage (`Prepared.mem_workgroupsFor_iff`). Decoding is a bijection between the numbers below
the volume and the positions inside the grid, by `Numbering`, and this carries the statement from
numbers to workgroups. Grids with a side of length zero have volume zero and no shares.

The second half is about arithmetic. A thread walks through its share with an index that could go
round in its word and divisions that could meet a zero. Neither happens, as every index that is
decoded lies below the volume (`decode_eq`, `walk_eq`): an index behind the last one is never
looked at, and a volume that is not zero has no side of length zero.
-/
import GridDispatch.Proofs.Numbering
import GridDispatch.Proofs.Prepared

set_option autoImplicit false

namespace GridDispatch

namespace Context

variable {ρ σ : Type} {context : Context ρ σ} {threads thread place : Nat}
  {program : Program ρ σ} {grid c : Coord}

/-! ## Places of a share -/

theorem stride_pos (context : Context ρ σ) : 0 < context.stride :=
  Nat.lt_of_lt_of_le Nat.zero_lt_one (Nat.le_max_right _ _)

/-- A share has a place exactly if the index there is below the number of workgroups. -/
theorem lt_shareSize_iff (context : Context ρ σ) (thread place : Nat) :
    place < context.shareSize thread
      ↔ thread + place * context.stride < context.workgroups := by
  have hstride := context.stride_pos
  have hplace : place < context.shareSize thread
      ↔ (place + 1) * context.stride
        ≤ context.workgroups - thread + context.stride - 1 := by
    rw [shareSize]
    exact Nat.le_div_iff_mul_le hstride
  rw [hplace, Nat.succ_mul]
  omega

theorem length_workgroupsFor (context : Context ρ σ) (thread : Nat) :
    (context.workgroupsFor thread).length = context.shareSize thread := by
  rw [workgroupsFor, List.length_map, List.length_range]

theorem map_linear_workgroupsFor (context : Context ρ σ) (thread : Nat) :
    (context.workgroupsFor thread).map context.grid.linear
      = (List.range (context.shareSize thread)).map
          fun place => thread + place * context.stride := by
  rw [workgroupsFor, List.map_map]
  apply List.map_congr_left
  intro place _
  exact Coord.linear_ofLinear context.grid _

theorem nodup_workgroupsFor (context : Context ρ σ) (thread : Nat) :
    (context.workgroupsFor thread).Nodup := by
  apply List.Nodup.of_map context.grid.linear
  rw [map_linear_workgroupsFor]
  refine List.Nodup.map (fun i j hij => ?_) List.nodup_range
  have hmul : i * context.stride = j * context.stride := Nat.add_left_cancel hij
  exact Nat.eq_of_mul_eq_mul_right context.stride_pos hmul

namespace Prepared

variable (h : context.Prepared threads program grid)

include h

theorem stride_eq : context.stride = threads := by
  rw [stride, h.threads_eq]
  exact Nat.max_eq_left h.threads_pos

theorem lt_length_iff (thread place : Nat) :
    place < (context.workgroupsFor thread).length
      ↔ thread + place * threads < grid.volume := by
  rw [length_workgroupsFor, lt_shareSize_iff, h.stride_eq, h.workgroups_eq]

/-- The workgroup at a place is the one whose number is so many strides behind the index of the
thread. -/
theorem getElem?_workgroupsFor_iff (thread place : Nat) (c : Coord) :
    (context.workgroupsFor thread)[place]? = some c
      ↔ c.inside grid ∧ grid.linear c = thread + place * threads := by
  have hlt := h.lt_length_iff thread place
  have hat : context.shareAt thread place = Coord.ofLinear grid (thread + place * threads) := by
    rw [shareAt, h.grid_eq, h.stride_eq]
  rw [Coord.inside_and_linear_eq_iff, ← hlt, ← hat]
  constructor
  · intro hsome
    obtain ⟨hplace, hc⟩ := List.getElem?_eq_some_iff.mp hsome
    refine ⟨hplace, ?_⟩
    simpa [workgroupsFor] using hc
  · rintro ⟨hplace, rfl⟩
    rw [List.getElem?_eq_getElem hplace]
    simp [workgroupsFor]

/-- A workgroup belongs to the thread that its number leaves as a remainder. -/
theorem mem_workgroupsFor_iff (hthread : thread < threads) :
    c ∈ context.workgroupsFor thread ↔ c.inside grid ∧ grid.linear c % threads = thread := by
  rw [List.mem_iff_getElem?]
  constructor
  · rintro ⟨place, hplace⟩
    obtain ⟨hinside, hlinear⟩ := (h.getElem?_workgroupsFor_iff thread place c).mp hplace
    refine ⟨hinside, ?_⟩
    rw [hlinear, Nat.add_mul_mod_self_right, Nat.mod_eq_of_lt hthread]
  · rintro ⟨hinside, hmod⟩
    have hlinear : grid.linear c = thread + grid.linear c / threads * threads := by
      have hdiv := Nat.mod_add_div' (grid.linear c) threads
      rw [hmod] at hdiv
      exact hdiv.symm
    exact ⟨grid.linear c / threads,
      (h.getElem?_workgroupsFor_iff thread _ c).mpr ⟨hinside, hlinear⟩⟩

/-- No two threads run the same workgroup, and none runs one twice. -/
theorem nodup_flatMap_workgroupsFor :
    ((List.range threads).flatMap context.workgroupsFor).Nodup := by
  rw [List.nodup_flatMap]
  refine ⟨fun thread _ => context.nodup_workgroupsFor thread, ?_⟩
  apply List.nodup_range.pairwise_of_forall_ne
  intro t ht u hu hne c hct hcu
  have hmodt := (h.mem_workgroupsFor_iff (List.mem_range.mp ht)).mp hct
  have hmodu := (h.mem_workgroupsFor_iff (List.mem_range.mp hu)).mp hcu
  exact hne (hmodt.2.symm.trans hmodu.2)

/-- Together the threads run the workgroups of the grid. -/
theorem mem_flatMap_workgroupsFor (c : Coord) :
    c ∈ (List.range threads).flatMap context.workgroupsFor ↔ c.inside grid := by
  rw [List.mem_flatMap]
  constructor
  · rintro ⟨thread, hthread, hmem⟩
    exact ((h.mem_workgroupsFor_iff (List.mem_range.mp hthread)).mp hmem).1
  · intro hinside
    have hthread : grid.linear c % threads < threads := Nat.mod_lt _ h.threads_pos
    exact ⟨_, List.mem_range.mpr hthread, (h.mem_workgroupsFor_iff hthread).mpr ⟨hinside, rfl⟩⟩

/-- The shares of two threads differ by one workgroup at most. -/
theorem length_workgroupsFor_le {other : Nat} (hother : other < threads) (thread : Nat) :
    (context.workgroupsFor thread).length ≤ (context.workgroupsFor other).length + 1 := by
  rw [length_workgroupsFor, length_workgroupsFor, shareSize, shareSize, h.stride_eq,
    ← Nat.add_div_right _ h.threads_pos]
  apply Nat.div_le_div_right
  omega

end Prepared

/-! ## Walking -/

theorem stepCount_eq (length : Nat) {stride : Nat} (hstride : 0 < stride) :
    stepCount length stride = (length + stride - 1) / stride := by
  have hsplit := Nat.div_add_mod length stride
  have hmod := Nat.mod_lt length hstride
  rw [stepCount]
  split
  · next hzero =>
      -- the steps are whole, and rounding up adds less than one more
      have hlast : (stride - 1 + stride * (length / stride)) / stride = length / stride := by
        rw [Nat.add_mul_div_left _ _ hstride, Nat.div_eq_of_lt (by omega), Nat.zero_add]
      rw [← hlast, Nat.add_zero]
      congr 1
      omega
  · next hpos =>
      have hlast : (length % stride - 1 + stride * (length / stride + 1)) / stride
          = length / stride + 1 := by
        rw [Nat.add_mul_div_left _ _ hstride, Nat.div_eq_of_lt (by omega), Nat.zero_add]
      rw [← hlast, Nat.mul_succ]
      congr 1
      omega

/-- Indices that fit their word are the ones of the progression. -/
theorem indicesFrom_eq (stride count : Nat) : ∀ index : Nat,
    (∀ k < count, index + k * stride < word) →
    indicesFrom stride index count = (List.range count).map fun k => index + k * stride := by
  induction count with
  | zero => exact fun _ _ => rfl
  | succ count ih =>
      intro index hfits
      rw [indicesFrom, List.range_succ_eq_map, List.map_cons, List.map_map, Nat.zero_mul,
        Nat.add_zero]
      refine congrArg _ ?_
      by_cases hlast : count = 0
      -- the index behind the last one may have gone round
      · subst hlast
        rfl
      · have hnext : index + stride < word := by
          have hone := hfits 1 (by omega)
          rwa [Nat.one_mul] at hone
        rw [Nat.mod_eq_of_lt hnext, ih (index + stride) fun k hk => ?_]
        · apply List.map_congr_left
          intro k _
          simp only [Function.comp_apply, Nat.succ_eq_add_one, Nat.succ_mul]
          omega
        · have hk1 := hfits (k + 1) (by omega)
          rw [Nat.succ_mul] at hk1
          omega

/-- Decoding an index below the volume divides by no zero, leaves no word and cuts nothing off. -/
theorem decode_eq {index : Nat}
    (hsides : grid.x ≤ signedMax ∧ grid.y ≤ signedMax ∧ grid.z ≤ signedMax)
    (hword : grid.volume < word) (hindex : index < grid.volume) :
    decode grid index = .ok (Coord.ofLinear grid index) := by
  obtain ⟨hx, hy, hz⟩ := hsides
  obtain ⟨hxpos, hypos, -⟩ := Coord.sides_pos_of_volume_pos (Nat.zero_lt_of_lt hindex)
  have hindexLt : index < word := Nat.lt_trans hindex hword
  have hlayer : grid.x * grid.y < word :=
    Nat.lt_of_le_of_lt (Nat.mul_le_mul hx hy) (by decide)
  -- what a coordinate accounts for is never more than what is left of the index
  have hbefore : index / (grid.x * grid.y) * grid.x * grid.y ≤ index := by
    rw [Nat.mul_assoc]
    exact Nat.div_mul_le_self _ _
  have hrows : index / (grid.x * grid.y) * grid.x ≤ index :=
    Nat.le_trans (Nat.le_mul_of_pos_right _ hypos) hbefore
  have hrow : (index - index / (grid.x * grid.y) * grid.x * grid.y) / grid.x * grid.x
      ≤ index - index / (grid.x * grid.y) * grid.x * grid.y := Nat.div_mul_le_self _ _
  have hrowLt : (index - index / (grid.x * grid.y) * grid.x * grid.y) / grid.x * grid.x < word :=
    Nat.lt_of_le_of_lt (Nat.le_trans hrow (Nat.sub_le _ _)) hindexLt
  -- the coordinates lie inside the grid, whose sides fit a lane
  have hfits : ∀ {n side : Nat}, n < side → side ≤ signedMax → n % lane = n := by
    intro n side hn hside
    have hlane : signedMax < lane := by decide
    exact Nat.mod_eq_of_lt (by omega)
  obtain ⟨hcx, hcy, hcz⟩ := Coord.inside_ofLinear hindex
  have hmodx := hfits hcx hx
  have hmody := hfits hcy hy
  have hmodz := hfits hcz hz
  simp only [Coord.ofLinear] at hmodx hmody hmodz
  simp only [decode, Coord.ofLinear, bind, Except.bind, pure, Except.pure,
    Checked.mul_eq_ok hlayer, Checked.div_eq_ok (Nat.mul_pos hxpos hypos),
    Checked.mul_eq_ok (Nat.lt_of_le_of_lt hrows hindexLt),
    Checked.mul_eq_ok (Nat.lt_of_le_of_lt hbefore hindexLt), Checked.sub_eq_ok hbefore,
    Checked.div_eq_ok hxpos, Checked.mul_eq_ok hrowLt, Checked.sub_eq_ok hrow, hmodx, hmody, hmodz]

/-- A thread finds its share. -/
theorem Prepared.walk_eq (h : context.Prepared threads program grid) (thread : Nat) :
    context.walk thread = .ok (context.workgroupsFor thread) := by
  have hbelow : ∀ place < context.shareSize thread,
      thread + place * context.stride < grid.volume := by
    intro place hplace
    rw [← h.workgroups_eq]
    exact (context.lt_shareSize_iff thread place).mp hplace
  have hfits : ∀ place < context.shareSize thread, thread + place * context.stride < word :=
    fun place hplace => Nat.lt_trans (hbelow place hplace) h.workgroups_lt
  have hcount : stepCount (context.workgroups - thread) context.stride
      = context.shareSize thread := stepCount_eq _ context.stride_pos
  rw [walk, hcount, indicesFrom_eq _ _ _ hfits, h.grid_eq,
    mapM_eq_ok (g := Coord.ofLinear grid), List.map_map]
  · rw [workgroupsFor]
    refine congrArg _ (List.map_congr_left fun place _ => ?_)
    rw [shareAt, h.grid_eq, Function.comp_apply]
  · intro index hmem
    obtain ⟨place, hplace, rfl⟩ := List.mem_map.mp hmem
    exact decode_eq h.side_le h.workgroups_lt (hbelow place (List.mem_range.mp hplace))

/-- Without a program there is nothing to find, and nothing is divided. -/
theorem Reachable.workgroupsFor_eq_nil (h : context.Reachable) (hprogram : context.program = none)
    (thread : Nat) : context.workgroupsFor thread = [] ∧ context.walk thread = .ok [] := by
  have hnone : context.workgroups = 0 := h.workgroups_eq_zero hprogram
  have hsize : context.shareSize thread = 0 := by
    by_contra hpos
    have hfirst := (context.lt_shareSize_iff thread 0).mp (Nat.pos_of_ne_zero hpos)
    rw [hnone] at hfirst
    exact Nat.not_lt_zero _ hfirst
  have hcount : stepCount (context.workgroups - thread) context.stride = 0 :=
    (stepCount_eq _ context.stride_pos).trans hsize
  refine ⟨?_, ?_⟩
  · rw [workgroupsFor, hsize, List.range_zero, List.map_nil]
  · rw [walk, hcount]
    rfl

/-! ## What is due -/

/-- What a context asks a program to begin. -/
def Due (context : Context ρ σ) (workgroup : Coord) (part : Subgroups) : Prop :=
  workgroup.inside context.grid ∧ part ∈ context.coroutineParts

/-- The coroutines of a share are due. -/
theorem Prepared.due (h : context.Prepared threads program grid) {place index : Nat}
    (hplace : place < context.shareSize thread) (hindex : index < context.coroutineCount) :
    context.Due (context.shareAt thread place) (context.coroutinePart index) := by
  have hbelow := (context.lt_shareSize_iff thread place).mp hplace
  rw [h.workgroups_eq, ← h.grid_eq] at hbelow
  exact ⟨Coord.inside_ofLinear hbelow, List.mem_map_of_mem (List.mem_range.mpr hindex)⟩

/-! ## The partition -/

/-- The workgroups of a grid are dealt out to so many threads. -/
structure DealsOut (context : Context ρ σ) (threads : Nat) (grid : Coord) : Prop where
  /-- No workgroup is dealt out twice, and exactly those of the grid are. -/
  nodup : ((List.range threads).flatMap context.workgroupsFor).Nodup
  mem_iff : ∀ c, c ∈ (List.range threads).flatMap context.workgroupsFor ↔ c.inside grid
  /-- A thread runs, in this order, the workgroups with the numbers `thread`,
  `thread + threads`, `thread + 2 * threads`, .. below the volume. -/
  at_iff : ∀ thread place c, (context.workgroupsFor thread)[place]? = some c
    ↔ c.inside grid ∧ grid.linear c = thread + place * threads
  lt_length_iff : ∀ thread place, place < (context.workgroupsFor thread).length
    ↔ thread + place * threads < grid.volume
  /-- Nobody has more than one workgroup more than another. -/
  length_le : ∀ thread < threads, ∀ other < threads,
    (context.workgroupsFor thread).length ≤ (context.workgroupsFor other).length + 1
  /-- Walking through a share, in checked arithmetic, gives the share. -/
  walk_eq : ∀ thread, context.walk thread = .ok (context.workgroupsFor thread)

/-- **Every workgroup is run by exactly one thread.** A preparation that succeeds deals the grid
out to the threads, whatever their number, and a context without a program has no shares. -/
theorem dealsOut_of_prepare :
    (∀ (before after : Context ρ σ) (threads : Nat) (program : Program ρ σ) (set : Bytes)
        (grid : Coord) (events : List Event),
      before.prepare threads program set grid = (.ok events, after) →
        after.DealsOut threads grid)
    ∧ (∀ context : Context ρ σ, context.Reachable → context.program = none → ∀ thread,
        context.workgroupsFor thread = [] ∧ context.walk thread = .ok [])
    ∧ ∀ (context : Context ρ σ) (thread : Nat),
        context.release.workgroupsFor thread = [] ∧ context.release.walk thread = .ok [] := by
  refine ⟨?_, fun context hreachable hprogram => hreachable.workgroupsFor_eq_nil hprogram, ?_⟩
  · intro before after threads program set grid events hprepare
    have h := prepared_of_prepare hprepare
    exact ⟨h.nodup_flatMap_workgroupsFor, h.mem_flatMap_workgroupsFor,
      h.getElem?_workgroupsFor_iff, h.lt_length_iff,
      fun thread _ other hother => h.length_workgroupsFor_le hother thread, h.walk_eq⟩
  · intro context thread
    have hfreed : (context.release : Context ρ σ).Reachable := Reachable.initial
    exact hfreed.workgroupsFor_eq_nil rfl thread

/-- Twelve workgroups on five threads, and a context that was never prepared. -/
theorem dealsOut_of_prepare_twelve :
    let prepared : Context Unit Unit :=
      (initial.prepare 5 (idleProgram (.ofSize ⟨8, 1, 1⟩)) #[] ⟨3, 2, 2⟩).2
    (initial.prepare 5 (idleProgram (.ofSize ⟨8, 1, 1⟩)) #[] ⟨3, 2, 2⟩ = (.ok [], prepared)
      ∧ prepared.DealsOut 5 ⟨3, 2, 2⟩)
    ∧ ((initial : Context Unit Unit).Reachable ∧ (initial : Context Unit Unit).program = none
      ∧ (initial : Context Unit Unit).workgroupsFor 7 = []) := by
  have hprepare : initial.prepare 5 (idleProgram (.ofSize ⟨8, 1, 1⟩)) #[] ⟨3, 2, 2⟩
      = (.ok [], (initial.prepare 5 (idleProgram (.ofSize ⟨8, 1, 1⟩)) #[] ⟨3, 2, 2⟩).2) := rfl
  refine ⟨⟨hprepare, dealsOut_of_prepare.1 _ _ _ _ _ _ _ hprepare⟩, .initial, rfl, ?_⟩
  exact (dealsOut_of_prepare.2.1 _ .initial rfl 7).1

/-- The third of five threads runs the workgroups with the numbers two and seven. -/
example : (initial.prepare 5 (idleProgram (.ofSize ⟨8, 1, 1⟩)) #[] ⟨3, 2, 2⟩).2.workgroupsFor 2
    = [⟨2, 0, 0⟩, ⟨1, 0, 1⟩] := by decide

end Context

end GridDispatch
