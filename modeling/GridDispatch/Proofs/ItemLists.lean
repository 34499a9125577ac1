/-
Lists of items in attributes.

The arguments of an attribute are read from left to right, the path of an item by one reader and
what may follow it by another. Here is what can be written there, without readers: the path of an
item is names with separators between them (`ItemPath.Written`), a list is items with commas
between them and perhaps one at the end (`Listed`), and which items there are is up to the attribute
(`Entry`).

Reading a list accepts what is written like this (`forAllItems_of_listed`) and nothing else
(`listed_of_forAllItems`), and folds over the items in order. It has to be seen for this that the
reader of paths stops where a path has to end (`itemPath_of_written`): it goes on as long as
separators follow, and nothing that may come after an item begins with one. What an attribute
accepts after the path is left open. It has to accept its items, whatever was read before, and
nothing else (`Accepts`).
-/
import GridDispatch.Declaration.Attribute
import Mathlib.Data.List.Forall2

set_option autoImplicit false

namespace GridDispatch

namespace Declaration

/-! ## Paths -/

/-- The tokens of names, each after a path separator. -/
inductive Continued : List (List Char) → List Token → Prop where
  | nil : Continued [] []
  | cons {segments : List (List Char)} {tokens : List Token} (joint : Bool) (name : List Char) :
      Continued segments tokens →
      Continued (name :: segments) (.punct ':' true :: .punct ':' joint :: .ident name :: tokens)

/-- The tokens of the path of an item. -/
inductive ItemPath.Written : ItemPath → List Token → Prop where
  | plain {segments : List (List Char)} {tokens : List Token} (name : List Char) :
      Continued segments tokens → Written ⟨false, name :: segments⟩ (.ident name :: tokens)
  | leading {name : List Char} {segments : List (List Char)} {tokens : List Token} :
      Continued (name :: segments) tokens → Written ⟨true, name :: segments⟩ tokens

section

variable {segments : List (List Char)} {read rest tokens : List Token}

theorem afterSeparator?_ident (name : List Char) (rest : List Token) :
    afterSeparator? (.ident name :: rest) = none :=
  rfl

theorem afterSeparator?_separator (joint : Bool) (rest : List Token) :
    afterSeparator? (.punct ':' true :: .punct ':' joint :: rest) = some rest :=
  rfl

theorem moreSegments_of_continued (h : Continued segments read)
    (hend : afterSeparator? rest = none) : moreSegments (read ++ rest) = .ok (segments, rest) := by
  induction h with
  | nil =>
      rw [List.nil_append]
      unfold moreSegments
      split
      · cases hend
      · cases hend
      · rfl
  | cons joint name _ ih => simp only [List.cons_append, moreSegments, ih]

theorem continued_of_moreSegments (h : moreSegments tokens = .ok (segments, rest)) :
    ∃ read, Continued segments read ∧ tokens = read ++ rest ∧ afterSeparator? rest = none := by
  fun_induction moreSegments tokens generalizing segments with
  | case1 joint name tokens problem hproblem ih => cases h
  | case2 joint name tokens more after hmore ih =>
      cases h
      obtain ⟨read, hread, rfl, hend⟩ := ih hmore
      exact ⟨_, .cons joint name hread, rfl, hend⟩
  | case3 joint tokens hname => cases h
  | case4 tokens hmore hseparator =>
      cases h
      refine ⟨[], .nil, rfl, ?_⟩
      unfold afterSeparator?
      split
      · next joint after => exact (hseparator joint after rfl).elim
      · rfl

theorem itemPath_of_written {path : ItemPath} (h : path.Written read)
    (hend : afterSeparator? rest = none) : itemPath (read ++ rest) = .ok (path, rest) := by
  cases h with
  | plain name hread =>
      simp only [itemPath, List.cons_append, afterSeparator?_ident, Option.getD_none,
        Option.isSome_none, moreSegments_of_continued hread hend]
  | leading hread =>
      cases hread with
      | cons joint name hread =>
          simp only [itemPath, List.cons_append, afterSeparator?_separator, Option.getD_some,
            Option.isSome_some, moreSegments_of_continued hread hend]

theorem written_of_itemPath {path : ItemPath} (h : itemPath tokens = .ok (path, rest)) :
    ∃ read, path.Written read ∧ tokens = read ++ rest ∧ afterSeparator? rest = none := by
  unfold itemPath at h
  dsimp only at h
  split at h
  · cases h
  · next name after hafter =>
      split at h
      · cases h
      · next segments more hmore =>
          cases h
          obtain ⟨read, hread, rfl, hend⟩ := continued_of_moreSegments hmore
          cases hseparator : afterSeparator? tokens with
          | none =>
              rw [hseparator, Option.getD_none] at hafter
              exact ⟨_, .plain name hread, hafter, hend⟩
          | some following =>
              rw [hseparator, Option.getD_some] at hafter
              obtain ⟨joint, rfl⟩ : ∃ joint,
                  tokens = .punct ':' true :: .punct ':' joint :: following := by
                unfold afterSeparator? at hseparator
                split at hseparator
                · next joint _ =>
                    cases hseparator
                    exact ⟨joint, rfl⟩
                · cases hseparator
              exact ⟨_, .leading (.cons joint name hread), by rw [hafter]; rfl, hend⟩
  · cases h

end

/-! ## Lists -/

/-- A list of items, each from its tokens. After each item but the last a comma follows, and after
the last there may be one. -/
inductive Listed {ε : Type} (Entry : ε → List Token → Prop) : List ε → List Token → Prop where
  | nil : Listed Entry [] []
  | last {entry : ε} {read : List Token} : Entry entry read → Listed Entry [entry] read
  | cons {entry : ε} {entries : List ε} {read rest : List Token} (joint : Bool) :
      Entry entry read → Listed Entry entries rest →
      Listed Entry (entry :: entries) (read ++ .punct ',' joint :: rest)

/-- What comes where an item has to be over. -/
def EndsItem (rest : List Token) : Prop :=
  rest = [] ∨ ∃ joint more, rest = .punct ',' joint :: more

theorem EndsItem.afterSeparator?_eq {rest : List Token} (h : EndsItem rest) :
    afterSeparator? rest = none := by
  obtain rfl | ⟨joint, more, rfl⟩ := h
  · rfl
  · rfl

/-- The reader of items, each of which begins with a path. -/
abbrev ItemReader (α : Type) :=
  α → ItemPath → List Token → Except Problem (α × List Token)

/-- A reader that accepts items of one kind where they are over, and takes the next step with
each. Where it stops, and why, does not depend on the steps before. -/
structure Accepts {α ε : Type} (item : ItemReader α) (Entry : ε → List Token → Prop)
    (step : α → ε → α) : Prop where
  complete : ∀ {entry read rest}, Entry entry read → EndsItem rest → ∃ path more,
    itemPath (read ++ rest) = .ok (path, more)
      ∧ ∀ state, item state path more = .ok (step state entry, rest)
  sound : ∀ {tokens path more state after rest}, itemPath tokens = .ok (path, more) →
    item state path more = .ok (after, rest) → EndsItem rest →
    ∃ entry read, Entry entry read ∧ tokens = read ++ rest ∧ after = step state entry
  error_congr : ∀ {path more state problem}, item state path more = .error problem →
    ∀ state', item state' path more = .error problem
  ok_congr : ∀ {path more state after rest}, item state path more = .ok (after, rest) →
    ∀ state', ∃ after', item state' path more = .ok (after', rest)

/-- Goes through a list of items, if there are any. -/
def forAllItems {α : Type} (item : ItemReader α) (state : α) : List Token → Except Problem α
  | [] => .ok state
  | token :: rest => forItems item state (token :: rest)

section

variable {α ε : Type} {item : ItemReader α} {Entry : ε → List Token → Prop} {step : α → ε → α}

/-- One item, and those after it. -/
theorem forItems_eq (item : ItemReader α) (state : α) (tokens : List Token) :
    forItems item state tokens = match itemPath tokens with
      | .error problem => .error problem
      | .ok (path, more) =>
        match item state path more with
        | .error problem => .error problem
        | .ok (after, []) => .ok after
        | .ok (after, .punct ',' _ :: rest) =>
          if rest.length < tokens.length then forAllItems item after rest
          else .error .commaExpected
        | .ok (_, _ :: _) => .error .commaExpected := by
  rw [forItems]
  cases hpath : itemPath tokens with
  | error problem => rfl
  | ok read =>
      obtain ⟨path, more⟩ := read
      have hpos : 0 < tokens.length := by
        cases tokens with
        | nil => cases hpath
        | cons => exact Nat.succ_pos _
      dsimp only
      cases item state path more with
      | error problem => rfl
      | ok outcome =>
          obtain ⟨after, rest⟩ := outcome
          cases rest with
          | nil => rfl
          | cons first rest =>
              cases first with
              | ident name => rfl
              | literal text kind => rfl
              | group delimiter content => rfl
              | punct c joint =>
                  by_cases hcomma : c = ','
                  · subst hcomma
                    -- a comma at the end has a case of its own, and leaves an empty list
                    cases rest with
                    | nil => exact (if_pos hpos).symm
                    | cons second rest => rfl
                  · simp [hcomma]

/-- A list that begins with an item is not empty. -/
theorem forAllItems_eq_forItems {tokens more : List Token} {path : ItemPath}
    (hpath : itemPath tokens = .ok (path, more)) (item : ItemReader α) (state : α) :
    forAllItems item state tokens = forItems item state tokens := by
  cases tokens with
  | nil => cases hpath
  | cons => rfl

/-- A reader that accepts its items accepts a list of them, and takes its steps in order. -/
theorem forAllItems_of_listed (h : Accepts item Entry step) {entries : List ε}
    {tokens : List Token} (hlisted : Listed Entry entries tokens) (state : α) :
    forAllItems item state tokens = .ok (entries.foldl step state) := by
  induction hlisted generalizing state with
  | nil => rfl
  | @last entry read hentry =>
      obtain ⟨path, more, hpath, hitem⟩ := h.complete hentry (.inl rfl)
      rw [List.append_nil] at hpath
      simp only [forAllItems_eq_forItems hpath, forItems_eq, hpath, hitem, List.foldl_cons,
        List.foldl_nil]
  | @cons entry entries read rest joint hentry _ ih =>
      obtain ⟨path, more, hpath, hitem⟩ := h.complete hentry (.inr ⟨joint, rest, rfl⟩)
      have hshorter : rest.length < (read ++ .punct ',' joint :: rest).length := by
        rw [List.length_append, List.length_cons]
        omega
      simp only [forAllItems_eq_forItems hpath, forItems_eq, hpath, hitem, if_pos hshorter, ih,
        List.foldl_cons]

/-- And nothing but lists. -/
theorem listed_of_forAllItems (h : Accepts item Entry step) {tokens : List Token}
    {state after : α} (hread : forAllItems item state tokens = .ok after) :
    ∃ entries, Listed Entry entries tokens ∧ after = entries.foldl step state := by
  -- on the number of tokens, as what is left after a comma is a list again
  induction hlength : tokens.length using Nat.strongRecOn generalizing tokens state with
  | ind length ih =>
      subst hlength
      cases htokens : tokens with
      | nil =>
          subst htokens
          cases hread
          exact ⟨[], .nil, rfl⟩
      | cons first following =>
          rw [← htokens]
          have hforItems : forItems item state tokens = .ok after := by
            rw [htokens] at hread ⊢
            exact hread
          rw [forItems_eq] at hforItems
          split at hforItems
          · cases hforItems
          · next path more hpath =>
              split at hforItems
              · cases hforItems
              · next after' hitem =>
                  cases hforItems
                  obtain ⟨entry, read, hentry, rfl, rfl⟩ := h.sound hpath hitem (.inl rfl)
                  rw [List.append_nil]
                  exact ⟨[entry], .last hentry, rfl⟩
              · next after' joint rest hitem =>
                  split at hforItems
                  · next hshorter =>
                      obtain ⟨entry, read, hentry, rfl, rfl⟩ :=
                        h.sound hpath hitem (.inr ⟨joint, rest, rfl⟩)
                      obtain ⟨entries, hrest, rfl⟩ := ih rest.length hshorter hforItems rfl
                      exact ⟨entry :: entries, .cons joint hentry hrest, rfl⟩
                  · cases hforItems
              · cases hforItems

/-- What is wrong with a list does not depend on the steps before. -/
theorem forAllItems_error_congr (h : Accepts item Entry step) {tokens : List Token} {state : α}
    {problem : Problem} (hread : forAllItems item state tokens = .error problem) (state' : α) :
    forAllItems item state' tokens = .error problem := by
  induction hlength : tokens.length using Nat.strongRecOn generalizing tokens state state' with
  | ind length ih =>
      subst hlength
      cases htokens : tokens with
      | nil =>
          subst htokens
          cases hread
      | cons first following =>
          subst htokens
          change forItems item state' (first :: following) = .error problem
          change forItems item state (first :: following) = .error problem at hread
          rw [forItems_eq] at hread ⊢
          split at hread
          · exact hread
          · next path more hpath =>
              split at hread
              · next hitem =>
                  rw [h.error_congr hitem state']
                  exact hread
              · cases hread
              · next after joint rest hitem =>
                  obtain ⟨after', hitem'⟩ := h.ok_congr hitem state'
                  rw [hitem']
                  split at hread
                  · next hshorter =>
                      refine (if_pos hshorter).trans ?_
                      exact ih rest.length hshorter hread after' rfl
                  · next hlonger =>
                      refine (if_neg hlonger).trans ?_
                      exact hread
              · next after second rest hcomma hitem =>
                  obtain ⟨after', hitem'⟩ := h.ok_congr hitem state'
                  rw [hitem']
                  split
                  · next heq => cases heq
                  · next heq => cases heq
                  · next heq =>
                      cases heq
                      exact (hcomma _ rfl).elim
                  · exact hread

/-! ## Attributes -/

/-- An attribute whose arguments are a list of items. -/
def Attribute.Lists (given : Attribute) (Entry : ε → List Token → Prop) (entries : List ε) :
    Prop :=
  ∃ content, given.arguments = .list content ∧ Listed Entry entries content

theorem items_eq_forAllItems (given : Attribute) (item : ItemReader α) (state : α) :
    given.items item state = match given.arguments with
      | .missing => .error (.argumentsExpected given.name)
      | .value => .error (.parenthesesExpected given.name)
      | .list content => forAllItems item state content := by
  unfold Attribute.items
  split
  · next harguments => rw [harguments]
  · next harguments => rw [harguments]
  · next harguments =>
      rw [harguments]
      rfl
  · next content hcontent harguments =>
      rw [harguments]
      cases content with
      | nil => exact (hcontent rfl).elim
      | cons => rfl

/-- An attribute with a list of items is read item by item. -/
theorem Accepts.items_eq (h : Accepts item Entry step) {given : Attribute} {entries : List ε}
    (hlists : given.Lists Entry entries) (state : α) :
    given.items item state = .ok (entries.foldl step state) := by
  obtain ⟨content, harguments, hlisted⟩ := hlists
  rw [items_eq_forAllItems, harguments]
  exact forAllItems_of_listed h hlisted state

/-- And no other is. -/
theorem Accepts.lists_of_items (h : Accepts item Entry step) {given : Attribute} {state after : α}
    (hread : given.items item state = .ok after) :
    ∃ entries, given.Lists Entry entries ∧ after = entries.foldl step state := by
  rw [items_eq_forAllItems] at hread
  split at hread
  · cases hread
  · cases hread
  · next content harguments =>
      obtain ⟨entries, hlisted, rfl⟩ := listed_of_forAllItems h hread
      exact ⟨entries, ⟨content, harguments, hlisted⟩, rfl⟩

theorem items_error_congr (h : Accepts item Entry step) {given : Attribute} {state : α}
    {problem : Problem} (hread : given.items item state = .error problem) (state' : α) :
    given.items item state' = .error problem := by
  rw [items_eq_forAllItems] at hread ⊢
  split at hread
  · exact hread
  · exact hread
  · exact forAllItems_error_congr h hread state'

/-- The attributes of a name. -/
def named (name : String) (attributes : List Attribute) : List Attribute :=
  attributes.filter fun given => given.name == name

theorem readAttributes_eq_named (name : String) (item : ItemReader α) (state : α)
    (attributes : List Attribute) : readAttributes name item state attributes
      = (named name attributes).foldlM (fun state given => given.items item state) state := by
  induction attributes generalizing state with
  | nil => rfl
  | cons given rest ih =>
      rw [readAttributes, named, List.filter_cons]
      by_cases hname : given.name == name
      · rw [if_pos hname, if_pos hname, List.foldlM_cons]
        cases hitems : given.items item state with
        | error problem => rfl
        | ok after => exact ih after
      · rw [if_neg hname, if_neg hname]
        exact ih state

/-- Reading attributes accepts them if all of them are lists of items, and folds over all items. -/
theorem foldlM_items_eq_ok_iff (h : Accepts item Entry step) {attributes : List Attribute}
    {state after : α} :
    attributes.foldlM (fun state given => given.items item state) state = .ok after
      ↔ ∃ lists, List.Forall₂ (fun given entries => given.Lists Entry entries) attributes lists
        ∧ after = lists.flatten.foldl step state := by
  induction attributes generalizing state with
  | nil =>
      constructor
      · intro hread
        cases hread
        exact ⟨[], .nil, rfl⟩
      · rintro ⟨lists, hlists, rfl⟩
        cases hlists
        rfl
  | cons given rest ih =>
      rw [List.foldlM_cons]
      constructor
      · intro hread
        cases hgiven : given.items item state with
        | error problem =>
            rw [hgiven] at hread
            cases hread
        | ok middle =>
            rw [hgiven] at hread
            obtain ⟨entries, hentries, rfl⟩ := h.lists_of_items hgiven
            obtain ⟨lists, hlists, rfl⟩ := ih.mp hread
            refine ⟨entries :: lists, .cons hentries hlists, ?_⟩
            rw [List.flatten_cons, List.foldl_append]
      · rintro ⟨lists, hlists, rfl⟩
        cases hlists with
        | cons hentries hlists =>
            rw [h.items_eq hentries]
            refine ih.mpr ⟨_, hlists, ?_⟩
            rw [List.flatten_cons, List.foldl_append]

/-- The problem of the first of the attributes that is no list of items. -/
def FirstProblem (item : ItemReader α) (Entry : ε → List Token → Prop)
    (attributes : List Attribute) (problem : Problem) : Prop :=
  ∃ before given after, attributes = before ++ given :: after
    ∧ (∀ other ∈ before, ∃ entries, other.Lists Entry entries)
    ∧ ∀ state, given.items item state = .error problem

/-- Reading attributes fails with the first that is not. -/
theorem foldlM_items_eq_error_iff (h : Accepts item Entry step) {attributes : List Attribute}
    {state : α} {problem : Problem} :
    attributes.foldlM (fun state given => given.items item state) state = .error problem
      ↔ FirstProblem item Entry attributes problem := by
  induction attributes generalizing state with
  | nil =>
      constructor
      · intro hread
        cases hread
      · rintro ⟨before, given, after, hattributes, -⟩
        cases before <;> cases hattributes
  | cons given rest ih =>
      rw [List.foldlM_cons]
      -- the first attribute is the one with the problem, or it is a list and before that one
      cases hgiven : given.items item state with
      | error met =>
          constructor
          · intro hread
            obtain rfl : met = problem := Except.error.inj hread
            exact ⟨[], given, rest, rfl, nofun, items_error_congr h hgiven⟩
          · rintro ⟨before, other, after, hattributes, hbefore, hother⟩
            cases before with
            | nil =>
                cases hattributes
                exact (hgiven.symm.trans (hother state))
            | cons first before =>
                cases hattributes
                obtain ⟨entries, hentries⟩ := hbefore given List.mem_cons_self
                rw [h.items_eq hentries] at hgiven
                cases hgiven
      | ok middle =>
          obtain ⟨entries, hentries, -⟩ := h.lists_of_items hgiven
          refine Iff.trans ih ⟨?_, ?_⟩
          · rintro ⟨before, other, after, rfl, hbefore, hother⟩
            refine ⟨given :: before, other, after, rfl, ?_, hother⟩
            rintro listed (_ | ⟨_, hlisted⟩)
            · exact ⟨entries, hentries⟩
            · exact hbefore listed hlisted
          · rintro ⟨before, other, after, hattributes, hbefore, hother⟩
            cases before with
            | nil =>
                cases hattributes
                rw [hother state] at hgiven
                cases hgiven
            | cons first before =>
                cases hattributes
                exact ⟨before, other, after, rfl,
                  fun listed hlisted => hbefore listed (List.mem_cons_of_mem _ hlisted), hother⟩

end

end Declaration

end GridDispatch
