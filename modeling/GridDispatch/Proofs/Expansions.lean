/-
What a declaration expands to, and which do not.

A declaration is looked at in a fixed order, and the first check that fails decides what is wrong
with it. Two of the checks read attributes. One is after an item among the attributes for the
representation, wherever it stands; but all of them have to be lists of items for it, those after
the one that was found as well. The other takes nothing but crates, of which the last one counts.
A crate is a path written as a string, and which strings are paths does not matter here: everything
is said for any reader of them.

`Fails` says what is wrong with a declaration that does not expand, check by check, each under the
condition that those before it have passed. `Item.Laid` says what has to be written in one that
does. The two readers accept what is written like this and nothing else (`accepts_repr`,
`accepts_crate`), so that a declaration either expands or fails in one way (`expands`).

Expanding is numbering. Fields and accessors have the same positions, and every field adds its size
once (`Numbered`).
-/
import GridDispatch.Declaration.Expansion
import GridDispatch.Proofs.ItemLists

set_option autoImplicit false

namespace GridDispatch

namespace Declaration

/-! ## The representation -/

/-- The path that stands for the representation in the order of the fields. -/
def pathC : ItemPath :=
  ⟨false, ["C".toList]⟩

/-- An item of the representation: a path, and arguments in parentheses or none. -/
inductive ReprEntry : ItemPath → List Token → Prop where
  | bare {path : ItemPath} {read : List Token} : path.Written read → ReprEntry path read
  | withArguments {path : ItemPath} {read : List Token} (content : List Token) :
      path.Written read → ReprEntry path (read ++ [.group .paren content])

theorem isName_iff {path : ItemPath} {name : String} :
    path.isName name = true ↔ path = ⟨false, [name.toList]⟩ := by
  rw [ItemPath.isName, Bool.and_eq_true, Bool.not_eq_true', beq_iff_eq, ItemPath.mk.injEq]

/-- What follows the path of an item ends it, or is its arguments. -/
theorem reprItem_of_endsItem {rest : List Token} (h : EndsItem rest) (found : Bool)
    (path : ItemPath) : reprItem found path rest = .ok (found || path.isName "C", rest) := by
  obtain rfl | ⟨joint, more, rfl⟩ := h
  · rfl
  · rfl

theorem reprItem_eq_ok (path : ItemPath) (more : List Token) :
    ∃ rest, (∀ found, reprItem found path more = .ok (found || path.isName "C", rest))
      ∧ (more = rest ∨ ∃ content, more = .group .paren content :: rest) := by
  by_cases hgroup : ∃ content rest, more = .group .paren content :: rest
  · obtain ⟨content, rest, rfl⟩ := hgroup
    exact ⟨rest, fun _ => rfl, .inr ⟨content, rfl⟩⟩
  · refine ⟨more, fun found => ?_, .inl rfl⟩
    unfold reprItem
    split
    · exact (hgroup ⟨_, _, rfl⟩).elim
    · rfl

/-- The reader of the representation accepts its items, and notes whether one is the right path. -/
theorem accepts_repr :
    Accepts reprItem ReprEntry (fun found path => found || path.isName "C") where
  complete := by
    intro path read rest hentry hend
    cases hentry with
    | bare hread =>
        exact ⟨path, rest, itemPath_of_written hread hend.afterSeparator?_eq,
          fun found => reprItem_of_endsItem hend found path⟩
    | withArguments content hread =>
        refine ⟨path, .group .paren content :: rest, ?_, fun found => rfl⟩
        rw [List.append_assoc]
        exact itemPath_of_written hread rfl
  sound := by
    intro tokens path more found after rest hpath hitem _
    obtain ⟨read, hread, rfl, -⟩ := written_of_itemPath hpath
    obtain ⟨rest', hrest, hmore⟩ := reprItem_eq_ok path more
    rw [hrest] at hitem
    cases hitem
    obtain rfl | ⟨content, rfl⟩ := hmore
    · exact ⟨path, read, .bare hread, rfl, rfl⟩
    · exact ⟨path, _, .withArguments content hread, List.append_cons _ _ _, rfl⟩
  error_congr := by
    intro path more found problem hitem
    obtain ⟨rest, hrest, -⟩ := reprItem_eq_ok path more
    rw [hrest] at hitem
    cases hitem
  ok_congr := by
    intro path more found after rest hitem found'
    obtain ⟨rest', hrest, -⟩ := reprItem_eq_ok path more
    rw [hrest] at hitem
    cases hitem
    exact ⟨_, hrest found'⟩

theorem foldl_isName (found : Bool) (paths : List ItemPath) :
    paths.foldl (fun found path => found || path.isName "C") found
      = (found || decide (pathC ∈ paths)) := by
  induction paths generalizing found with
  | nil => simp
  | cons path rest ih =>
      have hname : path.isName "C" = decide (pathC = path) := by
        rw [Bool.eq_iff_iff, isName_iff, decide_eq_true_iff, eq_comm]
        rfl
      simp only [List.foldl_cons, ih, hname, List.mem_cons, Bool.decide_or, Bool.or_assoc]

/-- What the attributes for the representation have to be, and what is found in them. -/
theorem hasReprC_eq_ok_iff {attributes : List Attribute} {found : Bool} :
    hasReprC attributes = .ok found ↔ ∃ paths,
      List.Forall₂ (fun given paths => given.Lists ReprEntry paths) (named "repr" attributes) paths
        ∧ found = decide (pathC ∈ paths.flatten) := by
  simp only [hasReprC, readAttributes_eq_named, foldlM_items_eq_ok_iff accepts_repr, foldl_isName,
    Bool.false_or]

theorem hasReprC_eq_error_iff {attributes : List Attribute} {problem : Problem} :
    hasReprC attributes = .error problem
      ↔ FirstProblem reprItem ReprEntry (named "repr" attributes) problem := by
  rw [hasReprC, readAttributes_eq_named, foldlM_items_eq_error_iff accepts_repr]

/-! ## The crate -/

/-- An item that names a crate: an equals sign, and a string that is a path. -/
inductive CrateEntry (reader : PathReader) : String → List Token → Prop where
  | mk {crate : String} {value suffix : List Char} (joint : Bool) (text : List Char) :
      reader value suffix = .ok crate →
      CrateEntry reader crate
        [.ident "crate".toList, .punct '=' joint, .literal text (.string value suffix)]

section

variable {reader : PathReader}

theorem crateItem_eq_ok_iff {kept after : Option String} {path : ItemPath}
    {more rest : List Token} :
    crateItem reader kept path more = .ok (after, rest) ↔ path = ⟨false, ["crate".toList]⟩
      ∧ ∃ joint text value suffix crate,
        more = .punct '=' joint :: .literal text (.string value suffix) :: rest
          ∧ reader value suffix = .ok crate ∧ after = some crate := by
  rw [← isName_iff]
  constructor
  · intro hitem
    unfold crateItem at hitem
    split at hitem
    · next hname =>
        refine ⟨hname, ?_⟩
        split at hitem
        · split at hitem
          · cases hitem
          · next hcrate =>
              cases hitem
              exact ⟨_, _, _, _, _, rfl, hcrate, rfl⟩
        · cases hitem
        · cases hitem
    · cases hitem
  · rintro ⟨hname, joint, text, value, suffix, crate, rfl, hcrate, rfl⟩
    simp only [crateItem, if_pos hname, hcrate]

/-- The path of an item is a single name if that is what is written. -/
theorem written_name_iff {name : List Char} {read : List Token} :
    ItemPath.Written ⟨false, [name]⟩ read ↔ read = [.ident name] := by
  constructor
  · rintro (⟨_, hread⟩ | _)
    cases hread
    rfl
  · rintro rfl
    exact .plain name .nil

/-- The reader of crates accepts nothing else, and keeps the last one. -/
theorem accepts_crate :
    Accepts (crateItem reader) (CrateEntry reader) (fun _ crate => some crate) where
  complete := by
    intro crate read rest hentry hend
    cases hentry with
    | @mk value suffix joint text hcrate =>
        refine ⟨⟨false, ["crate".toList]⟩,
          .punct '=' joint :: .literal text (.string value suffix) :: rest, ?_, fun kept => ?_⟩
        · exact itemPath_of_written (.plain _ .nil) rfl
        · exact crateItem_eq_ok_iff.mpr ⟨rfl, _, _, _, _, _, rfl, hcrate, rfl⟩
  sound := by
    intro tokens path more kept after rest hpath hitem _
    obtain ⟨read, hread, rfl, -⟩ := written_of_itemPath hpath
    obtain ⟨rfl, joint, text, value, suffix, crate, rfl, hcrate, rfl⟩ :=
      crateItem_eq_ok_iff.mp hitem
    obtain rfl := written_name_iff.mp hread
    exact ⟨crate, _, .mk joint text hcrate, rfl, rfl⟩
  error_congr := by
    intro path more kept problem hitem _
    exact hitem
  ok_congr := by
    intro path more kept after rest hitem _
    exact ⟨after, hitem⟩

theorem foldl_some {α : Type} (kept : Option α) (entries : List α) :
    entries.foldl (fun _ entry => some entry) kept = entries.getLast?.or kept := by
  induction entries generalizing kept with
  | nil => rfl
  | cons entry rest ih =>
      rw [List.foldl_cons, ih, List.getLast?_cons]
      cases rest.getLast? with
      | none => rfl
      | some last => rfl

/-- What the attributes that name crates have to be; the last one counts. -/
theorem crateName_eq_ok_iff {attributes : List Attribute} {crate : Option String} :
    crateName reader attributes = .ok crate ↔ ∃ crates,
      List.Forall₂ (fun given crates => given.Lists (CrateEntry reader) crates)
          (named "descriptor_set" attributes) crates
        ∧ crate = crates.flatten.getLast? := by
  simp only [crateName, readAttributes_eq_named, foldlM_items_eq_ok_iff accepts_crate, foldl_some,
    Option.or_none]

theorem crateName_eq_error_iff {attributes : List Attribute} {problem : Problem} :
    crateName reader attributes = .error problem
      ↔ FirstProblem (crateItem reader) (CrateEntry reader) (named "descriptor_set" attributes)
        problem := by
  rw [crateName, readAttributes_eq_named, foldlM_items_eq_error_iff accepts_crate]

end

/-! ## Checks -/

/-- A struct with named fields and without parameters. -/
structure Item.Plain (item : Item) : Prop where
  kind : item.kind = .named
  fields : item.fields ≠ []
  notGeneric : item.isGeneric = false

/-- The attributes for the representation are lists of these items. -/
def Item.Represents (item : Item) (paths : List (List ItemPath)) : Prop :=
  List.Forall₂ (fun given paths => given.Lists ReprEntry paths) (named "repr" item.attributes) paths

/-- The attributes that name crates are lists of these crates, and of nothing else. -/
def Item.Names (item : Item) (reader : PathReader) (crates : List (List String)) : Prop :=
  List.Forall₂ (fun given crates => given.Lists (CrateEntry reader) crates)
    (named "descriptor_set" item.attributes) crates

/-- A declaration that can be laid out as it is written. -/
structure Item.Laid (item : Item) (reader : PathReader) : Prop where
  plain : item.Plain
  represented : ∃ paths, item.Represents paths ∧ pathC ∈ paths.flatten
  named : ∃ crates, item.Names reader crates

/-- What is wrong with a declaration: the check that fails, where those before it pass. -/
inductive Fails (reader : PathReader) (item : Item) : Problem → Prop where
  | notStruct : item.kind.isStruct = false → Fails reader item .notStruct
  | noNamedFields : item.kind.isStruct = true → item.kind ≠ .named ∨ item.fields = [] →
      Fails reader item .noNamedFields
  | generic : item.kind = .named → item.fields ≠ [] → item.isGeneric = true →
      Fails reader item .generic
  | repr {problem : Problem} : item.Plain →
      FirstProblem reprItem ReprEntry (named "repr" item.attributes) problem →
      Fails reader item problem
  | notReprC {paths : List (List ItemPath)} : item.Plain → item.Represents paths →
      pathC ∉ paths.flatten → Fails reader item .notReprC
  | crate {paths : List (List ItemPath)} {problem : Problem} : item.Plain →
      item.Represents paths → pathC ∈ paths.flatten →
      FirstProblem (crateItem reader) (CrateEntry reader)
        (named "descriptor_set" item.attributes) problem →
      Fails reader item problem

/-- What a declaration without problems expands to. -/
def Item.expansion (item : Item) (crate : Option String) : Expansion where
  crate := crate.getD defaultCrate
  name := item.name
  bindings := item.fields.length
  sizes := item.fields.map ItemField.type
  accessors := accessorsFrom item.visibility 0 item.fields

/-- What a plain declaration expands to, which its attributes decide. -/
def Item.ofAttributes (item : Item) (reader : PathReader) : Except Problem Expansion :=
  match hasReprC item.attributes with
  | .error problem => .error problem
  | .ok false => .error .notReprC
  | .ok true =>
    match crateName reader item.attributes with
    | .error problem => .error problem
    | .ok crate => .ok (item.expansion crate)

section

variable {item : Item} {reader : PathReader}

theorem form_eq_true_iff : (item.kind != .named || item.fields.isEmpty) = true
    ↔ item.kind ≠ .named ∨ item.fields = [] := by
  rw [Bool.or_eq_true, bne_iff_ne, List.isEmpty_iff]

theorem expand_of_named (hkind : item.kind = .named) (hfields : item.fields ≠ []) :
    expandWith reader item
      = if item.isGeneric then .error .generic else item.ofAttributes reader := by
  have hstruct : item.kind.isStruct = true := by
    rw [hkind]
    rfl
  have hform : ¬(item.kind != .named || item.fields.isEmpty) = true := fun hform =>
    (form_eq_true_iff.mp hform).elim (absurd hkind) hfields
  rw [expandWith, hstruct, if_neg hform]
  rfl

/-- After the checks of its form, a declaration depends on its attributes alone. -/
theorem Item.Plain.expand_eq (h : item.Plain) :
    expandWith reader item = item.ofAttributes reader := by
  rw [expand_of_named h.kind h.fields, h.notGeneric, if_neg Bool.false_ne_true]

/-- A declaration that can be laid out expands. -/
theorem Item.Laid.expand_eq (h : item.Laid reader) : ∃ crates, item.Names reader crates
    ∧ expandWith reader item = .ok (item.expansion crates.flatten.getLast?) := by
  obtain ⟨hplain, ⟨paths, hpaths, hmem⟩, crates, hcrates⟩ := h
  refine ⟨crates, hcrates, ?_⟩
  have hrepr : hasReprC item.attributes = .ok true :=
    hasReprC_eq_ok_iff.mpr ⟨paths, hpaths, (decide_eq_true hmem).symm⟩
  have hcrate : crateName reader item.attributes = .ok crates.flatten.getLast? :=
    crateName_eq_ok_iff.mpr ⟨crates, hcrates, rfl⟩
  simp only [hplain.expand_eq, Item.ofAttributes, hrepr, hcrate]

/-- A declaration that fails a check does not, and the check tells why. -/
theorem Fails.expand_eq {problem : Problem} (h : Fails reader item problem) :
    expandWith reader item = .error problem := by
  cases h with
  | notStruct hkind => simp only [expandWith, hkind, Bool.not_false, if_true]
  | noNamedFields hkind hfields =>
      rw [expandWith, hkind, if_pos (form_eq_true_iff.mpr hfields)]
      rfl
  | generic hkind hfields hgeneric => rw [expand_of_named hkind hfields, if_pos hgeneric]
  | repr hplain hfirst =>
      simp only [hplain.expand_eq, Item.ofAttributes, hasReprC_eq_error_iff.mpr hfirst]
  | notReprC hplain hpaths hmem =>
      have hrepr : hasReprC item.attributes = .ok false :=
        hasReprC_eq_ok_iff.mpr ⟨_, hpaths, (decide_eq_false hmem).symm⟩
      simp only [hplain.expand_eq, Item.ofAttributes, hrepr]
  | crate hplain hpaths hmem hfirst =>
      have hrepr : hasReprC item.attributes = .ok true :=
        hasReprC_eq_ok_iff.mpr ⟨_, hpaths, (decide_eq_true hmem).symm⟩
      simp only [hplain.expand_eq, Item.ofAttributes, hrepr, crateName_eq_error_iff.mpr hfirst]

/-- The checks leave nothing out. -/
theorem Item.laid_or_fails (item : Item) (reader : PathReader) :
    item.Laid reader ∨ ∃ problem, Fails reader item problem := by
  -- in the order of the checks
  by_cases hkind : item.kind.isStruct = true
  · by_cases hform : item.kind ≠ .named ∨ item.fields = []
    · exact .inr ⟨_, .noNamedFields hkind hform⟩
    · rw [not_or, not_not] at hform
      obtain ⟨hnamed, hfields⟩ := hform
      cases hgeneric : item.isGeneric with
      | true => exact .inr ⟨_, .generic hnamed hfields hgeneric⟩
      | false =>
          have hplain : item.Plain := ⟨hnamed, hfields, hgeneric⟩
          cases hrepr : hasReprC item.attributes with
          | error problem => exact .inr ⟨_, .repr hplain (hasReprC_eq_error_iff.mp hrepr)⟩
          | ok found =>
              obtain ⟨paths, hpaths, rfl⟩ := hasReprC_eq_ok_iff.mp hrepr
              by_cases hmem : pathC ∈ paths.flatten
              · cases hcrate : crateName reader item.attributes with
                | error problem =>
                    exact .inr ⟨_, .crate hplain hpaths hmem (crateName_eq_error_iff.mp hcrate)⟩
                | ok crate =>
                    obtain ⟨crates, hcrates, -⟩ := crateName_eq_ok_iff.mp hcrate
                    exact .inl ⟨hplain, ⟨paths, hpaths, hmem⟩, crates, hcrates⟩
              · exact .inr ⟨_, .notReprC hplain hpaths hmem⟩
  · exact .inr ⟨_, .notStruct (Bool.eq_false_iff.mpr hkind)⟩

/-! ## Numbering -/

/-- The accessor of a field has the position of the field. -/
theorem getElem?_accessorsFrom (visibility : String) (index : Nat) (fields : List ItemField)
    (i : Nat) : (accessorsFrom visibility index fields)[i]?
      = fields[i]?.map fun field => ⟨index + i, visibility, field⟩ := by
  induction fields generalizing index i with
  | nil => rfl
  | cons field rest ih =>
      cases i with
      | zero => rfl
      | succ i =>
          rw [accessorsFrom, List.getElem?_cons_succ, List.getElem?_cons_succ, ih,
            Nat.add_assoc, Nat.add_comm 1 i]

/-- A declaration and what it expands to have the same order. -/
structure Numbered (reader : PathReader) (item : Item) (e : Expansion) : Prop where
  name : e.name = item.name
  bindings : e.bindings = item.fields.length
  accessors : e.accessors.map Accessor.name
    = (List.range item.fields.length).map fun i => "binding" ++ toString i
  accessor : ∀ i (hi : i < item.fields.length), ∃ a : Accessor, e.accessors[i]? = some a
    ∧ a.name = "binding" ++ toString i
    ∧ a.visibility = item.visibility
    ∧ a.returns = "&mut" ++ item.fields[i].type
    ∧ a.body = "&mutself." ++ item.fields[i].name
    ∧ a.doc = "Binding " ++ toString i ++ " of the set."
  assertion : e.assertion = "assert!(" ++ sizeOf item.name ++ "==0"
    ++ String.join (item.fields.map fun field => "+" ++ sizeOf field.type)
    ++ ",\"descriptorsetsmustnotcontainpadding\",)"
  traitPath : ∀ crates, item.Names reader crates → e.traitPath
    = crates.flatten.getLast?.getD "::spindle" ++ "::memory::descriptor::DescriptorSet"

/-- Expanding numbers a declaration, whichever crate is named. -/
theorem Item.numbered_expansion (item : Item) {crate : Option String}
    (hcrate : ∀ crates, item.Names reader crates → crate = crates.flatten.getLast?) :
    Numbered reader item (item.expansion crate) where
  name := rfl
  bindings := rfl
  accessors := by
    apply List.ext_getElem?
    intro i
    rw [List.getElem?_map, List.getElem?_map, Item.expansion, getElem?_accessorsFrom,
      Nat.zero_add]
    by_cases hi : i < item.fields.length
    · rw [List.getElem?_eq_getElem hi, List.getElem?_range hi]
      rfl
    · have hrange : (List.range item.fields.length).length ≤ i := by
        rw [List.length_range]
        exact Nat.not_lt.mp hi
      rw [List.getElem?_eq_none (Nat.not_lt.mp hi), List.getElem?_eq_none hrange]
      rfl
  accessor := by
    intro i hi
    refine ⟨⟨i, item.visibility, item.fields[i]⟩, ?_, rfl, rfl, rfl, rfl, rfl⟩
    rw [Item.expansion, getElem?_accessorsFrom, List.getElem?_eq_getElem hi, Nat.zero_add]
    rfl
  assertion := by rw [Expansion.assertion, Item.expansion, List.map_map]; rfl
  traitPath := by
    intro crates hcrates
    rw [Expansion.traitPath, Item.expansion, hcrate crates hcrates]
    rfl

end

/-- What there is to say about expanding a declaration, if the paths of crates are read like this.
-/
structure Expands (reader : PathReader) (item : Item) : Prop where
  succeeds_iff : (∃ e, expandWith reader item = .ok e) ↔ item.Laid reader
  eq_error_iff : ∀ problem, expandWith reader item = .error problem ↔ Fails reader item problem
  numbered : ∀ e, expandWith reader item = .ok e → Numbered reader item e

/-- **Which declarations expand, and to what.** Whichever strings are paths, a declaration expands
if it can be laid out, and to the same order; otherwise its first check that fails is the
problem. -/
theorem expands (reader : PathReader) (item : Item) : Expands reader item := by
  obtain hlaid | ⟨problem, hfails⟩ := item.laid_or_fails reader
  · obtain ⟨crates, hcrates, hexpand⟩ := hlaid.expand_eq
    refine ⟨⟨fun _ => hlaid, fun _ => ⟨_, hexpand⟩⟩, fun problem => ⟨fun h => ?_, fun h => ?_⟩, ?_⟩
    · rw [hexpand] at h
      cases h
    · exact h.expand_eq
    · intro e h
      rw [hexpand] at h
      cases h
      refine item.numbered_expansion fun others hothers => ?_
      exact Except.ok.inj ((crateName_eq_ok_iff.mpr ⟨crates, hcrates, rfl⟩).symm.trans
        (crateName_eq_ok_iff.mpr ⟨others, hothers, rfl⟩))
  · have hexpand := hfails.expand_eq
    refine ⟨⟨?_, ?_⟩, fun other => ⟨fun h => ?_, fun h => h.expand_eq⟩, ?_⟩
    · rintro ⟨e, h⟩
      rw [hexpand] at h
      cases h
    · intro hlaid
      obtain ⟨crates, -, h⟩ := hlaid.expand_eq
      exact ⟨_, h⟩
    · rw [hexpand] at h
      cases h
      exact hfails
    · intro e h
      rw [hexpand] at h
      cases h

/-- The item may stand beside others with arguments, and of two crates the last one counts. -/
example : ((expand (Item.ofTexts .named "Set" "pub" "<>"
    ["repr(align(16), C,)", "descriptor_set(crate = \"a\", crate = \"::b::c\")"]
    [("counts", "Uniform<u32>"), ("image", "Image")])).toOption.map fun e =>
      (e.traitPath, e.accessors.map fun a => (a.name, a.returns, a.body)))
    = some ("::b::c::memory::descriptor::DescriptorSet",
      [("binding0", "&mutUniform<u32>", "&mutself.counts"),
        ("binding1", "&mutImage", "&mutself.image")]) := by
  decide +kernel

end Declaration

end GridDispatch
