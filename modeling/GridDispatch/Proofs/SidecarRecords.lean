/-
Records and their texts.

A text of a record is an object (`Schema.Written`). Its members are the fields of the record, each
once and in any order, and others, whose values are skipped. A name stands for characters and can be
spelled in any way; it is compared after it is decoded. A field is written in one way, except for
the white space in a triple (`FieldText`).

While members are read, what is known is what the record looks up among the members so far
(`collected`). A member of the record adds to it (`set_collected`), another one does not, and the
order never matters. So in the end all fields are known if each was among the members
(`collected_of_perm`).

The loop is in one of two places, before the first member or after one, and goes on in the same way
from both (`Ahead`).
-/
import GridDispatch.Proofs.SidecarTexts
import Mathlib.Data.List.Forall2
import Mathlib.Data.List.Nodup

set_option autoImplicit false

namespace GridDispatch

namespace Sidecar

/-! ## Names -/

section

variable {a b c d e f g h : Char} {high low n : Nat}

theorem isHighHalf_iff : isHighHalf n = true ↔ 0xD800 ≤ n ∧ n ≤ 0xDBFF := by
  rw [isHighHalf, Bool.and_eq_true, decide_eq_true_iff, decide_eq_true_iff]

theorem isLowHalf_iff : isLowHalf n = true ↔ 0xDC00 ≤ n ∧ n ≤ 0xDFFF := by
  rw [isLowHalf, Bool.and_eq_true, decide_eq_true_iff, decide_eq_true_iff]

theorem readString_plain (hlow : 32 ≤ c.toNat) (hquote : c ≠ '"') (hbackslash : c ≠ '\\')
    (rest : List Char) : readString (c :: rest) = prepend c (readString rest) := by
  rw [readString, if_neg (Nat.not_lt.mpr hlow)]
  · exact hquote
  all_goals
    intros
    exact hbackslash ‹_›

theorem readString_letter {meant : Char} (hc : (c, meant) ∈ escapes) (rest : List Char) :
    readString ('\\' :: c :: rest) = prepend meant (readString rest) := by
  have hu := letter_ne_u hc
  rw [readString, escaped?_of_mem _ hc]
  all_goals
    intros
    exact hu ‹_›

/-- An escape that stands for a character alone, whatever comes after it. -/
theorem readString_number (hn : IsHex a b c d n) (hwhole : n < 0xD800 ∨ 0xDFFF < n)
    (rest : List Char) : readString ('\\' :: 'u' :: a :: b :: c :: d :: rest)
      = prepend (Char.ofNat n) (readString rest) := by
  have hhigh : ¬isHighHalf n = true := by
    rw [isHighHalf_iff]
    omega
  have hlow : ¬isLowHalf n = true := by
    rw [isLowHalf_iff]
    omega
  -- two escapes in a row are looked at together, as they could be the halves of a pair
  by_cases hpair : ∃ e f g h after, rest = '\\' :: 'u' :: e :: f :: g :: h :: after
  · obtain ⟨e, f, g, h, after, rfl⟩ := hpair
    simp only [readString, hn.hexNumber?_eq, if_neg hhigh, if_neg hlow]
  · rw [readString, hn.hexNumber?_eq]
    · simp only [if_neg hhigh, if_neg hlow]
    · exact fun e f g h after heq => hpair ⟨e, f, g, h, after, heq⟩

theorem readString_pair (hhigh : IsHex a b c d (0xD800 + high)) (hhighlt : high < 1024)
    (hlow : IsHex e f g h (0xDC00 + low)) (hlowlt : low < 1024) (rest : List Char) :
    readString ('\\' :: 'u' :: a :: b :: c :: d :: '\\' :: 'u' :: e :: f :: g :: h :: rest)
      = prepend (Char.ofNat (0x10000 + 1024 * high + low)) (readString rest) := by
  have hishigh : isHighHalf (0xD800 + high) = true := isHighHalf_iff.mpr (by omega)
  have hislow : isLowHalf (0xDC00 + low) = true := isLowHalf_iff.mpr (by omega)
  simp only [readString, hhigh.hexNumber?_eq, hlow.hexNumber?_eq, hishigh, hislow, if_true,
    Nat.add_sub_cancel_left]

end

theorem readString_spelled {text chars : List Char} (h : Spelled text chars) (rest : List Char) :
    readString (text ++ '"' :: rest) = .ok (chars, rest) := by
  induction h with
  | nil => rfl
  | plain hlow hquote hbackslash _ ih =>
      rw [List.cons_append, readString_plain hlow hquote hbackslash, ih]
      rfl
  | letter hc _ ih =>
      rw [List.cons_append, List.cons_append, readString_letter hc, ih]
      rfl
  | number hn hwhole _ ih =>
      simp only [List.cons_append, readString_number hn hwhole, ih]
      rfl
  | pair hhigh hhighlt hlow hlowlt _ ih =>
      simp only [List.cons_append, readString_pair hhigh hhighlt hlow hlowlt, ih]
      rfl

/-! ## Counts -/

theorem le_ofDigitChars (digits : List Char) (number : Nat) :
    number ≤ Nat.ofDigitChars 10 digits number := by
  have hpow : 0 < 10 ^ digits.length := Nat.pow_pos (by decide)
  have hle := Nat.le_mul_of_pos_left number hpow
  rw [Nat.ofDigitChars_eq_ofDigitChars_zero]
  omega

/-- Digits are read as long as the number stays below the limit, which it does if it does in the
end. -/
theorem readDigits_append {limit number : Nat} {digits rest : List Char} (read : Nat)
    (hdigits : Digits digits) (hlimit : Nat.ofDigitChars 10 digits number < limit)
    (hrest : startsWithDigit rest = false) :
    readDigits limit number read (digits ++ rest)
      = (Nat.ofDigitChars 10 digits number, read + digits.length, rest) := by
  induction digits generalizing number read with
  | nil =>
      cases rest with
      | nil => rfl
      | cons c rest =>
          have hc : c.isDigit = false := hrest
          rw [List.nil_append, readDigits, hc, Bool.false_and, if_neg Bool.false_ne_true]
          rfl
  | cons c digits ih =>
      have hnext : 10 * number + (c.toNat - '0'.toNat) = number * 10 + digitValue c := by
        rw [Nat.mul_comm]
        rfl
      rw [Nat.ofDigitChars_cons, hnext] at hlimit ⊢
      -- the number only grows, so that it is below the limit at every digit
      have hbelow : number * 10 + digitValue c < limit :=
        Nat.lt_of_le_of_lt (le_ofDigitChars digits _) hlimit
      rw [List.cons_append, readDigits, hdigits c List.mem_cons_self, decide_eq_true hbelow,
        Bool.and_self, if_pos rfl,
        ih (read + 1) (fun d hd => hdigits d (List.mem_cons_of_mem c hd)) hlimit,
        List.length_cons, Nat.add_right_comm, Nat.add_assoc]

theorem digits_toDigits (n : Nat) : Digits (Nat.toDigits 10 n) :=
  fun _ hc => Nat.isDigit_of_mem_toDigits (by decide) (by decide) hc

/-- The digits of a number other than zero begin with no zero. -/
theorem toDigits_eq_cons {n : Nat} (hn : n ≠ 0) :
    ∃ c more, Nat.toDigits 10 n = c :: more ∧ c ≠ '0' := by
  induction n using Nat.strongRecOn with
  | ind n ih =>
      rw [Nat.toDigits_eq_if (by decide)]
      split
      · exact ⟨_, _, rfl, fun h => hn (Nat.digitChar_eq_zero.mp h)⟩
      · obtain ⟨c, more, hdigits, hc⟩ := ih (n / 10) (by omega) (by omega)
        exact ⟨c, more ++ [_], by rw [hdigits, List.cons_append], hc⟩

theorem finishNumber_eq {rest : List Char} (hrest : EndsNumber rest) (value : Nat) :
    finishNumber true value rest = .ok (.count value, rest) := by
  rw [finishNumber]
  · rfl
  · rintro more rfl
    exact (hrest '.' rfl).2.1 rfl
  · rintro more rfl
    exact (hrest 'e' rfl).2.2.1 rfl
  · rintro more rfl
    exact (hrest 'E' rfl).2.2.2 rfl

theorem readUnsigned_digits {c : Char} {more rest : List Char} (hc : c ≠ '0')
    (hdigits : Digits (c :: more)) (hword : Nat.ofDigitChars 10 (c :: more) 0 < word)
    (hrest : EndsNumber rest) : readUnsigned true (c :: (more ++ rest))
      = .ok (.count (Nat.ofDigitChars 10 (c :: more) 0), rest) := by
  have hends := startsWithDigit_eq fun c hc => (hrest c hc).1
  have hread := readDigits_append 0 hdigits hword hends
  rw [List.cons_append] at hread
  rw [readUnsigned, if_pos (hdigits c List.mem_cons_self), hread]
  · simp only [hends, Bool.false_eq_true, if_false]
    exact finishNumber_eq hrest _
  · exact hc

theorem readNumber_toDigits {n : Nat} {rest : List Char} (hn : n < word)
    (hrest : EndsNumber rest) : readNumber (Nat.toDigits 10 n ++ rest) = .ok (.count n, rest) := by
  by_cases hzero : n = 0
  · subst hzero
    have hends := startsWithDigit_eq fun c hc => (hrest c hc).1
    have hread : readNumber (Nat.toDigits 10 0 ++ rest)
        = if startsWithDigit rest then .error .malformed else finishNumber true 0 rest := rfl
    rw [hread, hends, if_neg Bool.false_ne_true]
    exact finishNumber_eq hrest 0
  · have hdigits := digits_toDigits n
    have hvalue : Nat.ofDigitChars 10 (Nat.toDigits 10 n) 0 = n := Nat.ofDigitChars_ten_toDigits
    obtain ⟨c, more, hcons, hc⟩ := toDigits_eq_cons hzero
    rw [hcons] at hdigits hvalue ⊢
    have hread := readUnsigned_digits hc hdigits (by rw [hvalue]; exact hn) hrest
    rw [hvalue] at hread
    rw [List.cons_append, readNumber, hread]
    intro _ heq
    exact isDigit_ne (d := '-') (hdigits c List.mem_cons_self) rfl (List.cons.inj heq).1

theorem toDigits_eq_digit (n : Nat) :
    ∃ c more, Nat.toDigits 10 n = c :: more ∧ c.isDigit = true := by
  have hdigits := digits_toDigits n
  cases h : Nat.toDigits 10 n with
  | nil => exact absurd h Nat.toDigits_ne_nil
  | cons c more =>
      rw [h] at hdigits
      exact ⟨c, more, rfl, hdigits c List.mem_cons_self⟩

/-- A count is read back from its digits. -/
theorem readCount_toDigits {limit n : Nat} {wanted : Wanted} {blank rest : List Char}
    (hlimit : limit ≤ word) (hn : n < limit) (hblank : Blank blank) (hrest : EndsNumber rest) :
    readCount limit wanted (blank ++ (Nat.toDigits 10 n ++ rest)) = .ok (n, rest) := by
  have hread := readNumber_toDigits (Nat.lt_of_lt_of_le hn hlimit) hrest
  obtain ⟨c, more, hcons, hc⟩ := toDigits_eq_digit n
  rw [hcons, List.cons_append] at hread ⊢
  simp only [readCount, skipBlank_append_cons hblank (isBlank_of_isDigit hc), hc, Bool.or_true,
    if_true, hread, if_pos hn]

/-! ## Fields -/

/-- What a field is written as. In a triple there can be white space around the numbers. -/
inductive FieldText : FieldValue → List Char → Prop where
  | count (value : Nat) : FieldText (.count value) (Nat.toDigits 10 value)
  | yes : FieldText (.flag true) ['t', 'r', 'u', 'e']
  | no : FieldText (.flag false) ['f', 'a', 'l', 's', 'e']
  | triple {value : Coord} {x y z : Padded} : x.Spaced → y.Spaced → z.Spaced →
      x.core = Nat.toDigits 10 value.x → y.core = Nat.toDigits 10 value.y →
      z.core = Nat.toDigits 10 value.z →
      FieldText (.triple value) ('[' :: (commaSeparated ([x, y, z].map Padded.text) ++ [']']))

def FieldValue.kind : FieldValue → FieldKind
  | .count _ => .count
  | .flag _ => .flag
  | .triple _ => .triple

/-- A value that fits its field. -/
def FieldValue.Fits : FieldValue → Prop
  | .count value => value < word
  | .flag _ => True
  | .triple value => value.x < lane ∧ value.y < lane ∧ value.z < lane

theorem readFlag_true {blank rest : List Char} (hblank : Blank blank) :
    readFlag (blank ++ 't' :: 'r' :: 'u' :: 'e' :: rest) = .ok (true, rest) := by
  simp only [readFlag, skipBlank_append_cons (c := 't') hblank rfl]
  rfl

theorem readFlag_false {blank rest : List Char} (hblank : Blank blank) :
    readFlag (blank ++ 'f' :: 'a' :: 'l' :: 's' :: 'e' :: rest) = .ok (false, rest) := by
  simp only [readFlag, skipBlank_append_cons (c := 'f') hblank rfl]
  rfl

theorem nextElement_first {blank : List Char} (hblank : Blank blank) (n : Nat)
    (more : List Char) : nextElement true (blank ++ (Nat.toDigits 10 n ++ more))
      = .ok (true, Nat.toDigits 10 n ++ more) := by
  obtain ⟨c, digits, hcons, hc⟩ := toDigits_eq_digit n
  rw [hcons, List.cons_append]
  unfold nextElement
  rw [skipBlank_append_cons hblank (isBlank_of_isDigit hc)]
  split
  · next heq => cases heq
  · next heq => exact absurd (List.cons.inj heq).1 (isDigit_ne hc rfl)
  · next heq => exact absurd (List.cons.inj heq).1 (isDigit_ne hc rfl)
  · rfl

theorem nextElement_comma {after before : List Char} (hafter : Blank after)
    (hbefore : Blank before) (n : Nat) (more : List Char) :
    nextElement false (after ++ ',' :: (before ++ (Nat.toDigits 10 n ++ more)))
      = .ok (true, Nat.toDigits 10 n ++ more) := by
  obtain ⟨c, digits, hcons, hc⟩ := toDigits_eq_digit n
  rw [hcons, List.cons_append]
  simp only [nextElement, skipBlank_append_cons (c := ',') hafter rfl,
    skipBlank_append_cons hbefore (isBlank_of_isDigit hc), Bool.false_eq_true, if_false]
  split
  · next heq => cases heq
  · next heq => exact absurd (List.cons.inj heq).1 (isDigit_ne hc rfl)
  · rfl

/-- One number of a triple. -/
theorem readAxes_succ {read missing n : Nat} {text more : List Char} (hn : n < lane)
    (htext : nextElement (read == 0) text = .ok (true, Nat.toDigits 10 n ++ more))
    (hmore : EndsNumber more) {values : List Nat} {rest : List Char}
    (hvalues : readAxes (read + 1) missing more = .ok (values, rest)) :
    readAxes read (missing + 1) text = .ok (n :: values, rest) := by
  have hread : readCount lane .lane (Nat.toDigits 10 n ++ more) = .ok (n, more) :=
    readCount_toDigits (by decide) hn blank_nil hmore
  simp only [readAxes, htext, hread, hvalues]

theorem readTriple_text {value : Coord} {x y z : Padded} (hx : x.Spaced) (hy : y.Spaced)
    (hz : z.Spaced) (hxcore : x.core = Nat.toDigits 10 value.x)
    (hycore : y.core = Nat.toDigits 10 value.y) (hzcore : z.core = Nat.toDigits 10 value.z)
    (hfits : (FieldValue.triple value).Fits) {blank : List Char} (hblank : Blank blank)
    (rest : List Char) :
    readTriple (blank ++ '[' :: (commaSeparated ([x, y, z].map Padded.text) ++ ']' :: rest))
      = .ok (value, rest) := by
  obtain ⟨hxlt, hylt, hzlt⟩ := hfits
  -- from the last number to the first, as each is read with those after it
  have hthird : readAxes 2 1 (y.after ++ afterItem .list [z] rest)
      = .ok ([value.z], z.after ++ afterItem .list [] rest) := by
    refine readAxes_succ hzlt ?_ (endsNumber_append hz.after (endsNumber_afterItem _ _ _)) rfl
    rw [afterItem_cons, hzcore]
    exact nextElement_comma hy.after hz.before _ _
  have hsecond : readAxes 1 2 (x.after ++ afterItem .list [y, z] rest)
      = .ok ([value.y, value.z], z.after ++ afterItem .list [] rest) := by
    refine readAxes_succ hylt ?_ (endsNumber_append hy.after (endsNumber_afterItem _ _ _)) hthird
    rw [afterItem_cons, hycore]
    exact nextElement_comma hx.after hy.before _ _
  have hfirst : readAxes 0 3 (x.before ++ (x.core ++ (x.after ++ afterItem .list [y, z] rest)))
      = .ok ([value.x, value.y, value.z], z.after ++ afterItem .list [] rest) := by
    refine readAxes_succ hxlt ?_ (endsNumber_append hx.after (endsNumber_afterItem _ _ _)) hsecond
    rw [hxcore]
    exact nextElement_first hx.before _ _
  have hend : endList (z.after ++ afterItem .list [] rest) = .ok rest := by
    simp only [endList, afterItem_nil, Bracket.closing,
      skipBlank_append_cons (c := ']') hz.after rfl]
  have htext : commaSeparated ([x, y, z].map Padded.text) ++ ']' :: rest
      = x.before ++ (x.core ++ (x.after ++ afterItem .list [y, z] rest)) :=
    commaSeparated_append .list x [y, z] rest
  simp only [readTriple, skipBlank_append_cons (c := '[') hblank rfl, htext, hfirst, hend]
  rfl

/-- A field is read back from what it is written as. -/
theorem readField_text {value : FieldValue} {text : List Char} (h : FieldText value text)
    (hfits : value.Fits) {blank rest : List Char} (hblank : Blank blank)
    (hrest : EndsNumber rest) :
    readField value.kind (blank ++ (text ++ rest)) = .ok (value, rest) := by
  cases h with
  | count n =>
      have hread : readCount word .count (blank ++ (Nat.toDigits 10 n ++ rest)) = .ok (n, rest) :=
        readCount_toDigits (Nat.le_refl _) hfits hblank hrest
      simp only [readField, FieldValue.kind, hread]
  | yes => simp only [readField, FieldValue.kind, List.cons_append, readFlag_true hblank]; rfl
  | no => simp only [readField, FieldValue.kind, List.cons_append, readFlag_false hblank]; rfl
  | triple hx hy hz hxcore hycore hzcore =>
      have hread := readTriple_text hx hy hz hxcore hycore hzcore hfits hblank rest
      rw [List.cons_append, List.append_assoc, List.singleton_append]
      simp only [readField, FieldValue.kind]
      rw [hread]

/-! ## Members -/

/-- A field of a record, and a value for it. -/
abbrev Known :=
  (String × FieldKind) × FieldValue

/-- A member of a text: a field of the record with its value, or a member that the record does not
know. Either name can be spelled in any way. -/
inductive MemberText (schema : Schema) : Option Known → Member → Prop where
  | known {field : String × FieldKind} {value : FieldValue} {member : Member} :
      Spelled member.name field.1.toList → FieldText value member.value →
      MemberText schema (some (field, value)) member
  | other {name : List Char} {member : Member} : Spelled member.name name →
      (∀ field ∈ schema.fields, field.1.toList ≠ name) → ValueText member.value →
      MemberText schema none member

/-- A field of this record, with a value that fits it. -/
structure Schema.Fits (schema : Schema) (known : Known) : Prop where
  field : known.1 ∈ schema.fields
  kind : known.2.kind = known.1.2
  value : known.2.Fits

/-- A text of a record: an object whose members are the fields of the record, in any order, and
others. -/
inductive Schema.Written (schema : Schema) (values : List FieldValue) : List Char → Prop where
  | mk {before after : List Char} {members : List Member}
      {entries : List (Option Known)} :
      Blank before → Blank after → (∀ member ∈ members, member.Spaced) →
      List.Forall₂ (MemberText schema) entries members →
      (entries.flatMap Option.toList).Perm (schema.fields.zip values) →
      Written schema values (before ++ '\x7b' ::
        (commaSeparated (members.map fun member => member.item.text) ++ '\x7d' :: after))

/-- The fields that are known after these, in the order of the record. -/
def collected (schema : Schema) (done : List Known) : Collected :=
  schema.fields.map fun field => done.lookup field

theorem nextMember_first {blank : List Char} (hblank : Blank blank) (rest : List Char) :
    nextMember true (blank ++ '"' :: rest) = .ok (true, rest) := by
  simp only [nextMember, skipBlank_append_cons (c := '"') hblank rfl]
  rfl

theorem nextMember_comma {after before : List Char} (hafter : Blank after)
    (hbefore : Blank before) (rest : List Char) :
    nextMember false (after ++ ',' :: (before ++ '"' :: rest)) = .ok (true, rest) := by
  simp only [nextMember, skipBlank_append_cons (c := ',') hafter rfl,
    skipBlank_append_cons (c := '"') hbefore rfl, Bool.false_eq_true, if_false]

theorem nextMember_closing {blank : List Char} (first : Bool) (hblank : Blank blank)
    (rest : List Char) : nextMember first (blank ++ '\x7d' :: rest) = .ok (false, rest) := by
  simp only [nextMember, skipBlank_append_cons (c := '\x7d') hblank rfl]

theorem readColon_append {blank : List Char} (hblank : Blank blank) (rest : List Char) :
    readColon (blank ++ ':' :: rest) = .ok rest := by
  simp only [readColon, skipBlank_append_cons (c := ':') hblank rfl]

/-- What is left of an object where its next member is read: all of it, or what stands after a
member. -/
inductive Ahead (rest : List Char) : Bool → List Member → List Char → Prop where
  | start (members : List Member) : Ahead rest true members
      (commaSeparated (members.map fun member => member.item.text) ++ '\x7d' :: rest)
  | after {blank : List Char} (members : List Member) : Blank blank →
      Ahead rest false members (blank ++ afterItem .object (members.map Member.item) rest)

theorem Ahead.nextMember_nil {rest text : List Char} {first : Bool} (h : Ahead rest first [] text) :
    nextMember first text = .ok (false, rest) := by
  cases h with
  | start => exact nextMember_closing true blank_nil rest
  | after _ hblank => exact nextMember_closing false hblank rest

/-- The next member is found, and the text has become shorter behind it. -/
theorem Ahead.nextMember_cons {rest text : List Char} {first : Bool} {member : Member}
    {members : List Member} (h : Ahead rest first (member :: members) text)
    (hspaced : member.Spaced) :
    nextMember first text = .ok (true, member.name ++ '"' :: (member.beforeColon
        ++ ':' :: (member.beforeValue ++ (member.value
          ++ (member.after ++ afterItem .object (members.map Member.item) rest)))))
      ∧ (member.after ++ afterItem .object (members.map Member.item) rest).length
        < text.length := by
  cases h with
  | start =>
      have htext : commaSeparated ((member :: members).map fun member => member.item.text)
          ++ '\x7d' :: rest = member.before ++ (member.item.core
            ++ (member.after ++ afterItem .object (members.map Member.item) rest)) := by
        have hitems := commaSeparated_append .object member.item (members.map Member.item) rest
        rw [← List.map_cons, List.map_map] at hitems
        exact hitems
      rw [htext, Member.core_append]
      refine ⟨nextMember_first hspaced.item.before _, ?_⟩
      simp only [List.length_append, List.length_cons]
      omega
  | after _ hblank =>
      rw [List.map_cons, afterItem_cons, Member.core_append]
      refine ⟨nextMember_comma hblank hspaced.item.before _, ?_⟩
      simp only [Member.item, List.length_append, List.length_cons]
      omega

section

variable {schema : Schema} {done : List Known}
variable {entry : Option Known} {member : Member}
variable {rest : List Char}

/-- A field is found at its position by its name. -/
theorem findIdx?_field (hnames : (schema.fields.map Prod.fst).Nodup) {field : String × FieldKind}
    (hfield : field ∈ schema.fields) :
    ∃ i, schema.fields.findIdx? (fun other => other.1.toList == field.1.toList) = some i
      ∧ schema.fields[i]? = some field := by
  cases hindex : schema.fields.findIdx? (fun other => other.1.toList == field.1.toList) with
  | none =>
      have hne := List.findIdx?_eq_none_iff.mp hindex field hfield
      rw [beq_self_eq_true] at hne
      cases hne
  | some i =>
      obtain ⟨hi, hname, -⟩ := List.findIdx?_eq_some_iff_getElem.mp hindex
      refine ⟨i, rfl, ?_⟩
      rw [List.getElem?_eq_getElem hi]
      refine congrArg some (List.inj_on_of_nodup_map hnames (List.getElem_mem hi) hfield ?_)
      exact String.toList_inj.mp (beq_iff_eq.mp hname)

/-- Setting a field adds it to those that are known. -/
theorem set_collected (hnames : (schema.fields.map Prod.fst).Nodup) {field : String × FieldKind}
    {i : Nat} (hi : schema.fields[i]? = some field) (value : FieldValue) :
    (collected schema done).set i (some value) = collected schema ((field, value) :: done) := by
  have hfields : schema.fields.Nodup := List.Nodup.of_map _ hnames
  obtain ⟨hlt, -⟩ := List.getElem?_eq_some_iff.mp hi
  apply List.ext_getElem?
  intro j
  rw [List.getElem?_set]
  simp only [collected, List.getElem?_map, List.length_map, if_pos hlt]
  by_cases hij : i = j
  · subst hij
    rw [if_pos rfl, hi, Option.map_some, List.lookup_cons_self]
  · rw [if_neg hij]
    cases hj : schema.fields[j]? with
    | none => rfl
    | some other =>
        have hne : (other == field) = false := by
          rw [beq_eq_false_iff_ne]
          rintro rfl
          exact hij ((List.getElem?_inj hlt hfields).mp (hi.trans hj.symm))
        rw [Option.map_some, Option.map_some, List.lookup_cons, hne]

theorem getD_collected {field : String × FieldKind} {i : Nat} (hi : schema.fields[i]? = some field)
    (hnew : field ∉ done.map Prod.fst) : (collected schema done).getD i none = none := by
  rw [List.getD_eq_getElem?_getD, collected, List.getElem?_map, hi, Option.map_some,
    Option.getD_some, List.lookup_eq_none_iff]
  intro known hknown
  rw [bne_iff_ne]
  rintro rfl
  exact hnew (List.mem_map_of_mem hknown)

/-- Reading a member adds its field to those that are known, if it is one of the record. -/
theorem readMember_text (hnames : (schema.fields.map Prod.fst).Nodup)
    (hmember : MemberText schema entry member) (hspaced : member.Spaced)
    (hfits : ∀ known ∈ entry, schema.Fits known)
    (hnew : ∀ known ∈ entry, known.1 ∉ done.map Prod.fst) (hrest : EndsNumber rest) :
    ∃ name, (∀ rest, readString (member.name ++ '"' :: rest) = .ok (name, rest))
      ∧ readMember schema (collected schema done) name
          (member.beforeColon ++ ':' :: (member.beforeValue ++ (member.value ++ rest)))
        = .ok (collected schema (entry.toList ++ done), rest) := by
  cases hmember with
  | @known field value _ hspelled htext =>
      obtain ⟨hfield, (hkind : value.kind = field.2), hvalue⟩ := hfits _ rfl
      obtain ⟨i, hindex, hi⟩ := findIdx?_field hnames hfield
      have hread : readField field.2 (member.beforeValue ++ (member.value ++ rest))
          = .ok (value, rest) := by
        rw [← hkind]
        exact readField_text htext hvalue hspaced.beforeValue hrest
      refine ⟨_, readString_spelled hspelled, ?_⟩
      simp only [readMember, hindex, getD_collected hi (hnew _ rfl), Option.isSome_none,
        Bool.false_eq_true, if_false, readColon_append hspaced.beforeColon, hi, Option.map_some,
        Option.getD_some, hread, set_collected hnames hi]
      rfl
  | @other name _ hspelled hother hvalue =>
      have hindex : schema.fields.findIdx? (fun field => field.1.toList == name) = none := by
        rw [List.findIdx?_eq_none_iff]
        exact fun field hfield => beq_eq_false_iff_ne.mpr (hother field hfield)
      refine ⟨_, readString_spelled hspelled, ?_⟩
      simp only [readMember, hindex, readColon_append hspaced.beforeColon,
        skipValue_append hspaced.beforeValue hvalue hrest]
      rfl

/-- One turn of the loop over the members. -/
theorem readMembers_member (hnames : (schema.fields.map Prod.fst).Nodup)
    (hmember : MemberText schema entry member) (hspaced : member.Spaced)
    (hfits : ∀ known ∈ entry, schema.Fits known)
    (hnew : ∀ known ∈ entry, known.1 ∉ done.map Prod.fst) (hrest : EndsNumber rest)
    {first : Bool} {text : List Char}
    (htext : nextMember first text = .ok (true, member.name ++ '"' ::
      (member.beforeColon ++ ':' :: (member.beforeValue ++ (member.value ++ rest)))))
    (hshorter : rest.length < text.length) :
    readMembers schema first (collected schema done) text
      = readMembers schema false (collected schema (entry.toList ++ done)) rest := by
  obtain ⟨name, hname, hread⟩ := readMember_text hnames hmember hspaced hfits hnew hrest
  rw [readMembers, htext]
  simp only [hname, hread]
  exact if_pos hshorter

/-- The members are read one after the other, whichever comes first. -/
theorem readMembers_ahead (hnames : (schema.fields.map Prod.fst).Nodup)
    {entries : List (Option Known)} {members : List Member}
    (hmembers : List.Forall₂ (MemberText schema) entries members)
    (hspaced : ∀ member ∈ members, member.Spaced)
    (hfits : ∀ known ∈ entries.flatMap Option.toList, schema.Fits known)
    (hnodup : ((entries.flatMap Option.toList ++ done).map Prod.fst).Nodup)
    {first : Bool} {text : List Char} (hahead : Ahead rest first members text) :
    ∃ all : List Known,
      all.Perm (entries.flatMap Option.toList ++ done)
        ∧ readMembers schema first (collected schema done) text
          = .ok (collected schema all, rest) := by
  induction hmembers generalizing done first text with
  | nil =>
      refine ⟨done, .refl _, ?_⟩
      rw [readMembers, hahead.nextMember_nil]
  | @cons entry member entries members hmember _ ih =>
      have hmemberSpaced := hspaced member List.mem_cons_self
      obtain ⟨hnext, hshorter⟩ := hahead.nextMember_cons hmemberSpaced
      rw [List.flatMap_cons, List.append_assoc] at hnodup
      -- what was read so far goes before what is still to be read
      have hmove : (entries.flatMap Option.toList ++ (entry.toList ++ done)).Perm
          (entry.toList ++ (entries.flatMap Option.toList ++ done)) :=
        List.perm_append_comm_assoc _ _ _
      have hnew : ∀ known ∈ entry, known.1 ∉ done.map Prod.fst := by
        intro known hknown hdone
        rw [List.map_append, List.nodup_append] at hnodup
        refine hnodup.2.2 known.1 (List.mem_map_of_mem (Option.mem_toList.mpr hknown))
          known.1 ?_ rfl
        rw [List.map_append]
        exact List.mem_append_right _ hdone
      have hturn := readMembers_member hnames hmember hmemberSpaced
        (fun known hknown => hfits known (List.mem_append_left _ (Option.mem_toList.mpr hknown)))
        hnew (endsNumber_append hmemberSpaced.item.after (endsNumber_afterItem .object _ rest))
        hnext hshorter
      obtain ⟨all, hall, hrest⟩ := ih
        (fun other hother => hspaced other (List.mem_cons_of_mem _ hother))
        (fun known hknown => hfits known (List.mem_append_right _ hknown))
        (((hmove.map Prod.fst).nodup_iff).mpr hnodup) (.after members hmemberSpaced.item.after)
      refine ⟨all, ?_, ?_⟩
      · rw [List.flatMap_cons, List.append_assoc]
        exact hall.trans hmove
      · exact hturn.trans hrest

/-! ## Records -/

theorem lookup_of_mem {known : List Known}
    (hnodup : (known.map Prod.fst).Nodup) {field : String × FieldKind} {value : FieldValue}
    (h : (field, value) ∈ known) : known.lookup field = some value := by
  obtain ⟨before, after, rfl⟩ := List.append_of_mem h
  refine List.lookup_eq_some_iff.mpr ⟨before, after, rfl, fun other hother => ?_⟩
  rw [List.map_append, List.nodup_append] at hnodup
  rw [bne_iff_ne]
  exact (hnodup.2.2 other.1 (List.mem_map_of_mem hother) field List.mem_cons_self).symm

/-- All fields are known, in the order of the record, if they were read in any order. -/
theorem collected_of_perm (hnames : (schema.fields.map Prod.fst).Nodup)
    {values : List FieldValue} (hlength : schema.fields.length = values.length)
    (hdone : done.Perm (schema.fields.zip values)) :
    collected schema done = values.map some := by
  have hfields : schema.fields.Nodup := List.Nodup.of_map _ hnames
  have hnodup : (done.map Prod.fst).Nodup := by
    rw [(hdone.map Prod.fst).nodup_iff, List.map_fst_zip (Nat.le_of_eq hlength)]
    exact hfields
  apply List.ext_getElem
  · rw [collected, List.length_map, List.length_map, hlength]
  · intro i hi hi'
    rw [collected, List.length_map] at hi
    rw [List.length_map] at hi'
    have hmem : (schema.fields[i], values[i]) ∈ schema.fields.zip values := by
      have hzip : i < (schema.fields.zip values).length := by
        rw [List.length_zip]
        exact Nat.lt_min.mpr ⟨hi, hi'⟩
      rw [← List.getElem_zip (h := hzip)]
      exact List.getElem_mem hzip
    simp only [collected, List.getElem_map]
    exact lookup_of_mem hnodup (hdone.mem_iff.mpr hmem)

theorem complete_map_some {fields : List (String × FieldKind)} {values : List FieldValue}
    (hlength : fields.length = values.length) :
    complete fields (values.map some) = .ok values := by
  induction fields generalizing values with
  | nil =>
      cases values with
      | nil => rfl
      | cons value values => cases hlength
  | cons field fields ih =>
      cases values with
      | nil => cases hlength
      | cons value values =>
          have hrest := ih (Nat.succ.inj hlength)
          simp only [complete, List.map_cons, List.head?_cons, Option.join_some, List.tail_cons,
            hrest]

end

/-- A text that is written without escapes. -/
def Unescaped (text : List Char) : Prop :=
  ∀ c ∈ text, 32 ≤ c.toNat ∧ c ≠ '"' ∧ c ≠ '\\'

instance (text : List Char) : Decidable (Unescaped text) :=
  List.decidableBAll _ text

/-- Names of a record that are told apart, and written without escapes. -/
structure Schema.Plain (schema : Schema) : Prop where
  names : (schema.fields.map Prod.fst).Nodup
  unescaped : ∀ field ∈ schema.fields, Unescaped field.1.toList

/-- Values for all fields of a record. -/
def Schema.Holds (schema : Schema) (values : List FieldValue) : Prop :=
  List.Forall₂ (fun field value => value.kind = field.2 ∧ value.Fits) schema.fields values

section

variable {schema : Schema} {values : List FieldValue} {text : List Char}

theorem Schema.Holds.fits (h : schema.Holds values) :
    ∀ known ∈ schema.fields.zip values, schema.Fits known := by
  rintro ⟨field, value⟩ hknown
  obtain ⟨hkind, hvalue⟩ := (List.forall₂_iff_zip.mp h).2 hknown
  exact ⟨(List.of_mem_zip hknown).1, hkind, hvalue⟩

/-- A record is read back from every text of it. -/
theorem Schema.read_written (hplain : schema.Plain) (hholds : schema.Holds values)
    (h : schema.Written values text) : schema.read text = .ok values := by
  obtain @⟨before, after, members, entries, hbefore, hafter, hspaced, hmembers, hperm⟩ := h
  have hnodup : ((entries.flatMap Option.toList ++ []).map Prod.fst).Nodup := by
    rw [List.append_nil, (hperm.map Prod.fst).nodup_iff,
      List.map_fst_zip (Nat.le_of_eq hholds.length_eq)]
    exact List.Nodup.of_map _ hplain.names
  have hahead : Ahead after true members
      (commaSeparated (members.map fun member => member.item.text) ++ '\x7d' :: after) :=
    .start members
  obtain ⟨all, hall, hread⟩ := readMembers_ahead hplain.names hmembers hspaced
    (fun known hknown => hholds.fits known (hperm.mem_iff.mp hknown)) hnodup hahead
  rw [List.append_nil] at hall
  have hcomplete : complete schema.fields (collected schema all) = .ok values := by
    rw [collected_of_perm hplain.names hholds.length_eq (hall.trans hperm)]
    exact complete_map_some hholds.length_eq
  have hend : skipBlank after = [] := by
    rw [← List.append_nil after, skipBlank_append hafter]
    rfl
  have hstart : collected schema [] = schema.fields.map fun _ => none := rfl
  rw [hstart] at hread
  simp only [Schema.read, Schema.readPart, skipBlank_append_cons (c := '\x7b') hbefore rfl, hread,
    hcomplete, hend]

/-- A compact text has no white space. -/
def compactMember (known : Known) : Member where
  before := []
  name := known.1.1.toList
  beforeColon := []
  beforeValue := []
  value := known.2.write
  after := []

theorem spaced_compactMember (known : Known) :
    (compactMember known).Spaced :=
  ⟨⟨blank_nil, blank_nil⟩, blank_nil, blank_nil⟩

theorem text_compactMember (known : Known) :
    (compactMember known).item.text = writeName known.1.1 ++ ':' :: known.2.write := by
  simp only [Padded.text, Member.item, compactMember, writeName, List.nil_append, List.append_nil,
    List.cons_append, List.append_assoc]

theorem spelled_self {name : List Char} (h : Unescaped name) : Spelled name name := by
  induction name with
  | nil => exact .nil
  | cons c name ih =>
      obtain ⟨hlow, hquote, hbackslash⟩ := h c List.mem_cons_self
      exact .plain hlow hquote hbackslash (ih fun d hd => h d (List.mem_cons_of_mem c hd))

theorem fieldText_write (value : FieldValue) : FieldText value value.write := by
  cases value with
  | count n => exact .count n
  | flag value =>
      cases value with
      | true => exact .yes
      | false => exact .no
  | triple value =>
      have hspaced : ∀ n, Padded.Spaced ⟨[], Nat.toDigits 10 n, []⟩ :=
        fun _ => ⟨blank_nil, blank_nil⟩
      have htext : FieldText (.triple value) _ :=
        .triple (hspaced value.x) (hspaced value.y) (hspaced value.z) rfl rfl rfl
      simp only [List.map_cons, List.map_nil, Padded.text, List.nil_append, List.append_nil]
        at htext
      exact htext

/-- And the compact text is one of them. -/
theorem Schema.written_write (hplain : schema.Plain) (hholds : schema.Holds values) :
    schema.Written values (schema.write values) := by
  have hmembers : List.Forall₂ (MemberText schema) ((schema.fields.zip values).map some)
      ((schema.fields.zip values).map compactMember) := by
    rw [List.forall₂_map_left_iff, List.forall₂_map_right_iff, List.forall₂_same]
    intro known hknown
    exact .known (spelled_self (hplain.unescaped _ (hholds.fits known hknown).field))
      (fieldText_write known.2)
  have hentries : ((schema.fields.zip values).map some).flatMap Option.toList
      = schema.fields.zip values := by
    rw [List.flatMap_map]
    exact List.flatMap_singleton' _
  have hspaced : ∀ member ∈ (schema.fields.zip values).map compactMember, member.Spaced := by
    rw [List.forall_mem_map]
    exact fun known _ => spaced_compactMember known
  have hwritten : schema.Written values _ :=
    .mk blank_nil blank_nil hspaced hmembers (by rw [hentries])
  simp only [List.map_map, Function.comp_def, text_compactMember] at hwritten
  exact hwritten

end

end Sidecar

end GridDispatch
