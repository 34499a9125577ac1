/-
Texts that are skipped.

What can be written for a value that nobody asked for is said here without the scanner: white space
(`Blank`), texts between quotes (`Quoted`, and `Spelled` where they have to stand for characters),
numbers (`Unsigned`), and values in lists and objects to any depth (`ValueText`).

Skipping a value is a loop that keeps the brackets that are open, so it is not the value that is
recursive in it but the brackets. What holds of a value is said for any brackets around it: from the
beginning of the value the loop comes to its end, with the same brackets open (`skipsValue`). This
is shown by induction on the value. The items of a list come after each other in the loop, so that
an induction on them is inside.

A number has no end of its own, unlike the other values. What follows must not go on with it
(`EndsNumber`), and neither white space nor what separates values does.
-/
import GridDispatch.Sidecar.Record

set_option autoImplicit false

namespace GridDispatch

namespace Sidecar

/-! ## White space -/

/-- White space between tokens. -/
def Blank (text : List Char) : Prop :=
  ∀ c ∈ text, c = ' ' ∨ c = '\n' ∨ c = '\t' ∨ c = '\r'

instance (text : List Char) : Decidable (Blank text) :=
  List.decidableBAll _ text

theorem blank_nil : Blank [] :=
  fun _ hc => nomatch hc

theorem skipBlank_append {blank : List Char} (h : Blank blank) (text : List Char) :
    skipBlank (blank ++ text) = skipBlank text := by
  induction blank with
  | nil => rfl
  | cons c blank ih =>
      have hc : isBlank c = true := by
        simp only [isBlank, Bool.or_eq_true, beq_iff_eq, or_assoc]
        exact h c List.mem_cons_self
      rw [List.cons_append, skipBlank, if_pos hc]
      exact ih fun d hd => h d (List.mem_cons_of_mem c hd)

theorem skipBlank_cons {c : Char} (h : isBlank c = false) (rest : List Char) :
    skipBlank (c :: rest) = c :: rest := by
  rw [skipBlank, h, if_neg Bool.false_ne_true]

/-- White space ends with the first character that is none. -/
theorem skipBlank_append_cons {blank : List Char} (hblank : Blank blank) {c : Char}
    (hc : isBlank c = false) (rest : List Char) : skipBlank (blank ++ c :: rest) = c :: rest := by
  rw [skipBlank_append hblank, skipBlank_cons hc]

/-! ## Strings -/

/-- The hexadecimal digits and their values. -/
def hexDigits : List (Char × Nat) :=
  "0123456789abcdef".toList.zipIdx ++ "ABCDEF".toList.zipIdx 10

/-- Four hexadecimal digits and their number. -/
def IsHex (a b c d : Char) (n : Nat) : Prop :=
  ∃ p q r s, (a, p) ∈ hexDigits ∧ (b, q) ∈ hexDigits ∧ (c, r) ∈ hexDigits ∧ (d, s) ∈ hexDigits
    ∧ n = 4096 * p + 256 * q + 16 * r + s

/-- The letters that can follow a backslash, and what they stand for. -/
def escapes : List (Char × Char) :=
  [('"', '"'), ('\\', '\\'), ('/', '/'), ('b', '\x08'), ('f', '\x0c'), ('n', '\n'), ('r', '\r'),
    ('t', '\t')]

/-- A text between quotes, and the characters it stands for. One that takes more than four digits
is written as a pair of halves. -/
inductive Spelled : List Char → List Char → Prop where
  | nil : Spelled [] []
  | plain {c : Char} {text chars : List Char} : 32 ≤ c.toNat → c ≠ '"' → c ≠ '\\' →
      Spelled text chars → Spelled (c :: text) (c :: chars)
  | letter {c meant : Char} {text chars : List Char} : (c, meant) ∈ escapes →
      Spelled text chars → Spelled ('\\' :: c :: text) (meant :: chars)
  | number {a b c d : Char} {n : Nat} {text chars : List Char} : IsHex a b c d n →
      n < 0xD800 ∨ 0xDFFF < n → Spelled text chars →
      Spelled ('\\' :: 'u' :: a :: b :: c :: d :: text) (Char.ofNat n :: chars)
  | pair {a b c d e f g h : Char} {high low : Nat} {text chars : List Char} :
      IsHex a b c d (0xD800 + high) → high < 1024 → IsHex e f g h (0xDC00 + low) → low < 1024 →
      Spelled text chars →
      Spelled ('\\' :: 'u' :: a :: b :: c :: d :: '\\' :: 'u' :: e :: f :: g :: h :: text)
        (Char.ofNat (0x10000 + 1024 * high + low) :: chars)

/-- A text between quotes. Its escapes need not stand for characters, as halves can be alone. -/
inductive Quoted : List Char → Prop where
  | nil : Quoted []
  | plain {c : Char} {text : List Char} : 32 ≤ c.toNat → c ≠ '"' → c ≠ '\\' → Quoted text →
      Quoted (c :: text)
  | letter {c meant : Char} {text : List Char} : (c, meant) ∈ escapes → Quoted text →
      Quoted ('\\' :: c :: text)
  | number {a b c d : Char} {n : Nat} {text : List Char} : IsHex a b c d n → Quoted text →
      Quoted ('\\' :: 'u' :: a :: b :: c :: d :: text)

theorem hexValue?_of_mem : ∀ digit ∈ hexDigits, hexValue? digit.1 = some digit.2 := by
  decide

theorem escaped?_of_mem : ∀ escape ∈ escapes, escaped? escape.1 = some escape.2 := by
  decide

theorem IsHex.hexNumber?_eq {a b c d : Char} {n : Nat} (h : IsHex a b c d n) :
    hexNumber? a b c d = some n := by
  obtain ⟨p, q, r, s, ha, hb, hc, hd, rfl⟩ := h
  simp only [hexNumber?, hexValue?_of_mem _ ha, hexValue?_of_mem _ hb, hexValue?_of_mem _ hc,
    hexValue?_of_mem _ hd]
  rfl

theorem letter_ne_u {c meant : Char} (h : (c, meant) ∈ escapes) : c ≠ 'u' := by
  rintro rfl
  have hnone := escaped?_of_mem _ h
  cases hnone

theorem skipString_plain {c : Char} (hlow : 32 ≤ c.toNat) (hquote : c ≠ '"')
    (hbackslash : c ≠ '\\') (rest : List Char) : skipString (c :: rest) = skipString rest := by
  rw [skipString, if_neg (Nat.not_lt.mpr hlow)]
  · exact hquote
  -- no escape begins with this character
  all_goals
    intros
    exact hbackslash ‹_›

theorem skipString_letter {c meant : Char} (hc : (c, meant) ∈ escapes) (rest : List Char) :
    skipString ('\\' :: c :: rest) = skipString rest := by
  have hu := letter_ne_u hc
  rw [skipString, escaped?_of_mem _ hc]
  all_goals
    intros
    exact hu ‹_›

theorem skipString_quoted {text : List Char} (h : Quoted text) (rest : List Char) :
    skipString (text ++ '"' :: rest) = .ok rest := by
  induction h with
  | nil => rfl
  | plain hlow hquote hbackslash _ ih =>
      rw [List.cons_append, skipString_plain hlow hquote hbackslash, ih]
  | letter hc _ ih => rw [List.cons_append, List.cons_append, skipString_letter hc, ih]
  | number hn _ ih => simp only [List.cons_append, skipString, hn.hexNumber?_eq, ih]

/-! ## Numbers -/

def Digits (text : List Char) : Prop :=
  ∀ c ∈ text, c.isDigit = true

instance (text : List Char) : Decidable (Digits text) :=
  List.decidableBAll _ text

/-- The whole part of a number. Nothing stands after a zero. -/
inductive Whole : List Char → Prop where
  | zero : Whole ['0']
  | digits {c : Char} {more : List Char} : c.isDigit = true → c ≠ '0' → Digits more →
      Whole (c :: more)

/-- What can come after the whole part. -/
inductive Fraction : List Char → Prop where
  | none : Fraction []
  | digits {c : Char} {more : List Char} : c.isDigit = true → Digits more →
      Fraction ('.' :: c :: more)

inductive Exponent : List Char → Prop where
  | none : Exponent []
  | digits {letter c : Char} {sign more : List Char} : letter = 'e' ∨ letter = 'E' →
      sign = [] ∨ sign = ['+'] ∨ sign = ['-'] → c.isDigit = true → Digits more →
      Exponent (letter :: sign ++ c :: more)

inductive Unsigned : List Char → Prop where
  | mk {whole fraction exponent : List Char} : Whole whole → Fraction fraction →
      Exponent exponent → Unsigned (whole ++ fraction ++ exponent)

/-- What can come after a number. -/
def EndsNumber (rest : List Char) : Prop :=
  ∀ c ∈ rest.head?, c.isDigit = false ∧ c ≠ '.' ∧ c ≠ 'e' ∧ c ≠ 'E'

theorem endsNumber_append {blank rest : List Char} (hblank : Blank blank)
    (hrest : EndsNumber rest) : EndsNumber (blank ++ rest) := by
  cases blank with
  | nil => exact hrest
  | cons first blank =>
      intro c hc
      cases hc
      obtain rfl | rfl | rfl | rfl := hblank first List.mem_cons_self
      all_goals decide

theorem startsWithDigit_eq {rest : List Char} (h : ∀ c ∈ rest.head?, c.isDigit = false) :
    startsWithDigit rest = false := by
  cases rest with
  | nil => rfl
  | cons c rest => exact h c rfl

/-- An exponent goes on with no part of a number before it, and neither does what comes after. -/
theorem Exponent.head_append {exponent rest : List Char} (h : Exponent exponent)
    (hrest : EndsNumber rest) :
    ∀ c ∈ (exponent ++ rest).head?, c.isDigit = false ∧ c ≠ '.' := by
  intro c hc
  cases h with
  | none => exact ⟨(hrest c hc).1, (hrest c hc).2.1⟩
  | digits hletter =>
      cases hc
      obtain rfl | rfl := hletter
      all_goals decide

theorem Fraction.head_append {fraction exponent rest : List Char} (h : Fraction fraction)
    (hexponent : Exponent exponent) (hrest : EndsNumber rest) :
    ∀ c ∈ (fraction ++ (exponent ++ rest)).head?, c.isDigit = false := by
  intro c hc
  cases h with
  | none => exact (hexponent.head_append hrest c hc).1
  | digits =>
      cases hc
      rfl

theorem skipDigits_append {digits rest : List Char} (hdigits : Digits digits)
    (hrest : startsWithDigit rest = false) : skipDigits (digits ++ rest) = rest := by
  induction digits with
  | nil =>
      cases rest with
      | nil => rfl
      | cons c rest =>
          have hc : ¬c.isDigit = true := Bool.eq_false_iff.mp hrest
          rw [List.nil_append, skipDigits, if_neg hc]
  | cons c digits ih =>
      rw [List.cons_append, skipDigits, if_pos (hdigits c List.mem_cons_self)]
      exact ih fun d hd => hdigits d (List.mem_cons_of_mem c hd)

theorem skipDigits1_append {c : Char} {digits rest : List Char} (hc : c.isDigit = true)
    (hdigits : Digits digits) (hrest : startsWithDigit rest = false) :
    skipDigits1 (c :: (digits ++ rest)) = .ok rest := by
  rw [skipDigits1, if_pos hc, skipDigits_append hdigits hrest]

theorem isDigit_ne {c d : Char} (hc : c.isDigit = true) (hd : d.isDigit = false) : c ≠ d := by
  rintro rfl
  rw [hc] at hd
  cases hd

theorem skipExponent_append {sign rest : List Char} {c : Char} {more : List Char}
    (hsign : sign = [] ∨ sign = ['+'] ∨ sign = ['-']) (hc : c.isDigit = true)
    (hmore : Digits more) (hrest : startsWithDigit rest = false) :
    skipExponent (sign ++ c :: (more ++ rest)) = .ok rest := by
  have hskip := skipDigits1_append hc hmore hrest
  obtain rfl | rfl | rfl := hsign
  · rw [List.nil_append, skipExponent, hskip]
    · exact fun _ heq => isDigit_ne hc rfl (List.cons.inj heq).1
    · exact fun _ heq => isDigit_ne hc rfl (List.cons.inj heq).1
  · exact hskip
  · exact hskip

theorem skipExponent?_append {exponent rest : List Char} (h : Exponent exponent)
    (hrest : EndsNumber rest) : skipExponent? (exponent ++ rest) = .ok rest := by
  cases h with
  | none =>
      rw [List.nil_append, skipExponent?]
      · rintro more rfl
        exact (hrest 'e' rfl).2.2.1 rfl
      · rintro more rfl
        exact (hrest 'E' rfl).2.2.2 rfl
  | digits hletter hsign hc hmore =>
      have hskip := skipExponent_append hsign hc hmore
        (startsWithDigit_eq fun c hc => (hrest c hc).1)
      rw [List.append_assoc, List.cons_append, List.cons_append]
      obtain rfl | rfl := hletter
      · exact hskip
      · exact hskip

theorem skipFraction?_append {fraction exponent rest : List Char} (hfraction : Fraction fraction)
    (hexponent : Exponent exponent) (hrest : EndsNumber rest) :
    skipFraction? (fraction ++ (exponent ++ rest)) = .ok rest := by
  have hskip := skipExponent?_append hexponent hrest
  have hhead := hexponent.head_append hrest
  cases hfraction with
  | none =>
      rw [List.nil_append, skipFraction?, hskip]
      intro more heq
      rw [heq] at hhead
      exact (hhead '.' rfl).2 rfl
  | digits hc hmore =>
      have hdigits := skipDigits1_append hc hmore (startsWithDigit_eq fun c hc => (hhead c hc).1)
      rw [List.cons_append, List.cons_append, skipFraction?, hdigits]
      exact hskip

theorem skipNumber_zero {more : List Char} (h : startsWithDigit more = false) :
    skipNumber ('0' :: more) = skipFraction? more := by
  cases more with
  | nil => rfl
  | cons c more => exact if_neg (Bool.eq_false_iff.mp h)

theorem skipNumber_digits {c : Char} {digits more : List Char} (hc : c.isDigit = true)
    (hzero : c ≠ '0') (hdigits : Digits digits) (hmore : startsWithDigit more = false) :
    skipNumber (c :: (digits ++ more)) = skipFraction? more := by
  rw [skipNumber, if_pos hc, skipDigits_append hdigits hmore]
  · exact fun _ _ heq _ => hzero heq
  · exact fun heq _ => hzero heq

/-- A number without a sign is skipped. -/
theorem skipNumber_append {number rest : List Char} (h : Unsigned number)
    (hrest : EndsNumber rest) : skipNumber (number ++ rest) = .ok rest := by
  obtain ⟨hwhole, hfraction, hexponent⟩ := h
  have hskip := skipFraction?_append hfraction hexponent hrest
  have hdigit := startsWithDigit_eq (hfraction.head_append hexponent hrest)
  rw [List.append_assoc, List.append_assoc]
  cases hwhole with
  | zero => exact (skipNumber_zero hdigit).trans hskip
  | digits hc hzero hmore => exact (skipNumber_digits hc hzero hmore hdigit).trans hskip

/-! ## Values -/

def Bracket.opening : Bracket → Char
  | .list => '['
  | .object => '\x7b'

def Bracket.closing : Bracket → Char
  | .list => ']'
  | .object => '\x7d'

/-- A text and the white space around it. -/
structure Padded where
  before : List Char
  core : List Char
  after : List Char

namespace Padded

def text (item : Padded) : List Char :=
  item.before ++ (item.core ++ item.after)

structure Spaced (item : Padded) : Prop where
  before : Blank item.before
  after : Blank item.after

instance (item : Padded) : Decidable item.Spaced :=
  decidable_of_iff (Blank item.before ∧ Blank item.after)
    ⟨fun h => ⟨h.1, h.2⟩, fun h => ⟨h.before, h.after⟩⟩

end Padded

/-- A member of an object: a text between quotes, a colon and a value, and the white space around
them. -/
structure Member where
  before : List Char
  name : List Char
  beforeColon : List Char
  beforeValue : List Char
  value : List Char
  after : List Char

namespace Member

def item (member : Member) : Padded where
  before := member.before
  core := '"' :: (member.name ++ '"' :: (member.beforeColon ++ ':' :: (member.beforeValue
    ++ member.value)))
  after := member.after

structure Spaced (member : Member) : Prop where
  item : member.item.Spaced
  beforeColon : Blank member.beforeColon
  beforeValue : Blank member.beforeValue

instance (member : Member) : Decidable member.Spaced :=
  decidable_of_iff (member.item.Spaced ∧ Blank member.beforeColon ∧ Blank member.beforeValue)
    ⟨fun h => ⟨h.1, h.2.1, h.2.2⟩, fun h => ⟨h.item, h.beforeColon, h.beforeValue⟩⟩

theorem core_append (member : Member) (rest : List Char) : member.item.core ++ rest
    = '"' :: (member.name ++ '"' :: (member.beforeColon ++ ':' :: (member.beforeValue
      ++ (member.value ++ rest)))) := by
  simp only [item, List.cons_append, List.append_assoc]

end Member

/-- A value, with everything in it. -/
inductive ValueText : List Char → Prop where
  | null : ValueText ['n', 'u', 'l', 'l']
  | yes : ValueText ['t', 'r', 'u', 'e']
  | no : ValueText ['f', 'a', 'l', 's', 'e']
  | number {number : List Char} : Unsigned number → ValueText number
  | negative {number : List Char} : Unsigned number → ValueText ('-' :: number)
  | string {text : List Char} : Quoted text → ValueText ('"' :: (text ++ ['"']))
  | empty (bracket : Bracket) {blank : List Char} : Blank blank →
      ValueText (bracket.opening :: (blank ++ [bracket.closing]))
  | list {first : Padded} {more : List Padded} : (∀ item ∈ first :: more, item.Spaced) →
      (∀ item ∈ first :: more, ValueText item.core) →
      ValueText ('[' :: (commaSeparated ((first :: more).map Padded.text) ++ [']']))
  | object {first : Member} {more : List Member} : (∀ member ∈ first :: more, member.Spaced) →
      (∀ member ∈ first :: more, Quoted member.name) →
      (∀ member ∈ first :: more, ValueText member.value) →
      ValueText ('\x7b' ::
        (commaSeparated ((first :: more).map fun member => member.item.text) ++ ['\x7d']))

/-- What stands after an item: the others, each after a comma, and what closes the list. -/
def afterItem (bracket : Bracket) (more : List Padded) (rest : List Char) : List Char :=
  more.flatMap (fun item => ',' :: item.text) ++ bracket.closing :: rest

theorem afterItem_nil (bracket : Bracket) (rest : List Char) :
    afterItem bracket [] rest = bracket.closing :: rest :=
  rfl

theorem afterItem_cons (bracket : Bracket) (item : Padded) (more : List Padded)
    (rest : List Char) : afterItem bracket (item :: more) rest
      = ',' :: (item.before ++ (item.core ++ (item.after ++ afterItem bracket more rest))) := by
  simp only [afterItem, Padded.text, List.flatMap_cons, List.cons_append, List.append_assoc]

/-- A list in brackets, with the first item and what stands after it. -/
theorem commaSeparated_append (bracket : Bracket) (first : Padded) (more : List Padded)
    (rest : List Char) :
    commaSeparated ((first :: more).map Padded.text) ++ bracket.closing :: rest
      = first.before ++ (first.core ++ (first.after ++ afterItem bracket more rest)) := by
  induction more generalizing first with
  | nil => simp only [List.map_cons, List.map_nil, commaSeparated, Padded.text, afterItem,
      List.flatMap_nil, List.nil_append, List.append_assoc]
  | cons second more ih =>
      rw [List.map_cons, commaSeparated, List.append_assoc, List.cons_append, ih, afterItem_cons]
      · simp only [Padded.text, List.append_assoc]
      · exact List.cons_ne_nil _ _

/-- What comes after an item ends a number. -/
theorem endsNumber_afterItem (bracket : Bracket) (more : List Padded) (rest : List Char) :
    EndsNumber (afterItem bracket more rest) := by
  intro c hc
  cases more with
  | nil =>
      cases hc
      cases bracket <;> decide
  | cons text more =>
      cases hc
      decide

theorem isBlank_of_isDigit {c : Char} (hc : c.isDigit = true) : isBlank c = false := by
  simp only [isBlank, Bool.or_eq_false_iff, beq_eq_false_iff_ne]
  exact ⟨⟨⟨isDigit_ne hc rfl, isDigit_ne hc rfl⟩, isDigit_ne hc rfl⟩, isDigit_ne hc rfl⟩

theorem Unsigned.exists_cons {number : List Char} (h : Unsigned number) :
    ∃ c more, number = c :: more ∧ c.isDigit = true := by
  obtain ⟨hwhole, -, -⟩ := h
  cases hwhole with
  | zero => exact ⟨_, _, rfl, rfl⟩
  | digits hc => exact ⟨_, _, rfl, hc⟩

/-- The first character of a value belongs to it, and it does not close a list. -/
theorem ValueText.exists_cons {value : List Char} (h : ValueText value) :
    ∃ c more, value = c :: more ∧ isBlank c = false ∧ c ≠ ']' := by
  cases h with
  | number hnumber =>
      obtain ⟨c, more, rfl, hc⟩ := hnumber.exists_cons
      exact ⟨c, more, rfl, isBlank_of_isDigit hc, isDigit_ne hc rfl⟩
  | empty bracket =>
      cases bracket with
      | list => exact ⟨_, _, rfl, rfl, by decide⟩
      | object => exact ⟨_, _, rfl, rfl, by decide⟩
  | _ => exact ⟨_, _, rfl, rfl, by decide⟩

/-! ## Single steps -/

/-- What is needed at the beginning of an item. -/
def Bracket.need : Bracket → Need
  | .list => .value
  | .object => .name

section

variable {open_ : List Bracket} {blank rest text more : List Char}

/-- Nothing depends on the white space before a value. -/
theorem step_value_append (hblank : Blank blank) (open_ : List Bracket) (text : List Char) :
    step .value open_ (blank ++ text) = step .value open_ text := by
  simp only [step, skipBlank_append hblank]

theorem step_digit {c : Char} (hc : c.isDigit = true) (open_ : List Bracket) (rest : List Char) :
    step .value open_ (c :: rest) = scalarDone open_ (skipNumber (c :: rest)) := by
  unfold step
  dsimp only
  rw [skipBlank_cons (isBlank_of_isDigit hc)]
  split
  case h_1 heq => cases heq
  case h_9 heq =>
    cases heq
    exact if_pos hc
  all_goals
    next heq => exact absurd (List.cons.inj heq).1 (isDigit_ne hc rfl)

theorem step_number {number : List Char} (h : Unsigned number) (hrest : EndsNumber rest) :
    step .value open_ (number ++ rest) = .ok (some (.next, open_), rest) := by
  have hskip := skipNumber_append h hrest
  obtain ⟨c, more, rfl, hc⟩ := h.exists_cons
  rw [List.cons_append] at hskip ⊢
  rw [step_digit hc, hskip]
  rfl

/-- A list that is not empty is open at its first item. -/
theorem step_opening (bracket : Bracket) {c : Char} (hblank : Blank blank)
    (hc : isBlank c = false) (hclosing : c ≠ bracket.closing) :
    step .value open_ (bracket.opening :: (blank ++ c :: rest))
      = .ok (some (bracket.need, bracket :: open_), c :: rest) := by
  cases bracket with
  | list =>
      simp only [step, Bracket.opening, skipBlank_cons (c := '[') rfl,
        skipBlank_append_cons hblank hc]
      split
      · next heq => exact absurd (List.cons.inj heq).1 hclosing
      · rfl
  | object =>
      simp only [step, Bracket.opening, skipBlank_cons (c := '\x7b') rfl,
        skipBlank_append_cons hblank hc]
      split
      · next heq => exact absurd (List.cons.inj heq).1 hclosing
      · rfl

theorem step_empty (bracket : Bracket) (hblank : Blank blank) :
    step .value open_ (bracket.opening :: (blank ++ bracket.closing :: rest))
      = .ok (some (.next, open_), rest) := by
  cases bracket with
  | list =>
      simp only [step, Bracket.opening, Bracket.closing, skipBlank_cons (c := '[') rfl,
        skipBlank_append_cons (c := ']') hblank rfl]
  | object =>
      simp only [step, Bracket.opening, Bracket.closing, skipBlank_cons (c := '\x7b') rfl,
        skipBlank_append_cons (c := '\x7d') hblank rfl]

theorem step_comma (bracket : Bracket) (hblank : Blank blank) :
    step .next (bracket :: open_) (blank ++ ',' :: rest)
      = .ok (some (bracket.need, bracket :: open_), rest) := by
  simp only [step, skipBlank_append_cons (c := ',') hblank rfl]
  cases bracket with
  | list => rfl
  | object => rfl

theorem step_closing (bracket : Bracket) (hblank : Blank blank) :
    step .next (bracket :: open_) (blank ++ bracket.closing :: rest)
      = .ok (some (.next, open_), rest) := by
  cases bracket with
  | list => simp only [step, Bracket.closing, skipBlank_append_cons (c := ']') hblank rfl]
  | object => simp only [step, Bracket.closing, skipBlank_append_cons (c := '\x7d') hblank rfl]

theorem step_name {name : List Char} (hname : Quoted name) (hblank : Blank blank)
    {beforeColon : List Char} (hbeforeColon : Blank beforeColon) :
    step .name open_ (blank ++ '"' :: (name ++ '"' :: (beforeColon ++ ':' :: rest)))
      = .ok (some (.value, open_), rest) := by
  simp only [step, skipBlank_append_cons (c := '"') hblank rfl, skipString_quoted hname,
    skipBlank_append_cons (c := ':') hbeforeColon rfl]

end

/-! ## Skipping -/

theorem skip_of_step {need need' : Need} {open_ open' : List Bracket} {text rest : List Char}
    (h : step need open_ text = .ok (some (need', open'), rest))
    (hshorter : rest.length < text.length) : skip need open_ text = skip need' open' rest := by
  rw [skip, h]
  exact if_pos hshorter

/-- Whatever is open, the loop comes from the beginning of a value to its end. -/
def SkipsValue (value : List Char) : Prop :=
  ∀ (open_ : List Bracket) {blank rest : List Char}, Blank blank → EndsNumber rest →
    skip .value open_ (blank ++ (value ++ rest)) = skip .next open_ rest

/-- The same for an item in brackets, where it is needed. -/
def SkipsItem (bracket : Bracket) (item : List Char) : Prop :=
  ∀ (open_ : List Bracket) {blank rest : List Char}, Blank blank → EndsNumber rest →
    skip bracket.need (bracket :: open_) (blank ++ (item ++ rest))
      = skip .next (bracket :: open_) rest

section

variable {value : List Char}

theorem skipsValue_of_step (hvalue : value ≠ [])
    (h : ∀ open_ {rest}, EndsNumber rest →
      step .value open_ (value ++ rest) = .ok (some (.next, open_), rest)) : SkipsValue value := by
  intro open_ blank rest hblank hrest
  refine skip_of_step ((step_value_append hblank open_ _).trans (h open_ hrest)) ?_
  have hpos := List.length_pos_iff.mpr hvalue
  simp only [List.length_append]
  omega

/-- The loop comes from the beginning of an item over all others to the end of the list. -/
theorem skip_items {bracket : Bracket} {first : Padded} {more : List Padded} {blank : List Char}
    (hspaced : ∀ item ∈ first :: more, item.Spaced)
    (hskips : ∀ item ∈ first :: more, SkipsItem bracket item.core) (hblank : Blank blank)
    (open_ : List Bracket) (rest : List Char) :
    skip bracket.need (bracket :: open_)
        (blank ++ (first.core ++ (first.after ++ afterItem bracket more rest)))
      = skip .next open_ rest := by
  induction more generalizing first blank with
  | nil =>
      have hafter := (hspaced first List.mem_cons_self).after
      rw [hskips first List.mem_cons_self open_ hblank
        (endsNumber_append hafter (endsNumber_afterItem bracket [] rest)), afterItem_nil]
      refine skip_of_step (step_closing bracket hafter) ?_
      simp only [List.length_append, List.length_cons]
      omega
  | cons second more ih =>
      have hafter := (hspaced first List.mem_cons_self).after
      have hsecond := hspaced second (List.mem_cons_of_mem _ List.mem_cons_self)
      rw [hskips first List.mem_cons_self open_ hblank
        (endsNumber_append hafter (endsNumber_afterItem bracket _ rest)), afterItem_cons]
      refine (skip_of_step (step_comma bracket hafter) ?_).trans (ih ?_ ?_ hsecond.before)
      · simp only [List.length_append, List.length_cons]
        omega
      · exact fun item hitem => hspaced item (List.mem_cons_of_mem _ hitem)
      · exact fun item hitem => hskips item (List.mem_cons_of_mem _ hitem)

/-- A list of items in brackets is skipped if its items are. -/
theorem skipsValue_of_items (bracket : Bracket) {first : Padded} {more : List Padded}
    (hspaced : ∀ item ∈ first :: more, item.Spaced)
    (hskips : ∀ item ∈ first :: more, SkipsItem bracket item.core)
    (hcore : ∃ c rest, first.core = c :: rest ∧ isBlank c = false ∧ c ≠ bracket.closing) :
    SkipsValue (bracket.opening ::
      (commaSeparated ((first :: more).map Padded.text) ++ [bracket.closing])) := by
  intro open_ blank rest hblank hrest
  -- the step over the bracket also takes the white space before the first item
  have hbefore := (hspaced first List.mem_cons_self).before
  have hitems := skip_items hspaced hskips blank_nil open_ rest
  rw [List.cons_append, List.append_assoc, List.singleton_append, commaSeparated_append]
  obtain ⟨c, following, hfollowing, hc, hclosing⟩ := hcore
  rw [hfollowing, List.nil_append, List.cons_append] at hitems
  rw [hfollowing, List.cons_append]
  refine (skip_of_step ((step_value_append hblank open_ _).trans
    (step_opening bracket hbefore hc hclosing)) ?_).trans hitems
  simp only [List.length_append, List.length_cons]
  omega

theorem skipsItem_of_value {value : List Char} (h : SkipsValue value) :
    SkipsItem .list value :=
  fun open_ _ _ hblank hrest => h (.list :: open_) hblank hrest

theorem skipsItem_of_member {member : Member} (hspaced : member.Spaced)
    (hname : Quoted member.name) (h : SkipsValue member.value) :
    SkipsItem .object member.item.core := by
  intro open_ blank rest hblank hrest
  have hvalue := h (.object :: open_) hspaced.beforeValue hrest
  rw [Member.core_append]
  refine (skip_of_step (step_name hname hblank hspaced.beforeColon) ?_).trans hvalue
  simp only [List.length_append, List.length_cons]
  omega

/-- Every value is skipped. -/
theorem skipsValue (h : ValueText value) : SkipsValue value := by
  -- scalars take one step, lists in brackets one for every comma and bracket
  induction h with
  | null => exact skipsValue_of_step (List.cons_ne_nil _ _) fun _ _ _ => rfl
  | yes => exact skipsValue_of_step (List.cons_ne_nil _ _) fun _ _ _ => rfl
  | no => exact skipsValue_of_step (List.cons_ne_nil _ _) fun _ _ _ => rfl
  | number hnumber =>
      refine skipsValue_of_step ?_ fun _ _ hrest => step_number hnumber hrest
      obtain ⟨c, more, rfl, -⟩ := hnumber.exists_cons
      exact List.cons_ne_nil _ _
  | @negative number hnumber =>
      refine skipsValue_of_step (List.cons_ne_nil _ _) fun open_ rest hrest => ?_
      have hstep : step .value open_ ('-' :: number ++ rest)
          = scalarDone open_ (skipNumber (number ++ rest)) := rfl
      rw [hstep, skipNumber_append hnumber hrest]
      rfl
  | @string text htext =>
      refine skipsValue_of_step (List.cons_ne_nil _ _) fun open_ rest _ => ?_
      have hstep : step .value open_ ('"' :: (text ++ ['"'] ++ rest))
          = scalarDone open_ (skipString (text ++ ['"'] ++ rest)) := rfl
      rw [List.cons_append, hstep, List.append_assoc, List.singleton_append,
        skipString_quoted htext]
      rfl
  | empty bracket hblank =>
      refine skipsValue_of_step (List.cons_ne_nil _ _) fun open_ rest hrest => ?_
      rw [List.cons_append, List.append_assoc]
      exact step_empty bracket hblank
  | list hspaced hvalues ih =>
      refine skipsValue_of_items .list hspaced
        (fun item hitem => skipsItem_of_value (ih item hitem)) ?_
      exact (hvalues _ List.mem_cons_self).exists_cons
  | @object first more hspaced hnames _ ih =>
      have hitems : ∀ item ∈ (first :: more).map Member.item,
          item.Spaced ∧ SkipsItem .object item.core := by
        rw [List.forall_mem_map]
        exact fun member hmember => ⟨(hspaced member hmember).item,
          skipsItem_of_member (hspaced member hmember) (hnames member hmember) (ih member hmember)⟩
      have hvalue := skipsValue_of_items .object (fun item hitem => (hitems item hitem).1)
        (fun item hitem => (hitems item hitem).2) ⟨_, _, rfl, rfl, by decide⟩
      rw [← List.map_cons, List.map_map] at hvalue
      exact hvalue

end

theorem skipValue_append {blank value rest : List Char} (hblank : Blank blank)
    (h : ValueText value) (hrest : EndsNumber rest) :
    skipValue (blank ++ (value ++ rest)) = .ok rest := by
  rw [skipValue, skipsValue h [] hblank hrest, skip]
  rfl

end Sidecar

end GridDispatch
