import DocQuery.Number.Decimal
import Mathlib.Data.List.Induction
import Mathlib.Data.Nat.Digits.Defs

/-!
# Which texts are numbers in base ten

A natural number is written by one or more digits, and an integer by a sign, which may be absent,
and digits. A decimal number is not read from a text in which the digits at the beginning are
followed by a character that cannot stand there.

## Main definitions

* `Number.IsNumeral`: the ways to write a natural number.
* `Number.IsSign`: the ways to write a sign.
* `Number.WritesInteger`: the ways to write an integer.

## Main results

* `Number.isNumeral_iff`: the texts of natural numbers.
* `Number.readSigned?_eq_some_iff`, `Number.writesInteger_iff`: the texts of integers.
* `Number.writesInteger_toString`: the text of an integer without leading zeros.
* `Number.readUnsigned?_eq_none`: texts that are no decimal numbers.
-/

namespace DocQuery.Number

theorem tenPow_succ (n : Nat) : tenPow (n + 1) = tenPow n * 10 := rfl

/-! ### Natural numbers -/

theorem isDigit_digitChar {n : Nat} (hn : n < 10) : (Nat.digitChar n).isDigit = true := by
  simpa using hn

theorem digitChar_sub {n : Nat} (hn : n < 10) : (Nat.digitChar n).toNat - '0'.toNat = n := by
  rw [Nat.toNat_digitChar_of_lt_ten hn]
  exact Nat.add_sub_cancel_left 48 n

/-- Every digit of ASCII is the character of a number below ten. -/
theorem exists_digitChar_eq {c : Char} (hc : c.isDigit = true) :
    ∃ d, d < 10 ∧ Nat.digitChar d = c := by
  simp only [Char.isDigit, Bool.and_eq_true, decide_eq_true_eq, ge_iff_le, UInt32.le_iff_toNat_le]
    at hc
  have hlow : 48 ≤ c.toNat := hc.1
  have hhigh : c.toNat ≤ 57 := hc.2
  have hd : c.toNat - 48 < 10 := by omega
  refine ⟨c.toNat - 48, hd, Char.toNat_inj.1 ?_⟩
  rw [Nat.toNat_digitChar_of_lt_ten hd, Nat.add_sub_cancel' hlow]

theorem exists_map_digitChar_eq {s : List Char} (hs : ∀ c ∈ s, c.isDigit = true) :
    ∃ ds : List Nat, (∀ d ∈ ds, d < 10) ∧ ds.map Nat.digitChar = s := by
  induction s with
  | nil => exact ⟨[], by simp, rfl⟩
  | cons c s ih =>
    obtain ⟨hc, hrest⟩ := List.forall_mem_cons.1 hs
    obtain ⟨d, hd, rfl⟩ := exists_digitChar_eq hc
    obtain ⟨ds, hds, rfl⟩ := ih hrest
    exact ⟨d :: ds, List.forall_mem_cons.2 ⟨hd, hds⟩, rfl⟩

/-- What digits denote when they are read from the left is what they are worth in base ten. -/
theorem ofDigits_map_digitChar {ds : List Nat} (hds : ∀ d ∈ ds, d < 10) :
    ofDigits (ds.map Nat.digitChar) = Nat.ofDigits 10 ds.reverse := by
  induction ds using List.reverseRecOn with
  | nil => rfl
  | append_singleton ds d ih =>
    obtain ⟨hbefore, hlast⟩ := List.forall_mem_append.1 hds
    have hd : d < 10 := hlast d (List.mem_singleton_self d)
    rw [List.map_append, List.map_singleton, ofDigits_append_singleton, ih hbefore, digitValue,
      digitChar_sub hd, List.reverse_append, List.reverse_singleton, List.singleton_append,
      Nat.ofDigits_cons, Nat.add_comm]

/-- Whether a sequence of characters writes a natural number in base ten: by one or more digits, the
greatest power of ten first, where zeros may stand in front. -/
def IsNumeral (s : List Char) (n : Nat) : Prop :=
  ∃ ds : List Nat, ds ≠ [] ∧ (∀ d ∈ ds, d < 10) ∧ s = ds.map Nat.digitChar ∧
    n = Nat.ofDigits 10 ds.reverse

/-- Numbers are written exactly by one or more digits of ASCII, and it is the number that the digits
denote. -/
theorem isNumeral_iff {s : List Char} {n : Nat} :
    IsNumeral s n ↔ s ≠ [] ∧ (∀ c ∈ s, c.isDigit = true) ∧ ofDigits s = n := by
  constructor
  · rintro ⟨ds, hne, hds, rfl, rfl⟩
    refine ⟨by simpa using hne, fun c hc => ?_, ofDigits_map_digitChar hds⟩
    obtain ⟨d, hd, rfl⟩ := List.mem_map.1 hc
    exact isDigit_digitChar (hds d hd)
  · rintro ⟨hne, hs, rfl⟩
    obtain ⟨ds, hds, rfl⟩ := exists_map_digitChar_eq hs
    exact ⟨ds, by simpa using hne, hds, rfl, ofDigits_map_digitChar hds⟩

/-! ### Integers -/

/-- Whether a text is a sign, where `true` stands for minus. Plus may be left out. -/
inductive IsSign : Bool → List Char → Prop
  | none : IsSign false []
  | plus : IsSign false ['+']
  | minus : IsSign true ['-']

/-- A text is a sign and the rest. -/
theorem exists_isSign (s : List Char) :
    ∃ sign, IsSign (takeSign s).1 sign ∧ s = sign ++ (takeSign s).2 := by
  unfold takeSign
  split
  · exact ⟨['-'], .minus, rfl⟩
  · exact ⟨['+'], .plus, rfl⟩
  · exact ⟨[], .none, rfl⟩

/-- A sign is taken off a text that does not begin with a sign itself. -/
theorem takeSign_append {negative : Bool} {sign r : List Char} (h : IsSign negative sign)
    (hplus : r.head? ≠ some '+') (hminus : r.head? ≠ some '-') :
    takeSign (sign ++ r) = (negative, r) := by
  cases h with
  | none =>
    rw [List.nil_append]
    unfold takeSign
    split
    · exact absurd rfl hminus
    · exact absurd rfl hplus
    · rfl
  | plus => rfl
  | minus => rfl

theorem head?_ne_of_digits {ds : List Char} (hds : ∀ c ∈ ds, c.isDigit = true) {c : Char}
    (hc : c.isDigit = false) : ds.head? ≠ some c := by
  intro h
  have hdigit := hds c (List.mem_of_mem_head? h)
  rw [hc] at hdigit
  cases hdigit

/-- An integer is read exactly from a sign and one or more digits. -/
theorem readSigned?_eq_some_iff {s : List Char} {n : Signed} :
    readSigned? s = some n ↔ ∃ sign, IsSign n.negative sign ∧ s = sign ++ n.digits ∧
      n.digits ≠ [] ∧ ∀ c ∈ n.digits, c.isDigit = true := by
  unfold readSigned?
  constructor
  · intro h
    obtain ⟨sign, hsign, hs⟩ := exists_isSign s
    dsimp only at h
    split at h
    · next hdigits =>
      cases h
      exact ⟨sign, hsign, hs, hdigits.1, List.all_eq_true.1 hdigits.2⟩
    · cases h
  · rintro ⟨sign, hsign, rfl, hne, hdigits⟩
    rw [takeSign_append hsign (head?_ne_of_digits hdigits rfl) (head?_ne_of_digits hdigits rfl)]
    exact if_pos ⟨hne, List.all_eq_true.2 hdigits⟩

/-- Whether a sequence of characters writes an integer in base ten, with a number of digits: by a
sign, which may be left out, and a natural number. -/
def WritesInteger (s : List Char) (count : Nat) (n : Int) : Prop :=
  ∃ negative sign ds m, IsSign negative sign ∧ IsNumeral ds m ∧ s = sign ++ ds ∧
    ds.length = count ∧ n = if negative then -(m : Int) else m

/-- Integers are read exactly from the texts that write them. -/
theorem writesInteger_iff {s : List Char} {count : Nat} {n : Int} :
    WritesInteger s count n ↔
      ∃ g, readSigned? s = some g ∧ g.digits.length = count ∧ g.value = n := by
  constructor
  · rintro ⟨negative, sign, ds, m, hsign, hds, rfl, rfl, rfl⟩
    obtain ⟨hne, hdigits, rfl⟩ := isNumeral_iff.1 hds
    exact ⟨⟨negative, ds⟩, readSigned?_eq_some_iff.2 ⟨sign, hsign, rfl, hne, hdigits⟩, rfl, rfl⟩
  · rintro ⟨g, hread, rfl, rfl⟩
    obtain ⟨sign, hsign, hs, hne, hdigits⟩ := readSigned?_eq_some_iff.1 hread
    exact ⟨g.negative, sign, g.digits, _, hsign, isNumeral_iff.2 ⟨hne, hdigits, rfl⟩, hs, rfl, rfl⟩

/-- The number of digits and the integer can be told from a text. -/
theorem WritesInteger.unique {s : List Char} {count count' : Nat} {n n' : Int}
    (h : WritesInteger s count n) (h' : WritesInteger s count' n') : count' = count ∧ n' = n := by
  obtain ⟨g, hread, rfl, rfl⟩ := writesInteger_iff.1 h
  obtain ⟨g', hread', rfl, rfl⟩ := writesInteger_iff.1 h'
  obtain rfl := Option.some.inj (hread.symm.trans hread')
  exact ⟨rfl, rfl⟩

/-- What is said of some number of digits and some integer that a text writes is said of these. -/
theorem WritesInteger.exists_iff {s : List Char} {count : Nat} {n : Int}
    (h : WritesInteger s count n) (P : Nat → Int → Prop) :
    (∃ count' n', WritesInteger s count' n' ∧ P count' n') ↔ P count n := by
  refine ⟨?_, fun hP => ⟨count, n, h, hP⟩⟩
  rintro ⟨count', n', h', hP⟩
  obtain ⟨rfl, rfl⟩ := h.unique h'
  exact hP

/-- The same holds for what is said of all of them. -/
theorem WritesInteger.forall_iff {s : List Char} {count : Nat} {n : Int}
    (h : WritesInteger s count n) (P : Nat → Int → Prop) :
    (∀ count' n', WritesInteger s count' n' → P count' n') ↔ P count n := by
  refine ⟨fun hP => hP count n h, fun hP count' n' h' => ?_⟩
  obtain ⟨rfl, rfl⟩ := h.unique h'
  exact hP

theorem WritesInteger.length_le {s : List Char} {count : Nat} {n : Int}
    (h : WritesInteger s count n) : s.length ≤ count + 1 := by
  obtain ⟨negative, sign, ds, m, hsign, -, rfl, rfl, -⟩ := h
  cases hsign <;> simp

theorem WritesInteger.exists_digit {s : List Char} {count : Nat} {n : Int}
    (h : WritesInteger s count n) : ∃ c ∈ s, c.isDigit = true := by
  obtain ⟨negative, sign, ds, m, -, hds, rfl, -, -⟩ := h
  obtain ⟨hne, hdigits, -⟩ := isNumeral_iff.1 hds
  obtain ⟨c, hc⟩ := List.exists_mem_of_ne_nil ds hne
  exact ⟨c, List.mem_append_right sign hc, hdigits c hc⟩

theorem isNumeral_toDigits (m : Nat) : IsNumeral (Nat.toDigits 10 m) m := by
  refine isNumeral_iff.2 ⟨Nat.toDigits_ne_nil, fun c hc => ?_, ?_⟩
  · exact Nat.isDigit_of_mem_toDigits (by decide) (by decide) hc
  · have hvalue : Nat.ofDigitChars 10 (Nat.toDigits 10 m) 0 = m := Nat.ofDigitChars_ten_toDigits
    rwa [Nat.ofDigitChars_eq_foldl] at hvalue

/-- The text of an integer writes it with the digits of its magnitude. -/
theorem writesInteger_toString (n : Int) :
    WritesInteger (toString n).toList (Nat.toDigits 10 n.natAbs).length n := by
  rw [Int.toString_eq_repr, Int.repr_eq_if]
  split
  · next hn =>
    obtain ⟨m, rfl⟩ := Int.eq_ofNat_of_zero_le hn
    exact ⟨false, [], _, m, .none, isNumeral_toDigits m, Nat.toList_repr, rfl, rfl⟩
  · next hn =>
    obtain ⟨m, hm⟩ := Int.eq_ofNat_of_zero_le (show 0 ≤ -n by omega)
    obtain rfl : n = -(m : Int) := by omega
    refine ⟨true, ['-'], _, m, .minus, isNumeral_toDigits m, ?_, by simp, rfl⟩
    rw [String.toList_append, Int.neg_neg, Int.toNat_natCast, Nat.toList_repr]
    rfl

/-! ### Decimal numbers -/

theorem readExponent?_cons_eq_none {c : Char} (h : c ≠ 'e') (h' : c ≠ 'E') (s : List Char) :
    readExponent? (c :: s) = none := by
  simp [readExponent?, h, h']

/-- A character that is neither a digit nor a point nor the mark of an exponent ends every attempt
to read a decimal number. -/
theorem readUnsigned?_eq_none (negative : Bool) {ds : List Char} {c : Char} {s : List Char}
    (hds : ∀ d ∈ ds, d.isDigit = true) (hc : c.isDigit = false) (hpoint : c ≠ '.')
    (he : c ≠ 'e') (he' : c ≠ 'E') : readUnsigned? negative (ds ++ c :: s) = none := by
  have hrest : (ds ++ c :: s).dropWhile Char.isDigit = c :: s := by
    rw [List.dropWhile_append_of_pos hds, List.dropWhile_cons_of_neg (by simp [hc])]
  unfold readUnsigned?
  rw [hrest]
  split
  · next r heq => exact absurd (List.cons.inj heq).1 hpoint
  · rw [readExponent?_cons_eq_none he he']
    simp

end DocQuery.Number
