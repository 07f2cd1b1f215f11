import DocQuery.Proofs.Calendar.LocalTime
import DocQuery.Proofs.Converter.Chain
import DocQuery.Proofs.Number.Decimal

/-!
# The forms that converters look for

Truth values and object identifiers are short words of letters and digits. An infinity begins with a
letter that stands for `i`, and a date with a year and a hyphen; neither is an integer, and a date
is no number. So it can be told from the form of a text which converters refuse it, and which of
them ends with a fault: that of integers with too many digits, that of numbers with a misspelt name,
and that of instants with a local time beyond the ends of the calendar.

## Main definitions

* `Converter.IsShortWord`: texts that may be truth values or object identifiers.
* `Converter.NamesInfinity`, `Converter.IsMisspelt`: the names of infinities, and those that are
  misspelt.

## Main results

* `Converter.refuses_of_not_isShortWord`: what the converters of words refuse.
* `Converter.refuses_integer_infinity`, `Converter.refuses_integer_date`,
  `Converter.refuses_number_date`: what is no integer and no number.
* `Converter.integer_overlong`, `Converter.number_misspelt`, `Converter.instant_out_of_range`: the
  faults.
-/

namespace DocQuery

open Calendar (readLocalTime?)
open Number (IsSign)
open Text (decimalDigit?)

namespace Converter

variable {s : String} {v : Value}

/-! ### Short words -/

/-- Whether a text is made of at most 24 letters and digits of ASCII. -/
structure IsShortWord (s : String) : Prop where
  /-- There are at most 24 characters. -/
  length_le : s.toList.length ≤ 24
  /-- All of them are letters and digits of ASCII. -/
  alphanum : ∀ c ∈ s.toList, c.isAlphanum = true

/-- Whether a character is a capital letter of ASCII. -/
def IsCapital (c : Char) : Prop := 'A'.val ≤ c.val ∧ c.val ≤ 'Z'.val

theorem isAlphanum_of_isCapital {c : Char} (h : IsCapital c) : c.isAlphanum = true := by
  have hupper : c.isUpper = true := decide_eq_true h
  change ((c.isUpper || c.isLower) || c.isDigit) = true
  rw [hupper, Bool.true_or, Bool.true_or]

theorem isAlphanum_of_small {c : Char} (hlow : 'a'.val ≤ c.val) (hhigh : c.val ≤ 'z'.val) :
    c.isAlphanum = true := by
  have hlower : c.isLower = true :=
    Bool.and_eq_true_iff.2 ⟨decide_eq_true hlow, decide_eq_true hhigh⟩
  change ((c.isUpper || c.isLower) || c.isDigit) = true
  rw [hlower, Bool.or_true, Bool.true_or]

theorem isAlphanum_of_isDigit {c : Char} (h : c.isDigit = true) : c.isAlphanum = true := by
  change ((c.isUpper || c.isLower) || c.isDigit) = true
  rw [h, Bool.or_true]

theorem toLower_eq_self {c : Char} (h : ¬IsCapital c) : c.toLower = c := dif_neg h

theorem isAlphanum_of_toLower {c : Char} (h : c.toLower.isAlphanum = true) :
    c.isAlphanum = true := by
  by_cases hcapital : IsCapital c
  · exact isAlphanum_of_isCapital hcapital
  · rwa [toLower_eq_self hcapital] at h

/-- A truth value is one of four words, in any case. -/
theorem lower_mem_of_boolean (h : boolean s = .ok v) :
    Text.lower s ∈ ["true", "yes", "false", "no"] := by
  simp only [List.mem_cons, List.not_mem_nil, or_false, ← or_assoc]
  unfold boolean at h
  dsimp only at h
  split_ifs at h with htrue hfalse
  · exact Or.inl (Or.inl htrue)
  · exact or_assoc.2 (Or.inr hfalse)

theorem isShortWord_of_boolean (h : boolean s = .ok v) : IsShortWord s := by
  have hwords : ∀ word ∈ ["true", "yes", "false", "no"],
      word.toList.length ≤ 24 ∧ word.toList.all Char.isAlphanum = true := by decide
  obtain ⟨hlength, hletters⟩ := hwords _ (lower_mem_of_boolean h)
  rw [Text.toList_lower, List.length_map] at hlength
  rw [Text.toList_lower, List.all_eq_true] at hletters
  exact ⟨hlength, fun c hc => isAlphanum_of_toLower (hletters _ (List.mem_map_of_mem hc))⟩

theorem isShortWord_of_objectId {d : Dialect} (h : objectId d s = .ok v) : IsShortWord s := by
  unfold objectId at h
  split at h
  · cases h
  · next hform =>
    rw [Bool.not_eq_true, Bool.not_eq_false', isObjectId, Bool.and_eq_true, Bool.or_eq_true,
      decide_eq_true_eq, decide_eq_true_eq, List.all_eq_true] at hform
    refine ⟨by omega, fun c hc => ?_⟩
    have hletter := hform.2 c hc
    simp only [Bool.or_eq_true, Bool.and_eq_true, decide_eq_true_eq] at hletter
    rcases hletter with (hdigit | ⟨hlow, hhigh⟩) | ⟨hlow, hhigh⟩
    · exact isAlphanum_of_isDigit hdigit
    · exact isAlphanum_of_small hlow (UInt32.le_trans hhigh (by decide))
    · exact isAlphanum_of_isCapital ⟨hlow, UInt32.le_trans hhigh (by decide)⟩

theorem refuses_boolean_or_ok (s : String) : boolean.Refuses s ∨ ∃ v, boolean s = .ok v := by
  unfold Refuses boolean
  dsimp only
  split_ifs
  · exact Or.inr ⟨_, rfl⟩
  · exact Or.inr ⟨_, rfl⟩
  · exact Or.inl ⟨_, rfl, rfl⟩

/-- The factory of a dialect may fail in any way; its failure is a refusal. -/
theorem refuses_objectId_or_ok (d : Dialect) (s : String) :
    (objectId d).Refuses s ∨ ∃ v, objectId d s = .ok v := by
  unfold Refuses objectId
  split
  · exact Or.inl ⟨_, rfl, rfl⟩
  · split
    · exact Or.inr ⟨_, rfl⟩
    · next f _ =>
      by_cases hf : isMismatch f = true
      · exact Or.inl ⟨f, by rw [if_pos hf], hf⟩
      · exact Or.inl ⟨_, by rw [if_neg hf], rfl⟩

/-- A text that is no short word is refused by the converters that look for words. -/
theorem refuses_of_not_isShortWord (d : Option Dialect) (h : ¬IsShortWord s) :
    ∀ f ∈ ofWords d, f.Refuses s := by
  intro f hf
  rcases List.mem_cons.1 hf with rfl | hf
  · exact (refuses_boolean_or_ok s).resolve_right fun ⟨_, hv⟩ => h (isShortWord_of_boolean hv)
  · obtain ⟨d', -, rfl⟩ := Option.map_eq_some_iff.1 (Option.mem_toList.1 hf)
    exact (refuses_objectId_or_ok d' s).resolve_right fun ⟨_, hv⟩ => h (isShortWord_of_objectId hv)

/-! ### Names of infinities -/

/-- Whether a text without sign is the name of an infinity. -/
def NamesInfinity (name : List Char) : Prop :=
  name.map nameLetter = "inf".toList ∨ name.map nameLetter = "infinity".toList

/-- Whether a text without sign is the name of an infinity that is spelled with `ı` or `İ`. -/
structure IsMisspelt (name : List Char) : Prop where
  /-- The text is the name of an infinity. -/
  infinity : NamesInfinity name
  /-- One of its letters only resembles `i`. -/
  letter : ∃ c ∈ name, c = '\u0130' ∨ c = '\u0131'

theorem not_isCapital {c : Char} (hc : ¬c.toNat < 0x80) : ¬IsCapital c := by
  intro h
  have hz : c.toNat ≤ 'Z'.toNat := UInt32.le_iff_toNat_le.1 h.2
  exact hc (Nat.lt_of_le_of_lt hz (by decide))

/-- A letter outside of ASCII that stands for one of ASCII is `ı` or `İ` and stands for `i`. -/
theorem nameLetter_eq {c : Char} (hc : ¬c.toNat < 0x80) (h : (nameLetter c).toNat < 0x80) :
    (c = '\u0130' ∨ c = '\u0131') ∧ nameLetter c = 'i' := by
  by_cases hletter : c = '\u0130' ∨ c = '\u0131'
  · exact ⟨hletter, if_pos hletter⟩
  · rw [nameLetter, if_neg hletter, toLower_eq_self (not_isCapital hc)] at h
    exact absurd h hc

/-- The name of a special number that is not spelled with letters of ASCII is misspelt. -/
theorem isMisspelt_of_special? {negative : Bool} {name : List Char} {x : Number.Binary64}
    (h : special? negative name = some x) (hplain : isPlain name = false) :
    IsMisspelt name := by
  obtain ⟨c, hc, hcode⟩ : ∃ c ∈ name, ¬c.toNat < 0x80 := by
    simpa [isPlain] using hplain
  have hmem : nameLetter c ∈ name.map nameLetter := List.mem_map_of_mem hc
  have hletter {word : List Char} (hname : name.map nameLetter = word)
      (hword : word.all (fun c => c.toNat < 0x80) = true) :=
    nameLetter_eq hcode (of_decide_eq_true (List.all_eq_true.1 hword _ (hname ▸ hmem)))
  unfold special? at h
  dsimp only at h
  split_ifs at h with hnan hinf
  · have hi := (hletter hnan (by decide)).2
    rw [hnan, hi] at hmem
    exact absurd hmem (by decide)
  · refine ⟨hinf, c, hc, ?_⟩
    rcases hinf with hinf | hinf
    · exact (hletter hinf (by decide)).1
    · exact (hletter hinf (by decide)).1

/-- The letters that stand for `i` in a name. -/
def lettersForI : List Char := ['i', 'I', '\u0130', '\u0131']

theorem mem_lettersForI {c : Char} (h : nameLetter c = 'i') : c ∈ lettersForI := by
  by_cases hletter : c = '\u0130' ∨ c = '\u0131'
  · rcases hletter with rfl | rfl <;> decide
  · rw [nameLetter, if_neg hletter] at h
    by_cases hcapital : IsCapital c
    · obtain ⟨hvalid, hlower⟩ : ∃ hvalid, c.toLower = ⟨c.val + ('a'.val - 'A'.val), hvalid⟩ :=
        ⟨_, dif_pos hcapital⟩
      have hcode : c.val + ('a'.val - 'A'.val) = 'i'.val := congrArg Char.val (hlower.symm.trans h)
      have hval : c.val = 'i'.val - ('a'.val - 'A'.val) := by
        rw [← hcode, UInt32.add_sub_cancel]
      have hc : c = 'I' := Char.ext hval
      rw [hc]
      decide
    · rw [toLower_eq_self hcapital] at h
      rw [h]
      decide

theorem forall_mem_lettersForI {P : Char → Prop}
    (h : P 'i' ∧ P 'I' ∧ P '\u0130' ∧ P '\u0131') : ∀ c ∈ lettersForI, P c := by
  intro c hc
  simp only [lettersForI, List.mem_cons, List.not_mem_nil, or_false] at hc
  rcases hc with rfl | rfl | rfl | rfl
  · exact h.1
  · exact h.2.1
  · exact h.2.2.1
  · exact h.2.2.2

/-- An infinity is spelled with a letter that stands for `i` at the beginning. -/
theorem exists_cons_of_infinity {name : List Char} (h : NamesInfinity name) :
    ∃ c rest, name = c :: rest ∧ c ∈ lettersForI := by
  cases name with
  | nil => rcases h with h | h <;> cases h
  | cons c rest =>
    refine ⟨c, rest, rfl, mem_lettersForI ?_⟩
    rcases h with h | h
    · exact (List.cons.inj h).1
    · exact (List.cons.inj h).1

variable {negative : Bool} {sign name : List Char}

theorem takeSign_infinity (hs : s.toList = sign ++ name) (hsign : IsSign negative sign)
    (hname : NamesInfinity name) : Number.takeSign s.toList = (negative, name) := by
  obtain ⟨c, rest, rfl, hc⟩ := exists_cons_of_infinity hname
  have hne : ∀ c ∈ lettersForI, c ≠ '+' ∧ c ≠ '-' := forall_mem_lettersForI (by decide)
  rw [hs]
  exact Number.takeSign_append hsign (fun h => (hne c hc).1 (Option.some.inj h))
    fun h => (hne c hc).2 (Option.some.inj h)

theorem refuses_integer_infinity (hs : s.toList = sign ++ name) (hsign : IsSign negative sign)
    (hname : NamesInfinity name) : integer.Refuses s := by
  have hsplit := takeSign_infinity hs hsign hname
  obtain ⟨c, rest, rfl, hc⟩ := exists_cons_of_infinity hname
  have hdigit : ∀ c ∈ lettersForI, c.isDigit = false := forall_mem_lettersForI (by decide)
  have hread : Number.readSigned? s.toList = none := by
    rw [Number.readSigned?, hsplit]
    exact if_neg fun h => by simp [hdigit c hc] at h
  refine ⟨refuse s (.notInteger s), ?_, rfl⟩
  rw [integer, hread]

/-- An infinity whose name is misspelt is recognised and cannot be read. -/
theorem number_misspelt (hs : s.toList = sign ++ name) (hsign : IsSign negative sign)
    (hname : IsMisspelt name) : number s = .error (.fault (.unreadableNumber s)) := by
  have hsplit := takeSign_infinity hs hsign hname.infinity
  have hread : Number.readDecimal? s.toList = none := by
    obtain ⟨c, rest, rfl, hc⟩ := exists_cons_of_infinity hname.infinity
    have hfirst : ∀ c ∈ lettersForI, c.isDigit = false ∧ c ≠ '.' ∧ c ≠ 'e' ∧ c ≠ 'E' :=
      forall_mem_lettersForI (by decide)
    obtain ⟨hdigit, hpoint, he, he'⟩ := hfirst c hc
    have hnone : Number.readUnsigned? negative ([] ++ c :: rest) = none :=
      Number.readUnsigned?_eq_none negative nofun hdigit hpoint he he'
    rw [Number.readDecimal?, hsplit]
    exact hnone
  have hspecial : special? negative name = some (.infinity negative) := by
    have hnan : name.map nameLetter ≠ "nan".toList := by
      rcases hname.infinity with h | h <;> rw [h] <;> decide
    rw [special?, if_neg hnan]
    exact if_pos hname.infinity
  have hplain : isPlain name = false := by
    obtain ⟨c, hc, hcode⟩ := hname.letter
    refine List.all_eq_false.2 ⟨c, hc, ?_⟩
    rcases hcode with rfl | rfl <;> decide
  rw [number, hread]
  dsimp only
  rw [hsplit]
  dsimp only
  rw [hspecial, hplain]
  rfl

/-! ### Dates -/

/-- A date has no sign in front of its year. -/
theorem takeSign_date {ds rest : List Char} (hs : s.toList = ds ++ '-' :: rest)
    (hlength : ds.length = 4) (hds : ∀ c ∈ ds, (decimalDigit? c).isSome = true) :
    Number.takeSign s.toList = (false, s.toList) := by
  have hhead {c : Char} (hc : (decimalDigit? c).isSome = false) : s.toList.head? ≠ some c := by
    obtain ⟨d, ds', rfl⟩ := List.exists_cons_of_length_pos (hlength ▸ (by decide : 0 < 4))
    rw [hs]
    intro h
    obtain rfl := Option.some.inj h
    rw [hds d List.mem_cons_self] at hc
    cases hc
  exact Number.takeSign_append .none (hhead rfl) (hhead rfl)

theorem refuses_integer_date {l : Calendar.LocalTime} (h : readLocalTime? s = some l) :
    integer.Refuses s := by
  obtain ⟨ds, rest, hs, hlength, hds⟩ := Calendar.exists_of_readLocalTime? h
  have hread : Number.readSigned? s.toList = none := by
    rw [Number.readSigned?, takeSign_date hs hlength hds]
    exact if_neg fun h => by simp [hs] at h
  refine ⟨refuse s (.notInteger s), ?_, rfl⟩
  rw [integer, hread]

/-- Behind the digits of ASCII at the beginning of a year stands a digit of another script or the
hyphen. -/
theorem exists_append_cons_of_year {ds : List Char}
    (hds : ∀ c ∈ ds, (decimalDigit? c).isSome = true) (rest : List Char) :
    ∃ ds' c rest', ds ++ '-' :: rest = ds' ++ c :: rest' ∧ (∀ d ∈ ds', d.isDigit = true) ∧
      c.isDigit = false ∧ (c = '-' ∨ (decimalDigit? c).isSome = true) := by
  induction ds with
  | nil => exact ⟨[], '-', rest, rfl, nofun, rfl, Or.inl rfl⟩
  | cons d ds ih =>
    obtain ⟨hd, hrest⟩ := List.forall_mem_cons.1 hds
    by_cases hdigit : d.isDigit = true
    · obtain ⟨ds', c, rest', hsplit, hds', hc⟩ := ih hrest
      refine ⟨d :: ds', c, rest', ?_, List.forall_mem_cons.2 ⟨hdigit, hds'⟩, hc⟩
      rw [List.cons_append, hsplit, List.cons_append]
    · exact ⟨[], d, ds ++ '-' :: rest, rfl, nofun, eq_false_of_ne_true hdigit, Or.inr hd⟩

theorem refuses_number_date {l : Calendar.LocalTime} (h : readLocalTime? s = some l) :
    number.Refuses s := by
  obtain ⟨ds, rest, hs, hlength, hds⟩ := Calendar.exists_of_readLocalTime? h
  have hsplit := takeSign_date hs hlength hds
  have hread : Number.readDecimal? s.toList = none := by
    obtain ⟨ds', c, rest', heq, hds', hdigit, hc⟩ := exists_append_cons_of_year hds rest
    have hne {m : Char} (hm : m ≠ '-' ∧ (decimalDigit? m).isSome = false) : c ≠ m := by
      rintro rfl
      rcases hc with hc | hc
      · exact hm.1 hc
      · rw [hm.2] at hc
        cases hc
    rw [Number.readDecimal?, hsplit]
    dsimp only
    rw [hs, heq]
    exact Number.readUnsigned?_eq_none false hds' hdigit (hne (by decide)) (hne (by decide))
      (hne (by decide))
  have hspecial : special? false s.toList = none := by
    have hmem : '-' ∈ s.toList.map nameLetter :=
      List.mem_map.2 ⟨'-', hs ▸ by simp, by decide⟩
    have hword {word : List Char} (hword : '-' ∉ word) : s.toList.map nameLetter ≠ word :=
      fun heq => hword (heq ▸ hmem)
    rw [special?, if_neg (hword (by decide))]
    exact if_neg (not_or.2 ⟨hword (by decide), hword (by decide)⟩)
  refine ⟨refuse s (.notNumber s), ?_, rfl⟩
  rw [number, hread]
  dsimp only
  rw [hsplit]
  dsimp only
  rw [hspecial]

theorem instant_out_of_range {l : Calendar.LocalTime} (h : readLocalTime? s = some l)
    (hout : l.LeavesCalendar) : instant s = .error (.fault .instantOutOfRange) := by
  rw [instant, h]
  dsimp only
  rw [(Calendar.instant?_eq_none_iff h).2 hout]

/-! ### Overlong integers -/

theorem integer_overlong {ds : List Char} (hs : s.toList = sign ++ ds)
    (hsign : IsSign negative sign) (hds : ∀ c ∈ ds, c.isDigit = true)
    (hlong : digitLimit < ds.length) :
    integer s = .error (.fault (.tooManyDigits ds.length)) := by
  have hne : ds ≠ [] := List.ne_nil_of_length_pos (Nat.zero_lt_of_lt hlong)
  have hread : Number.readSigned? s.toList = some ⟨negative, ds⟩ :=
    Number.readSigned?_eq_some_iff.2 ⟨sign, hsign, hs, hne, hds⟩
  rw [integer, hread]
  exact if_pos hlong

end Converter

end DocQuery
