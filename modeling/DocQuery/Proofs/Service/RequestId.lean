import DocQuery.Proofs.Text.Blank
import DocQuery.Service.RequestId

/-!
# Which identifier a request has

An identifier has 1 to 128 characters, all of them letters or digits of ASCII or one of `.`, `_` and
`-`. A request keeps the identifier that it brings, without the blanks around it, and gets a fresh
one if it brings none.

## Main definitions

* `RequestId.IsIdentifier`: the texts that may serve as identifiers.
* `RequestId.IsFresh`: the form of fresh identifiers.
* `RequestId.Chosen`: the identifier of a request.

## Main results

* `RequestId.isValid_eq_true_iff`: the specification of `RequestId.isValid`.
* `RequestId.choose_eq_iff`: the specification of `RequestId.choose`.
* `RequestId.Chosen.isIdentifier`: every request has an identifier of the right form.
-/

namespace DocQuery.RequestId

/-- Whether a text may serve as an identifier. -/
structure IsIdentifier (s : String) : Prop where
  /-- It is not empty. -/
  one_le_length : 1 ≤ s.toList.length
  /-- It has at most 128 characters. -/
  length_le : s.toList.length ≤ 128
  /-- It consists of letters and digits of ASCII and of three further characters. -/
  characters : ∀ c ∈ s.toList, ('A' ≤ c ∧ c ≤ 'Z') ∨ ('a' ≤ c ∧ c ≤ 'z') ∨ ('0' ≤ c ∧ c ≤ '9') ∨
    c = '.' ∨ c = '_' ∨ c = '-'

/-- Whether a text has the form of a fresh identifier: 32 hexadecimal digits. -/
structure IsFresh (s : String) : Prop where
  /-- It has 32 characters. -/
  length_eq : s.toList.length = 32
  /-- All of them are hexadecimal digits. -/
  digits : ∀ c ∈ s.toList,
    ('0' ≤ c ∧ c ≤ '9') ∨ ('a' ≤ c ∧ c ≤ 'f') ∨ ('A' ≤ c ∧ c ≤ 'F')

/-- The identifier of a request: what it brings without the blanks around it, if that may serve, and
the fresh one otherwise. -/
inductive Chosen (incoming : Option String) (fresh : String) : String → Prop
  | kept {v t : String} (hv : incoming = some v) (ht : Text.IsTrimOf t v) (hid : IsIdentifier t) :
      Chosen incoming fresh t
  | fresh (h : ∀ v, incoming = some v → ∀ t, Text.IsTrimOf t v → ¬IsIdentifier t) :
      Chosen incoming fresh fresh

theorem isAllowed_eq_true_iff {c : Char} :
    isAllowed c = true ↔ ('A' ≤ c ∧ c ≤ 'Z') ∨ ('a' ≤ c ∧ c ≤ 'z') ∨ ('0' ≤ c ∧ c ≤ '9') ∨
      c = '.' ∨ c = '_' ∨ c = '-' := by
  have hbetween (a b : Char) :
      (decide (c.val ≥ a.val) && decide (c.val ≤ b.val)) = true ↔ a ≤ c ∧ c ≤ b :=
    Bool.and_eq_true_iff.trans (and_congr decide_eq_true_iff decide_eq_true_iff)
  have hupper : c.isUpper = true ↔ 'A' ≤ c ∧ c ≤ 'Z' := decide_eq_true_iff
  have hlower : c.isLower = true ↔ 'a' ≤ c ∧ c ≤ 'z' := hbetween 'a' 'z'
  have hdigit : c.isDigit = true ↔ '0' ≤ c ∧ c ≤ '9' := hbetween '0' '9'
  have halpha : c.isAlpha = true ↔ c.isUpper = true ∨ c.isLower = true := Bool.or_eq_true_iff
  have halphanum : c.isAlphanum = true ↔ c.isAlpha = true ∨ c.isDigit = true :=
    Bool.or_eq_true_iff
  simp only [isAllowed, Bool.or_eq_true, decide_eq_true_eq, halphanum, halpha, hupper, hlower,
    hdigit, or_assoc]

/-- The specification of `isValid`. -/
theorem isValid_eq_true_iff {s : String} : isValid s = true ↔ IsIdentifier s := by
  simp only [isValid, Bool.and_eq_true, decide_eq_true_eq, List.all_eq_true, isAllowed_eq_true_iff,
    ← String.length_toList]
  exact ⟨fun ⟨⟨hpos, hle⟩, hall⟩ => ⟨hpos, hle, hall⟩,
    fun ⟨hpos, hle, hall⟩ => ⟨⟨hpos, hle⟩, hall⟩⟩

theorem IsFresh.isIdentifier {s : String} (h : IsFresh s) : IsIdentifier s := by
  refine ⟨by simp [h.length_eq], by simp [h.length_eq], fun c hc => ?_⟩
  rcases h.digits c hc with hdigit | ⟨hlow, hhigh⟩ | ⟨hlow, hhigh⟩
  · exact Or.inr (Or.inr (Or.inl hdigit))
  · exact Or.inr (Or.inl ⟨hlow, Char.le_trans hhigh (by decide : 'f' ≤ 'z')⟩)
  · exact Or.inl ⟨hlow, Char.le_trans hhigh (by decide : 'F' ≤ 'Z')⟩

variable {incoming : Option String} {fresh id : String}

/-- The identifier that is chosen. -/
theorem chosen_choose (incoming : Option String) (fresh : String) :
    Chosen incoming fresh (choose incoming fresh) := by
  unfold choose
  dsimp only
  split
  · next hvalid =>
    cases incoming with
    | none => exact absurd hvalid (by decide)
    | some v => exact .kept rfl (Text.isTrimOf_trim v) (isValid_eq_true_iff.1 hvalid)
  · next hvalid =>
    refine .fresh fun v hv t ht hid => hvalid ?_
    rw [hv, Option.getD_some, ht.trim_eq]
    exact isValid_eq_true_iff.2 hid

/-- Only one identifier is chosen. -/
theorem Chosen.unique {id' : String} (h : Chosen incoming fresh id)
    (h' : Chosen incoming fresh id') : id = id' := by
  cases h with
  | @kept v _ hv ht hid =>
    cases h' with
    | @kept v' _ hv' ht' _ =>
      obtain rfl := Option.some.inj (hv.symm.trans hv')
      rw [← ht.trim_eq, ← ht'.trim_eq]
    | fresh hnone => exact absurd hid (hnone v hv id ht)
  | fresh hnone =>
    cases h' with
    | kept hv ht hid => exact absurd hid (hnone _ hv _ ht)
    | fresh _ => rfl

/-- The specification of `choose`. -/
theorem choose_eq_iff : choose incoming fresh = id ↔ Chosen incoming fresh id :=
  ⟨fun h => h ▸ chosen_choose incoming fresh, (chosen_choose incoming fresh).unique⟩

/-- Every request has an identifier of the right form. -/
theorem Chosen.isIdentifier (h : Chosen incoming fresh id) (hfresh : IsFresh fresh) :
    IsIdentifier id := by
  cases h with
  | kept _ _ hid => exact hid
  | fresh _ => exact hfresh.isIdentifier

end DocQuery.RequestId
