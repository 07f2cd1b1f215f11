import DocQuery.Converter.Chain

/-!
# What a chain makes of a text

A chain passes over the converters that refuse a text and stops at the first one that does anything
else: it takes the value, or the failure. So a chain that ends with the converter of texts makes the
value of the first converter that has one, and the text itself if none has, as long as every other
failure is a refusal.

## Main definitions

* `Converter.Refuses`: whether a converter passes a text on.
* `Converter.MakesFirst`: the value of the first converter that makes one.
* `Converter.ofWords`, `Converter.typing`: the converters that look for a type.

## Main results

* `Converter.firstOf_append_of_refuses`: converters that refuse a text are passed over.
* `Converter.firstOf_append_text_eq_ok_iff`: the value where texts are accepted in the end.
* `Converter.firstOf_append_text`: what accepting texts in the end changes.
* `Chain.converters_standard`: the converters of the standard chain.
-/

namespace DocQuery

namespace Converter

/-- Whether a converter refuses a text, so that a chain tries the next one. -/
def Refuses (f : Converter) (s : String) : Prop := ∃ e, f s = .error e ∧ isMismatch e = true

/-- Whether a value is made by the first converter of a list that makes one. -/
def MakesFirst (fs : List Converter) (s : String) (v : Value) : Prop :=
  ∃ before f after, fs = before ++ f :: after ∧ (∀ g ∈ before, ∀ w, g s ≠ .ok w) ∧ f s = .ok v

variable {f : Converter} {fs gs : List Converter} {s : String} {v : Value}

theorem Refuses.ne_ok (h : f.Refuses s) (v : Value) : f s ≠ .ok v := by
  obtain ⟨e, he, -⟩ := h
  rw [he]
  exact nofun

/-- Converters that refuse a text are passed over. -/
theorem firstOf_append_of_refuses (h : ∀ f ∈ fs, f.Refuses s) :
    firstOf (fs ++ gs) s = firstOf gs s := by
  induction fs with
  | nil => rfl
  | cons f fs ih =>
    obtain ⟨⟨e, he, hmismatch⟩, hrest⟩ := List.forall_mem_cons.1 h
    rw [List.cons_append, firstOf, he]
    simp only [hmismatch, if_true]
    exact ih hrest

theorem firstOf_cons_of_ok (h : f s = .ok v) : firstOf (f :: fs) s = .ok v := by
  rw [firstOf, h]

theorem firstOf_cons_of_fault {e : Fault} (h : f s = .error (.fault e)) :
    firstOf (f :: fs) s = .error (.fault e) := by
  rw [firstOf, h]
  rfl

/-- Of converters that make a value or refuse, all refuse, or one is the first that does not. -/
theorem forall_refuses_or_exists (h : ∀ f ∈ fs, f.Refuses s ∨ ∃ v, f s = .ok v) :
    (∀ f ∈ fs, f.Refuses s) ∨ ∃ before f after v, fs = before ++ f :: after ∧
      (∀ g ∈ before, g.Refuses s) ∧ f s = .ok v := by
  induction fs with
  | nil => exact Or.inl fun f hf => absurd hf List.not_mem_nil
  | cons f fs ih =>
    obtain ⟨hf, hrest⟩ := List.forall_mem_cons.1 h
    rcases hf with hf | ⟨v, hv⟩
    · rcases ih hrest with hall | ⟨before, g, after, v, rfl, hbefore, hv⟩
      · exact Or.inl (List.forall_mem_cons.2 ⟨hf, hall⟩)
      · exact Or.inr ⟨f :: before, g, after, v, rfl, List.forall_mem_cons.2 ⟨hf, hbefore⟩, hv⟩
    · exact Or.inr ⟨[], f, fs, v, rfl, fun g hg => absurd hg List.not_mem_nil, hv⟩

/-- Where texts are accepted in the end and every converter makes a value or refuses, the value is
that of the first converter that makes one, or the text itself if none does. -/
theorem firstOf_append_text_eq_ok_iff (h : ∀ f ∈ fs, f.Refuses s ∨ ∃ v, f s = .ok v) :
    firstOf (fs ++ [text]) s = .ok v ↔
      MakesFirst fs s v ∨ (v = .text s ∧ ∀ f ∈ fs, ∀ w, f s ≠ .ok w) := by
  have hvalue {before after : List Converter} {g : Converter} {w : Value}
      (hfs : fs = before ++ g :: after) (hbefore : ∀ g' ∈ before, ∀ w', g' s ≠ .ok w')
      (hw : g s = .ok w) : firstOf (fs ++ [text]) s = .ok w := by
    have hrefuses : ∀ g' ∈ before, g'.Refuses s := by
      intro g' hg'
      refine (h g' (hfs ▸ List.mem_append_left _ hg')).resolve_right ?_
      rintro ⟨w', hw'⟩
      exact hbefore g' hg' w' hw'
    rw [hfs, List.append_assoc, firstOf_append_of_refuses hrefuses, List.cons_append,
      firstOf_cons_of_ok hw]
  have htext (hnone : ∀ f ∈ fs, ∀ w, f s ≠ .ok w) :
      firstOf (fs ++ [text]) s = .ok (.text s) := by
    rw [firstOf_append_of_refuses fun f hf => (h f hf).resolve_right fun ⟨w, hw⟩ => hnone f hf w hw]
    rfl
  constructor
  · intro hv
    rcases forall_refuses_or_exists h with hall | ⟨before, g, after, w, hfs, hbefore, hw⟩
    · have hnone : ∀ f ∈ fs, ∀ w, f s ≠ .ok w := fun f hf => (hall f hf).ne_ok
      rw [htext hnone] at hv
      exact Or.inr ⟨(Except.ok.inj hv).symm, hnone⟩
    · have hne : ∀ g' ∈ before, ∀ w', g' s ≠ .ok w' := fun g' hg' => (hbefore g' hg').ne_ok
      rw [hvalue hfs hne hw] at hv
      exact Or.inl ⟨before, g, after, hfs, hne, Except.ok.inj hv ▸ hw⟩
  · rintro (⟨before, g, after, hfs, hbefore, hw⟩ | ⟨rfl, hnone⟩)
    · exact hvalue hfs hbefore hw
    · exact htext hnone

/-- Where texts are accepted in the end and every converter makes a value or refuses, there is a
value. -/
theorem exists_firstOf_append_text (h : ∀ f ∈ fs, f.Refuses s ∨ ∃ v, f s = .ok v) :
    ∃ v, firstOf (fs ++ [text]) s = .ok v := by
  rcases forall_refuses_or_exists h with hall | ⟨before, g, after, w, hfs, hbefore, hw⟩
  · have hnone : ∀ f ∈ fs, ∀ w, f s ≠ .ok w := fun f hf => (hall f hf).ne_ok
    exact ⟨.text s, (firstOf_append_text_eq_ok_iff h).2 (Or.inr ⟨rfl, hnone⟩)⟩
  · have hne : ∀ g' ∈ before, ∀ w', g' s ≠ .ok w' := fun g' hg' => (hbefore g' hg').ne_ok
    exact ⟨w, (firstOf_append_text_eq_ok_iff h).2 (Or.inl ⟨before, g, after, hfs, hne, hw⟩)⟩

/-- Accepting texts in the end changes nothing for a text unless every converter refuses it. Then
the text is left as it is, which is refused otherwise. -/
theorem firstOf_append_text (fs : List Converter) (s : String) :
    firstOf (fs ++ [text]) s = firstOf fs s ∨
      (firstOf (fs ++ [text]) s = .ok (.text s) ∧
        firstOf fs s = .error (refuse s (.noConverterMatched s))) := by
  induction fs with
  | nil => exact Or.inr ⟨rfl, rfl⟩
  | cons f fs ih =>
    rw [List.cons_append, firstOf, firstOf]
    cases f s with
    | ok v => exact Or.inl rfl
    | error e =>
      by_cases hmismatch : isMismatch e = true
      · simp only [hmismatch, if_true]
        exact ih
      · simp only [hmismatch, Bool.false_eq_true, if_false, true_or]

/-- The converters that look for words: those of truth values and, if there is a dialect, of object
identifiers. -/
def ofWords (d : Option Dialect) : List Converter := boolean :: (d.map objectId).toList

/-- The converters that look for the type of a text, in the order in which they are tried. -/
def typing (d : Option Dialect) : List Converter := ofWords d ++ [integer, number, instant]

end Converter

/-- The standard chain looks for a type, and then takes the text if that is allowed. -/
theorem Chain.converters_standard (d : Option Dialect) (allowText : Bool) :
    (standard d allowText).converters =
      Converter.typing d ++ if allowText then [Converter.text] else [] := by
  simp [converters, standard, Converter.typing, Converter.ofWords]

end DocQuery
