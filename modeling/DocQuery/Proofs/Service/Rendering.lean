import DocQuery.Proofs.Converter.Timestamp
import DocQuery.Proofs.Criteria.PlainDocument
import DocQuery.Service.Answer

/-!
# Values told from what is sent

An answer is read as JSON, where the entries of a mapping have no order. What is sent of a leaf, a
regular expression or a list of these tells which value it was, with one exception: the infinities
and the value that is not a number are all sent as nothing. An instant is sent as its text, so this
needs that no text is that of an instant.

## Main definitions

* `Value.SameJson`: values that are the same JSON.
* `Value.SentAsOne`, `Value.SentAlike`: single values, and lists of them, that are equal but for
  numbers that are not finite.

## Main results

* `Value.lookup_renderedFields`: what is sent under a key.
* `Calendar.Instant.text_injective`: instants have different texts.
* `Value.sentAlike_of_sameJson`: elements and lists of them told from what is sent.
* `Value.SentAlike.sameJson`: what is sent of values that are equal but for such numbers.
-/

namespace DocQuery

open Calendar (Instant)

/-- Instants have different texts. -/
theorem Calendar.Instant.text_injective : Function.Injective Instant.text := by
  intro t t' h
  have hread := readLocalTime?_text t
  rw [h, readLocalTime?_text t'] at hread
  have hinstant := t'.instant?_localTime
  rw [Option.some.inj hread, t.instant?_localTime] at hinstant
  exact Option.some.inj hinstant

/-! ### Related options -/

section Option

variable {α β γ δ : Type} {o : Option α} {o' : Option β}

/-- What relates two options can be weakened for the values that they hold. -/
theorem optionRel_imp {R S : α → β → Prop} (h : Option.Rel R o o')
    (himp : ∀ a, o = some a → ∀ b, o' = some b → R a b → S a b) : Option.Rel S o o' := by
  cases h with
  | some hab => exact .some (himp _ rfl _ rfl hab)
  | none => exact .none

theorem optionRel_map_iff {R : γ → δ → Prop} {f : α → γ} {g : β → δ} :
    Option.Rel R (o.map f) (o'.map g) ↔ Option.Rel (fun a b => R (f a) (g b)) o o' := by
  constructor
  · intro h
    match o, o', h with
    | some _, some _, .some hab => exact .some hab
    | none, none, _ => exact .none
  · intro h
    cases h with
    | some hab => exact .some hab
    | none => exact .none

end Option

namespace Value

/-! ### JSON -/

/-- Whether values are the same JSON: the entries of mappings have no order, and integers are
different from floating-point numbers. -/
inductive SameJson : Value → Value → Prop
  | refl (v : Value) : SameJson v v
  | list {vs ws : List Value} (h : List.Forall₂ SameJson vs ws) : SameJson (.list vs) (.list ws)
  | object {fields fields' : List (String × Value)}
      (h : ∀ key, Option.Rel SameJson (fields.lookup key) (fields'.lookup key)) :
      SameJson (.object fields) (.object fields')

/-- Whether a value is neither a list nor a mapping. -/
def IsFlat : Value → Prop
  | .list _ => False
  | .object _ => False
  | _ => True

/-- Whether single values are sent alike: they are equal, or neither of them is a finite number. -/
inductive SentAsOne : Value → Value → Prop
  | refl (v : Value) : SentAsOne v v
  | notFinite {x y : Number.Binary64} (hx : x.isFinite = false) (hy : y.isFinite = false) :
      SentAsOne (.float x) (.float y)

/-- Whether single values or lists of them are sent alike. -/
inductive SentAlike : Value → Value → Prop
  | single {v w : Value} (h : v.SentAsOne w) : SentAlike v w
  | list {vs ws : List Value} (h : List.Forall₂ SentAsOne vs ws) : SentAlike (.list vs) (.list ws)

namespace SameJson

theorem forall₂ {vs ws : List Value} (h : SameJson (.list vs) (.list ws)) :
    List.Forall₂ SameJson vs ws := by
  cases h with
  | refl => exact List.forall₂_same.2 fun v _ => .refl v
  | list h => exact h

theorem lookup {fields fields' : List (String × Value)}
    (h : SameJson (.object fields) (.object fields')) (key : String) :
    Option.Rel SameJson (fields.lookup key) (fields'.lookup key) := by
  cases h with
  | refl =>
    cases fields.lookup key with
    | none => exact .none
    | some v => exact .some (.refl v)
  | object h => exact h key

/-- No other value is the same JSON as one that is neither a list nor a mapping. -/
theorem eq_of_isFlat_left {v w : Value} (h : SameJson v w) (hv : v.IsFlat) : v = w := by
  cases h with
  | refl => rfl
  | list => exact hv.elim
  | object => exact hv.elim

theorem eq_of_isFlat_right {v w : Value} (h : SameJson v w) (hw : w.IsFlat) : v = w := by
  cases h with
  | refl => rfl
  | list => exact hw.elim
  | object => exact hw.elim

/-- Mappings with the same JSON under the same keys are the same JSON. -/
theorem of_forall₂ {fields fields' : List (String × Value)}
    (h : List.Forall₂ (fun f f' => f.1 = f'.1 ∧ SameJson f.2 f'.2) fields fields') :
    SameJson (.object fields) (.object fields') := by
  refine .object fun key => ?_
  induction h with
  | nil => exact .none
  | @cons f f' fields fields' hf _ ih =>
    obtain ⟨k, v⟩ := f
    obtain ⟨k', v'⟩ := f'
    obtain ⟨rfl, hv⟩ := hf
    rw [List.lookup_cons, List.lookup_cons]
    cases key == k with
    | true => exact .some hv
    | false => exact ih

end SameJson

/-! ### What is sent -/

theorem renderedList_eq (vs : List Value) : renderedList vs = vs.map rendered := by
  induction vs with
  | nil => rfl
  | cons v vs ih => rw [renderedList, ih, List.map_cons]

/-- What is sent under a key. -/
theorem lookup_renderedFields (fields : List (String × Value)) (key : String) :
    (renderedFields fields).lookup key =
      if isHidden key then none else (fields.lookup key).map rendered := by
  induction fields with
  | nil => simp [renderedFields]
  | cons f fields ih =>
    obtain ⟨k, v⟩ := f
    rw [renderedFields]
    by_cases hkey : key = k
    · subst hkey
      by_cases hhidden : isHidden key = true
      · simp [hhidden, ih]
      · simp [hhidden]
    · have hne : (key == k) = false := beq_eq_false_iff_ne.2 hkey
      split <;> simp [List.lookup_cons, hne, ih]

/-! ### Elements -/

variable {v w : Value}

/-- An element is sent as it is, or it is an instant, or a number that is not finite. -/
theorem IsElement.rendered_cases (h : v.IsElement) :
    v.rendered = v ∨ (∃ t, v = .instant t ∧ v.rendered = .text t.text) ∨
      ∃ x : Number.Binary64, v = .float x ∧ x.isFinite = false ∧ v.rendered = .null := by
  rcases h with h | ⟨pattern, options⟩
  · cases h with
    | float x =>
      cases hx : x.isFinite with
      | true => exact Or.inl (if_pos hx)
      | false => exact Or.inr (Or.inr ⟨x, rfl, hx, by simp [rendered, hx]⟩)
    | instant t => exact Or.inr (Or.inl ⟨t, rfl, rfl⟩)
    | objectId => exact Or.inl rfl
    | _ => exact Or.inl rfl
  · exact Or.inl rfl

/-- Mappings that are the same JSON have the same keys. -/
theorem SameJson.isSome_lookup {fields fields' : List (String × Value)}
    (h : SameJson (.object fields) (.object fields')) (key : String) :
    (fields.lookup key).isSome = (fields'.lookup key).isSome := by
  have hkey := h.lookup key
  generalize fields.lookup key = o, fields'.lookup key = o' at hkey
  cases hkey with
  | some => rfl
  | none => rfl

/-- The texts under a key of mappings that are the same JSON. -/
theorem SameJson.text_of_lookup {fields fields' : List (String × Value)}
    (h : SameJson (.object fields) (.object fields')) (key : String) {s s' : String}
    (hs : fields.lookup key = some (.text s)) (hs' : fields'.lookup key = some (.text s')) :
    s = s' := by
  have hkey := h.lookup key
  rw [hs, hs'] at hkey
  obtain ⟨htext⟩ := hkey
  exact Value.text.inj (htext.eq_of_isFlat_left trivial)

/-- Elements that are the same JSON are equal. -/
theorem IsElement.eq_of_sameJson (hv : v.IsElement) (hw : w.IsElement) (h : v.SameJson w) :
    v = w := by
  cases h with
  | refl => rfl
  | list => rcases hv with h | h <;> cases h
  | @object fields fields' h =>
    have hjson : SameJson (.object fields) (.object fields') := .object h
    rcases hv with hv | hv <;> rcases hw with hw | hw
    · cases hv with
      | @objectId digits =>
        cases hw with
        | @objectId digits' => rw [hjson.text_of_lookup "$oid" rfl rfl]
    · cases hv with
      | objectId =>
        cases hw with
        | mk => cases hjson.isSome_lookup "$oid"
    · cases hv with
      | mk =>
        cases hw with
        | objectId => cases hjson.isSome_lookup "$oid"
    · cases hv with
      | mk pattern options =>
        cases hw with
        | mk pattern' options' =>
          obtain ⟨hregex⟩ := hjson.lookup "$regularExpression"
          rw [hregex.text_of_lookup "pattern" rfl rfl,
            hregex.text_of_lookup "options" rfl rfl]

/-- Elements can be told from what is sent of them, if none is the text of an instant. -/
theorem IsElement.sentAsOne_of_sameJson (hv : v.IsElement) (hw : w.IsElement)
    (hv' : v.IsTimeless) (hw' : w.IsTimeless) (h : v.rendered.SameJson w.rendered) :
    v.SentAsOne w := by
  have hnull {x : Value} (hx : x.IsElement) : x ≠ .null := by
    rintro rfl
    rcases hx with hx | hx <;> cases hx
  rcases hv.rendered_cases with hvr | ⟨t, rfl, hvr⟩ | ⟨x, rfl, hx, hvr⟩
  · rcases hw.rendered_cases with hwr | ⟨t', rfl, hwr⟩ | ⟨y, rfl, hy, hwr⟩ <;> rw [hvr, hwr] at h
    · exact hv.eq_of_sameJson hw h ▸ .refl v
    · exact absurd (h.eq_of_isFlat_right trivial) (hv' t')
    · exact absurd (h.eq_of_isFlat_right trivial) (hnull hv)
  · rcases hw.rendered_cases with hwr | ⟨t', rfl, hwr⟩ | ⟨y, rfl, hy, hwr⟩ <;> rw [hvr, hwr] at h
    · exact absurd (h.eq_of_isFlat_left trivial).symm (hw' t)
    · have htext := Value.text.inj (h.eq_of_isFlat_left trivial)
      exact Calendar.Instant.text_injective htext ▸ .refl _
    · cases h.eq_of_isFlat_left trivial
  · rcases hw.rendered_cases with hwr | ⟨t', rfl, hwr⟩ | ⟨y, rfl, hy, hwr⟩ <;> rw [hvr, hwr] at h
    · exact absurd (h.eq_of_isFlat_left trivial).symm (hnull hw)
    · cases h.eq_of_isFlat_left trivial
    · exact .notFinite hx hy

/-- Single values that are sent alike are sent as the same JSON. -/
theorem SentAsOne.rendered_eq (h : v.SentAsOne w) : v.rendered = w.rendered := by
  cases h with
  | refl => rfl
  | notFinite hx hy => simp [rendered, hx, hy]

/-! ### Elements and lists of elements -/

theorem IsElement.rendered_ne_list (h : v.IsElement) (ws : List Value) : v.rendered ≠ .list ws := by
  rcases h.rendered_cases with hr | ⟨t, -, hr⟩ | ⟨x, -, -, hr⟩ <;> rw [hr]
  · rintro rfl
    rcases h with h | h <;> cases h
  · exact nofun
  · exact nofun

/-- Only a list is the same JSON as a list. -/
theorem SameJson.exists_list_left {ws : List Value} (h : v.SameJson (.list ws)) :
    ∃ vs, v = .list vs := by
  cases h with
  | refl => exact ⟨ws, rfl⟩
  | list => exact ⟨_, rfl⟩

theorem SameJson.exists_list_right {vs : List Value} (h : SameJson (.list vs) w) :
    ∃ ws, w = .list ws := by
  cases h with
  | refl => exact ⟨vs, rfl⟩
  | list => exact ⟨_, rfl⟩

/-- Lists of elements can be told from what is sent of them. -/
theorem forall₂_sentAsOne {vs ws : List Value}
    (hvs : ∀ v ∈ vs, v.IsElement ∧ v.IsTimeless) (hws : ∀ w ∈ ws, w.IsElement ∧ w.IsTimeless)
    (h : List.Forall₂ SameJson (vs.map rendered) (ws.map rendered)) :
    List.Forall₂ SentAsOne vs ws := by
  induction vs generalizing ws with
  | nil =>
    cases ws with
    | nil => exact .nil
    | cons w ws => cases h
  | cons v vs ih =>
    cases ws with
    | nil => cases h
    | cons w ws =>
      obtain ⟨hv, hvs⟩ := List.forall_mem_cons.1 hvs
      obtain ⟨hw, hws⟩ := List.forall_mem_cons.1 hws
      rw [List.map_cons, List.map_cons, List.forall₂_cons] at h
      exact .cons (hv.1.sentAsOne_of_sameJson hw.1 hv.2 hw.2 h.1) (ih hvs hws h.2)

/-- What stands under a symbol can be told from what is sent of it. -/
theorem sentAlike_of_sameJson (hv : v.IsElement ∨ v.IsListOf IsElement)
    (hw : w.IsElement ∨ w.IsListOf IsElement) (hv' : ∀ x ∈ v.items, x.IsTimeless)
    (hw' : ∀ x ∈ w.items, x.IsTimeless) (h : v.rendered.SameJson w.rendered) :
    v.SentAlike w := by
  rcases hv with hv | ⟨-, hvs⟩
  · rcases hw with hw | ⟨-, hws⟩
    · rw [hv.items_eq, List.forall_mem_singleton] at hv'
      rw [hw.items_eq, List.forall_mem_singleton] at hw'
      exact .single (hv.sentAsOne_of_sameJson hw hv' hw' h)
    · obtain ⟨vs, hvs⟩ := h.exists_list_left
      exact absurd hvs (hv.rendered_ne_list vs)
  · rcases hw with hw | ⟨-, hws⟩
    · obtain ⟨ws, hws⟩ := h.exists_list_right
      exact absurd hws (hw.rendered_ne_list ws)
    · rw [rendered, rendered, renderedList_eq, renderedList_eq] at h
      exact .list (forall₂_sentAsOne (fun v hv => ⟨hvs v hv, hv' v hv⟩)
        (fun w hw => ⟨hws w hw, hw' w hw⟩) h.forall₂)

/-- Values that are sent alike are sent as the same JSON. -/
theorem SentAlike.sameJson (h : v.SentAlike w) : v.rendered.SameJson w.rendered := by
  cases h with
  | single h => exact h.rendered_eq ▸ .refl _
  | list h =>
    rw [rendered, rendered, renderedList_eq, renderedList_eq]
    refine .list ?_
    rw [List.forall₂_map_left_iff, List.forall₂_map_right_iff]
    exact h.imp fun _ _ h => h.rendered_eq ▸ .refl _

/-- Single values that are sent alike are equal if they are not numbers beyond the finite ones. -/
theorem SentAsOne.eq (h : v.SentAsOne w)
    (hv : ∀ x : Number.Binary64, v = .float x → x.isFinite = true) : v = w := by
  cases h with
  | refl => rfl
  | notFinite hx hy => cases hx.symm.trans (hv _ rfl)

/-- Values that are sent alike are equal if they hold no numbers beyond the finite ones. -/
theorem SentAlike.eq (h : v.SentAlike w)
    (hv : ∀ x : Number.Binary64, .float x ∈ v.items → x.isFinite = true) : v = w := by
  cases h with
  | single h =>
    refine h.eq fun x hx => hv x ?_
    rw [hx]
    exact List.mem_singleton_self _
  | @list vs ws h =>
    have hvs : ∀ x : Number.Binary64, .float x ∈ vs → x.isFinite = true := hv
    congr 1
    clear hv
    induction h with
    | nil => rfl
    | cons h _ ih =>
      rw [h.eq fun x hx => hvs x (hx ▸ List.mem_cons_self),
        ih fun x hx => hvs x (List.mem_cons_of_mem _ hx)]

end Value

end DocQuery
