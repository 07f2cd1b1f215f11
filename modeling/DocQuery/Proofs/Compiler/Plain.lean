import DocQuery.Proofs.Compiler.Condition
import DocQuery.Proofs.Converter.Leaf
import DocQuery.Service.Settings

/-!
# Converters that make plain values

A value is plain if it is neither nothing nor a list. Where the converters and the factories of a
compiler make plain values only, the value of a condition is plain, or for a list operator a list.

## Main definitions

* `Value.IsPlain`, `Converter.IsPlain`, `Compiler.IsPlain`: values, converters and compilers.

## Main results

* `Compiler.IsPlain.of_yields`: the value of a condition without a list is plain.
* `Chain.isPlain_standard`, `Compiler.isPlain_ofSettings`: the standard chain and the compilers that
  settings ask for make plain values.
-/

namespace DocQuery

/-- Whether a value is neither nothing nor a list. -/
def Value.IsPlain (v : Value) : Prop := v ≠ .null ∧ ∀ vs, v ≠ .list vs

theorem Value.IsPlain.items_eq {v : Value} (h : v.IsPlain) : v.items = [v] := by
  cases v with
  | null => exact absurd rfl h.1
  | list vs => exact absurd rfl (h.2 vs)
  | _ => rfl

theorem Value.isPlain_object (fields : List (String × Value)) : (Value.object fields).IsPlain := by
  constructor
  · intro h
    cases h
  · intro vs h
    cases h

theorem Value.IsLeaf.isPlain {v : Value} (h : v.IsLeaf) : v.IsPlain := by
  cases h <;> exact ⟨nofun, nofun⟩

/-- Whether a converter makes plain values only. -/
def Converter.IsPlain (f : Converter) : Prop := ∀ text v, f text = .ok v → v.IsPlain

/-- Whether the factories for the values of conditions make plain values only. -/
def Dialect.IsPlain (d : Dialect) : Prop :=
  (∀ pattern options v, d.regex pattern options = .ok v → v.IsPlain) ∧
    ∀ text v, d.objectId text = .ok v → v.IsPlain

/-- Whether all parts of a chain make plain values only. -/
def Chain.IsPlain (c : Chain) : Prop :=
  (∀ f, c.boolean = some f → f.IsPlain) ∧ (∀ d, c.dialect = some d → d.IsPlain) ∧
    ∀ f ∈ c.rest, f.IsPlain

/-- Whether a conversion makes plain values only. -/
def Conversion.IsPlain : Conversion → Prop
  | .chain c => c.IsPlain
  | .single f => f.IsPlain

/-- Whether all converters and factories of a compiler make plain values only. -/
structure Compiler.IsPlain (c : Compiler) : Prop where
  declared : ∀ field d f, c.declared.get? field = some d → d.converter = some f → f.IsPlain
  conversion : ∀ conversion, c.conversion = some conversion → conversion.IsPlain

namespace Converter

/-- A converter that makes leaves makes plain values. -/
theorem isPlain_of_isLeaf {f : Converter} (h : ∀ {text v}, f text = .ok v → v.IsLeaf) :
    f.IsPlain :=
  fun _ _ hv => (h hv).isPlain

theorem isPlain_absent : absent.IsPlain := fun _ _ h => nomatch h

theorem isPlain_objectId {d : Dialect} (hd : d.IsPlain) : (objectId d).IsPlain := by
  intro text v h
  unfold objectId at h
  split_ifs at h
  split at h
  · next w hw =>
    cases h
    exact hd.2 _ _ hw
  · cases h

end Converter

theorem Chain.IsPlain.convert {c : Chain} (hc : c.IsPlain) : c.convert.IsPlain := by
  intro text v h
  obtain ⟨f, hf, hv⟩ := Converter.exists_of_firstOf h
  refine (?_ : f.IsPlain) text v hv
  rcases List.mem_cons.1 hf with rfl | hf
  · cases hb : c.boolean with
    | none => exact Converter.isPlain_absent
    | some b => exact hc.1 b hb
  · rcases List.mem_append.1 hf with hf | hf
    · rw [Option.mem_toList, Option.map_eq_some_iff] at hf
      obtain ⟨d, hd, rfl⟩ := hf
      exact Converter.isPlain_objectId (hc.2.1 d hd)
    · exact hc.2.2 f hf

theorem Dialect.isPlain_extendedJson (allowed : List String) : (extendedJson allowed).IsPlain := by
  constructor
  · intro pattern options v h
    cases h
    exact Value.isPlain_object _
  · intro text v h
    simp only [extendedJson] at h
    split_ifs at h
    cases h
    exact Value.isPlain_object _

/-- The standard chain makes plain values if its dialect does. -/
theorem Chain.isPlain_standard {dialect : Option Dialect}
    (hdialect : ∀ d, dialect = some d → d.IsPlain) (allowText : Bool) :
    (standard dialect allowText).IsPlain := by
  refine ⟨fun f hf => ?_, hdialect, fun f hf => ?_⟩
  · cases hf
    exact Converter.isPlain_of_isLeaf Converter.isLeaf_of_boolean
  · simp only [standard, List.mem_append, List.mem_cons, List.not_mem_nil, or_false] at hf
    rcases hf with (rfl | rfl | rfl) | hf
    · exact Converter.isPlain_of_isLeaf Converter.isLeaf_of_integer
    · exact Converter.isPlain_of_isLeaf Converter.isLeaf_of_number
    · exact Converter.isPlain_of_isLeaf Converter.isLeaf_of_instant
    · split at hf
      · rw [List.mem_singleton.1 hf]
        exact Converter.isPlain_of_isLeaf Converter.isLeaf_of_text
      · cases hf

/-- The compiler that settings ask for makes plain values if its dialect and the converters of the
declared fields do. -/
theorem Compiler.isPlain_ofSettings {dialect : Option Dialect}
    {declared : Table String FieldDeclaration}
    (hdialect : ∀ d, dialect = some d → d.IsPlain)
    (hdeclared : ∀ field d f, declared.get? field = some d → d.converter = some f → f.IsPlain)
    (s : Settings) : (ofSettings dialect declared s).IsPlain := by
  refine ⟨hdeclared, fun conversion hconversion => ?_⟩
  obtain rfl := Option.some.inj hconversion
  exact Chain.isPlain_standard hdialect s.textFallback

namespace Compiler.IsPlain

variable {c : Compiler} (hc : c.IsPlain)

include hc

theorem fieldConverter {field : String} {f : Converter}
    (h : c.fieldConverter field = some f) : f.IsPlain := by
  rw [Compiler.fieldConverter] at h
  cases hown : (c.declared.get? field).bind FieldDeclaration.converter with
  | some g =>
    obtain ⟨d, hd, hg⟩ := Option.bind_eq_some_iff.1 hown
    obtain rfl : g = f := by simpa [hown] using h
    exact hc.declared field d g hd hg
  | none =>
    rw [hown] at h
    obtain ⟨conversion, hconversion, rfl⟩ := Option.map_eq_some_iff.1 h
    have hplain := hc.conversion conversion hconversion
    cases conversion with
    | chain chain => exact hplain.convert
    | single g => exact hplain

theorem booleanConverter {f : Converter} (h : c.booleanConverter = .ok (some f)) :
    f.IsPlain := by
  unfold Compiler.booleanConverter at h
  split at h
  · cases h
    exact Converter.isPlain_of_isLeaf Converter.isLeaf_of_boolean
  · next conversion hconversion =>
    have hplain := hc.conversion conversion hconversion
    cases conversion with
    | chain chain => exact hplain.1 f (Except.ok.inj h)
    | single g => cases h

theorem dialect {d : Dialect} (h : c.dialect = .ok (some d)) : d.IsPlain := by
  unfold Compiler.dialect at h
  split at h
  · cases h
  · next conversion hconversion =>
    have hplain := hc.conversion conversion hconversion
    cases conversion with
    | chain chain => exact hplain.2.1 d (Except.ok.inj h)
    | single g => cases h

/-- The converter for a condition makes plain values. -/
theorem converter? {field : String} {op : Operator} {f : Converter}
    (h : c.converter? field op = .ok (some f)) : f.IsPlain := by
  unfold Compiler.converter? at h
  split at h
  · cases hd : c.dialect with
    | error e => simp [hd, Except.map] at h
    | ok d =>
      rw [hd] at h
      obtain ⟨d, rfl, rfl⟩ := Option.map_eq_some_iff.1 (Except.ok.inj h)
      exact fun text v hv => (hc.dialect hd).1 _ _ v hv
  · exact hc.booleanConverter h
  · exact hc.fieldConverter (Except.ok.inj h)

/-- A condition without a list has a plain value. -/
theorem of_yields {cond : Condition} {v : Value} (h : c.Yields cond v)
    (hlist : cond.operator.takesList = false) : v.IsPlain := by
  cases h with
  | one _ hf _ _ hv => exact hc.converter? hf _ _ hv
  | list _ _ hlist' => simp [hlist'] at hlist

end Compiler.IsPlain

end DocQuery
