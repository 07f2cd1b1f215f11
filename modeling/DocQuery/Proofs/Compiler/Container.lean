import DocQuery.Proofs.Compiler.Alike
import DocQuery.Proofs.Parameter.ByKey
import DocQuery.Service.Settings

/-!
# Containers of parameters

It does not matter whether the parameters of a list arrive as a list, as a stream, as a collection
that keeps every value of a key, or as a mapping from keys to values: the compilation is the same,
with the same order of fields, symbols and elements and with the same errors, or it is stopped by
the same fault. For a mapping, which loses how the parameters of different keys followed one
another, no two keys may name the same operator of the same field.

## Main results

* `Compiler.compile_of_sameByKey`: lists that are the same key by key.
* `Compiler.compileSource_eq_of_holds`: containers of the same parameters.
-/

namespace DocQuery

namespace Compiler

variable {ps qs : List Parameter}

/-- Where no operator of a field is named by two keys, lists that are the same key by key have the
same compilation. -/
theorem compile_of_sameByKey (c : Compiler) (hps : NamedOnce ps) (h : SameByKey ps qs) :
    c.compile ps = c.compile qs := by
  refine compile_congr (readAlike_of_sameByKey h hps) ?_
  have hunknown := h.eraseDups_filterMap_eq fun key => unknownOperator? (key, "")
  exact congrArg (List.map fun u => Gathered.unknownOperator u.1 u.2) hunknown

/-- Containers of the same parameters have the same compilation. -/
theorem compileSource_eq_of_holds (c : Compiler) (hps : NamedOnce ps)
    {source source' : Source String} (h : source.Holds ps) (h' : source'.Holds ps) :
    c.compileSource source = c.compileSource source' := by
  have hlist {s : Source String} (hs : s.Holds ps) : c.compileSource s = c.compile ps :=
    (c.compile_of_sameByKey hps hs.sameByKey.symm).symm
  rw [hlist h, hlist h']

/-- A mapping that brings the values of three keys together, one of them the order, against the
stream in which they are mixed. -/
theorem compileSource_eq_of_holds_ofSettings :
    NamedOnce [("a", "1"), ("__sort", "-a"), ("b__in", "x"), ("a", "2"), ("__sort", "b"),
        ("b__in", "y")] ∧
      (ofSettings (some (.extendedJson [])) .empty {}).compileSource
          (.stream [("a", "1"), ("__sort", "-a"), ("b__in", "x"), ("a", "2"), ("__sort", "b"),
            ("b__in", "y")]) =
        (ofSettings (some (.extendedJson [])) .empty {}).compileSource
          (.mapping ⟨[("a", .many ["1", "2"]), ("__sort", .many ["-a", "b"]),
            ("b__in", .many ["x", "y"])], by decide⟩) := by
  have hps : NamedOnce [("a", "1"), ("__sort", "-a"), ("b__in", "x"), ("a", "2"), ("__sort", "b"),
      ("b__in", "y")] := by decide
  exact ⟨hps, compileSource_eq_of_holds _ hps .stream (.mapping rfl)⟩

end Compiler

end DocQuery
