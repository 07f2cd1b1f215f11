/-!
# Cutting text

Texts are cut at separators while they are still lists of characters. `pieces` cuts at every
occurrence of one character and keeps empty pieces, so that `n` separators give `n + 1` pieces.
`cutMark` cuts at the first doubled underscore, which separates a field from its operator.

## Main definitions

* `Text.pieces`, `Text.commaPieces`: the pieces between separators.
* `Text.cutAt`: the two sides of the first occurrence of a character.
* `Text.cutMark`: the two sides of the first doubled underscore.

## Main results

* `Text.pieces_ne_nil`: every text has at least one piece.
* `Text.pieces_append`: cutting a piece, a separator and a rest.
* `Text.commaPieces_intercalate`: texts that were joined by commas.
* `Text.cutMark_append`: a name, a doubled underscore and a rest.
-/

namespace DocQuery.Text

/-- The pieces of a text between occurrences of `sep`; empty pieces are kept. -/
def pieces (sep : Char) : List Char → List (List Char)
  | [] => [[]]
  | c :: cs =>
    if c = sep then [] :: pieces sep cs
    else match pieces sep cs with
      | [] => [[c]]
      | p :: ps => (c :: p) :: ps

theorem pieces_ne_nil (sep : Char) (s : List Char) : pieces sep s ≠ [] := by
  cases s with
  | nil => simp [pieces]
  | cons c cs =>
    simp only [pieces]
    split
    · simp
    · split <;> simp

/-- A text without the separator is its own only piece. -/
theorem pieces_eq_singleton {sep : Char} {s : List Char} (h : sep ∉ s) : pieces sep s = [s] := by
  induction s with
  | nil => rfl
  | cons c cs ih =>
    rw [List.mem_cons, not_or] at h
    have hc : c ≠ sep := fun e => h.1 e.symm
    simp [pieces, hc, ih h.2]

/-- A text without the separator is cut off as one piece at the separator that follows it. -/
theorem pieces_append {sep : Char} {p : List Char} (h : sep ∉ p) (s : List Char) :
    pieces sep (p ++ sep :: s) = p :: pieces sep s := by
  induction p with
  | nil => simp [pieces]
  | cons c cs ih =>
    rw [List.mem_cons, not_or] at h
    have hc : c ≠ sep := fun e => h.1 e.symm
    simp [pieces, hc, ih h.2]

/-- Pieces that were joined by the separator are told apart again. -/
theorem pieces_intercalate {sep : Char} {ps : List (List Char)} (hne : ps ≠ [])
    (hps : ∀ p ∈ ps, sep ∉ p) : pieces sep ([sep].intercalate ps) = ps := by
  induction ps with
  | nil => exact absurd rfl hne
  | cons p ps ih =>
    obtain ⟨hp, hrest⟩ := List.forall_mem_cons.1 hps
    cases ps with
    | nil => rw [List.intercalate_singleton, pieces_eq_singleton hp]
    | cons q qs =>
      rw [List.intercalate_cons_cons, List.append_assoc, List.singleton_append, pieces_append hp,
        ih (List.cons_ne_nil q qs) hrest]

/-- The pieces of a string between commas. -/
def commaPieces (s : String) : List String := (pieces ',' s.toList).map String.ofList

/-- Texts without commas that were joined by commas are told apart again. -/
theorem commaPieces_intercalate {texts : List String} (hne : texts ≠ [])
    (htexts : ∀ t ∈ texts, ',' ∉ t.toList) : commaPieces (",".intercalate texts) = texts := by
  have hpieces : pieces ',' ([','].intercalate (texts.map String.toList)) =
      texts.map String.toList := pieces_intercalate (by simpa using hne) (by simpa using htexts)
  have hlist : (",".intercalate texts).toList = [','].intercalate (texts.map String.toList) :=
    String.toList_intercalate
  rw [commaPieces, hlist, hpieces, List.map_map]
  simp [Function.comp_def]

theorem commaPieces_eq_singleton {t : String} (h : ',' ∉ t.toList) : commaPieces t = [t] := by
  rw [commaPieces, pieces_eq_singleton h, List.map_singleton, String.ofList_toList]

/-- The text before and after the first `sep`, if there is one. -/
def cutAt (sep : Char) : List Char → Option (List Char × List Char)
  | [] => none
  | c :: cs => if c = sep then some ([], cs) else (cutAt sep cs).map fun r => (c :: r.1, r.2)

/-- The text before and after the first doubled underscore, if there is one. -/
def cutMark : List Char → Option (List Char × List Char)
  | '_' :: '_' :: cs => some ([], cs)
  | c :: cs => (cutMark cs).map fun r => (c :: r.1, r.2)
  | [] => none

/-- A text without a doubled underscore is not cut. -/
theorem cutMark_eq_none {s : List Char} (h : ¬['_', '_'] <:+: s) : cutMark s = none := by
  induction s with
  | nil => rfl
  | cons c cs ih =>
    rw [List.infix_cons_iff, not_or] at h
    rw [cutMark, ih h.2, Option.map_none]
    rintro cs' rfl rfl
    exact h.1 ⟨cs', rfl⟩

/-- A text is cut at the doubled underscore behind a name that neither has one nor ends in an
underscore. -/
theorem cutMark_append {name : List Char} (h : ¬['_', '_'] <:+: name)
    (hlast : name.getLast? ≠ some '_') (rest : List Char) :
    cutMark (name ++ '_' :: '_' :: rest) = some (name, rest) := by
  induction name with
  | nil => rfl
  | cons c cs ih =>
    rw [List.infix_cons_iff, not_or] at h
    have hlast' : cs.getLast? ≠ some '_' := by
      cases cs with
      | nil => simp
      | cons c' cs => simpa using hlast
    rw [List.cons_append, cutMark, ih h.2 hlast', Option.map_some]
    rintro cs' rfl hcs
    cases cs with
    | nil => exact hlast rfl
    | cons c' cs =>
      obtain ⟨rfl, -⟩ := List.cons.inj hcs
      exact h.1 ⟨cs, rfl⟩

end DocQuery.Text
