import DocQuery.Service.Settings
import Mathlib.Data.List.Basic

/-!
# When a pattern stands for a text

A pattern is read from left to right. A backslash makes the next character stand for itself, some
characters have a meaning of their own where no backslash stands before them, and a backslash with
nothing behind it makes the pattern malformed. A pattern denotes a text if the characters of the
text stand in it, each for itself, and nothing else does.

Escaping puts a backslash before the special characters, and the backslash is not one of them. So a
backslash of the text shields the backslash that is put before a special character and leaves that
character without one; it shields any other character and is lost; and at the end it has nothing to
shield. The hyphen is escaped although it has no meaning of its own, and behind a backslash it does
no harm. An escaped text therefore denotes the text exactly if every backslash of the text has a
hyphen behind it.

## Main definitions

* `Pattern.Token`, `Pattern.readFrom?`: how a pattern is read.
* `Pattern.Denotes`, `Pattern.DenotesBeginning`: when a pattern stands for a text, or for the texts
  that begin with it.
* `Pattern.HyphensBehind`: the texts in which every backslash has a hyphen behind it.

## Main results

* `Pattern.readFrom?_escapeChar`, `Pattern.readFrom?_shielded_escapeChar`: how an escaped character
  is read.
* `Pattern.denotes_escape_iff`, `Pattern.denotesBeginning_anchored_iff`: which texts their patterns
  denote.
* `Compiler.literalPatterns_denote_iff`: the patterns for containment and for beginnings.
-/

namespace DocQuery

namespace Pattern

open Text (backslash)

/-! ### Reading a pattern -/

/-- What a pattern is made of. -/
inductive Token where
  /-- A character that stands for itself. -/
  | literal (c : Char)
  /-- A character that has a meaning of its own. -/
  | active (c : Char)
  deriving DecidableEq, Repr

/-- The characters that have a meaning of their own where no backslash stands before them. -/
def metacharacters : List Char :=
  ['.', '*', '?', '+', '^', '$', '[', ']', '(', ')', '\x7b', '\x7d', '|']

/-- What a character is without a backslash before it. -/
def Token.ofChar (c : Char) : Token := if c ∈ metacharacters then .active c else .literal c

/-- The tokens of a pattern, or of a pattern that goes on behind a backslash if `shielded` is true.
There are none if a backslash has nothing behind it. -/
def readFrom? : (shielded : Bool) → List Char → Option (List Token)
  | false, [] => some []
  | true, [] => none
  | false, c :: cs =>
    if c = backslash then readFrom? true cs else (readFrom? false cs).map (Token.ofChar c :: ·)
  | true, c :: cs => (readFrom? false cs).map (Token.literal c :: ·)

/-- Whether a pattern stands for a text: it is well formed, no character has a meaning of its own,
and the characters that stand for themselves are those of the text. -/
def Denotes (pattern text : String) : Prop :=
  readFrom? false pattern.toList = some (text.toList.map .literal)

instance (pattern text : String) : Decidable (Denotes pattern text) :=
  inferInstanceAs (Decidable (_ = _))

/-- Whether a pattern stands for the texts that begin with a text: it is the anchor of a beginning
with a pattern behind it that stands for the text. -/
def DenotesBeginning (pattern text : String) : Prop :=
  readFrom? false pattern.toList = some (.active '^' :: text.toList.map .literal)

/-! ### Reading an escaped character -/

theorem backslash_notMem_specials : backslash ∉ specials := by decide

theorem hyphen_notMem_metacharacters : '-' ∉ metacharacters := by decide

/-- Besides the characters that have a meaning of their own the hyphen is escaped. -/
theorem mem_specials_iff {c : Char} : c ∈ specials ↔ c ∈ metacharacters ∨ c = '-' := by
  have hspecials : specials = metacharacters ++ ['-'] := rfl
  rw [hspecials, List.mem_append, List.mem_singleton]

/-- The only special character without a meaning of its own is the hyphen. -/
theorem ofChar_eq_literal_iff {c : Char} (h : c ∈ specials) :
    Token.ofChar c = .literal c ↔ c = '-' := by
  unfold Token.ofChar
  split
  · next hmeta => exact iff_of_false nofun fun e => hyphen_notMem_metacharacters (e ▸ hmeta)
  · next hmeta => exact iff_of_true rfl ((mem_specials_iff.1 h).resolve_left hmeta)

/-- A backslash is not escaped, so that it shields what comes next. -/
theorem readFrom?_escapeChar_backslash (cs : List Char) :
    readFrom? false (escapeChar backslash ++ cs) = readFrom? true cs := by
  rw [escapeChar, if_neg backslash_notMem_specials]
  rfl

/-- Any other character stands for itself when it is escaped. -/
theorem readFrom?_escapeChar {c : Char} (hc : c ≠ backslash) (cs : List Char) :
    readFrom? false (escapeChar c ++ cs) = (readFrom? false cs).map (.literal c :: ·) := by
  unfold escapeChar
  split
  · rfl
  · next h =>
    have hplain : Token.ofChar c = .literal c :=
      if_neg fun hmeta => h (mem_specials_iff.2 (Or.inl hmeta))
    rw [List.singleton_append, readFrom?, if_neg hc, hplain]

/-- Behind a backslash a special character loses the backslash that is put before it, and any other
character takes the place of the backslash. -/
theorem readFrom?_shielded_escapeChar (c : Char) (cs : List Char) :
    readFrom? true (escapeChar c ++ cs) =
      (readFrom? false cs).map fun ts =>
        if c ∈ specials then .literal backslash :: .ofChar c :: ts else .literal c :: ts := by
  unfold escapeChar
  split
  · next h =>
    have hc : c ≠ backslash := fun e => backslash_notMem_specials (e ▸ h)
    simp only [List.cons_append, List.nil_append, readFrom?, if_neg hc, Option.map_map]
    rfl
  · rfl

/-! ### Reading an escaped text -/

/-- The pattern of a text has at most as many tokens as the text has characters, with a backslash
before it counted too. -/
theorem length_le_of_readFrom?_escape {s : List Char} {shielded : Bool} {ts : List Token}
    (h : readFrom? shielded (s.flatMap escapeChar) = some ts) :
    ts.length ≤ s.length + shielded.toNat := by
  induction s generalizing shielded ts with
  | nil =>
    cases shielded with
    | false => simp [← Option.some.inj h]
    | true => cases h
  | cons c s ih =>
    rw [List.flatMap_cons] at h
    cases shielded with
    | true =>
      rw [readFrom?_shielded_escapeChar, Option.map_eq_some_iff] at h
      obtain ⟨us, hus, rfl⟩ := h
      have := ih hus
      split <;> simp at this ⊢ <;> omega
    | false =>
      by_cases hc : c = backslash
      · subst hc
        rw [readFrom?_escapeChar_backslash] at h
        simpa using ih h
      · rw [readFrom?_escapeChar hc, Option.map_eq_some_iff] at h
        obtain ⟨us, hus, rfl⟩ := h
        simpa using ih hus

/-- Whether every backslash of a text has a hyphen behind it. -/
def HyphensBehind (s : List Char) : Prop :=
  ∀ before after, s = before ++ backslash :: after → after.head? = some '-'

theorem hyphensBehind_nil : HyphensBehind [] := fun _ _ h => by simp at h

theorem hyphensBehind_cons_iff {c : Char} {s : List Char} :
    HyphensBehind (c :: s) ↔ (c = backslash → s.head? = some '-') ∧ HyphensBehind s := by
  constructor
  · intro h
    refine ⟨fun hc => h [] s (by rw [hc]; rfl), fun before after hs => ?_⟩
    exact h (c :: before) after (by rw [hs]; rfl)
  · rintro ⟨hhead, hrest⟩ before after h
    cases before with
    | nil =>
      obtain ⟨rfl, rfl⟩ := List.cons.inj h
      exact hhead rfl
    | cons d before => exact hrest before after (List.cons.inj h).2

/-- Which texts an escaped text denotes, also behind a backslash that belongs to the text. -/
theorem readFrom?_escape_eq_iff (s : List Char) :
    (readFrom? false (s.flatMap escapeChar) = some (s.map .literal) ↔ HyphensBehind s) ∧
      (readFrom? true (s.flatMap escapeChar) = some ((backslash :: s).map .literal) ↔
        HyphensBehind (backslash :: s)) := by
  induction s with
  | nil =>
    refine ⟨iff_of_true rfl hyphensBehind_nil, iff_of_false nofun ?_⟩
    simp [hyphensBehind_cons_iff]
  | cons c s ih =>
    rw [List.flatMap_cons]
    constructor
    · by_cases hc : c = backslash
      · subst hc
        rw [readFrom?_escapeChar_backslash]
        exact ih.2
      · rw [readFrom?_escapeChar hc, hyphensBehind_cons_iff, ← ih.1]
        simp [hc]
    · rw [readFrom?_shielded_escapeChar, hyphensBehind_cons_iff, hyphensBehind_cons_iff]
      by_cases hc : c ∈ specials
      · have hne : c ≠ backslash := fun e => backslash_notMem_specials (e ▸ hc)
        simp [hc, hne, ← ih.1, ofChar_eq_literal_iff, and_comm]
      · -- the character has taken the place of the backslash, so that there are too few tokens
        have hne : c ≠ '-' := fun e => hc (e ▸ by decide)
        refine iff_of_false (fun h => ?_) fun h => hne (Option.some.inj (h.1 rfl))
        obtain ⟨ts, hts, htokens⟩ := Option.map_eq_some_iff.1 h
        have hlength := length_le_of_readFrom?_escape hts
        have hcount := congrArg List.length htokens
        simp [hc] at hlength hcount
        omega

/-- An escaped text denotes the text exactly if every backslash of the text has a hyphen behind
it. -/
theorem denotes_escape_iff (s : String) : Denotes (escape s) s ↔ HyphensBehind s.toList := by
  rw [Denotes, escape, String.toList_ofList]
  exact (readFrom?_escape_eq_iff s.toList).1

/-- The same holds for the pattern of the texts that begin with a text. -/
theorem denotesBeginning_anchored_iff (s : String) :
    DenotesBeginning (anchored s) s ↔ HyphensBehind s.toList := by
  have hanchor : Token.ofChar '^' = .active '^' := by decide
  have hread : readFrom? false (anchored s).toList =
      (readFrom? false (escape s).toList).map (.active '^' :: ·) := by
    rw [anchored, String.toList_append, ← hanchor]
    rfl
  rw [DenotesBeginning, hread, ← denotes_escape_iff, Denotes, Option.map_eq_some_iff]
  simp

/-- A backslash at the end of a text makes its pattern malformed, and before a full stop it gives
the full stop its meaning back. -/
example : readFrom? false (escape "\x5c").toList = none ∧
    readFrom? false (escape "\x5c.").toList = some [.literal '\x5c', .active '.'] := by
  decide

end Pattern

namespace Compiler

open Pattern

/-- A text that is looked for as a part or as a beginning becomes the same pattern for every field
and every form of the operator. The pattern stands for what is looked for exactly if every backslash
of the text has a hyphen behind it. -/
theorem literalPatterns_denote_iff {c : Compiler} {d : Dialect} (hd : c.dialect = .ok (some d))
    (field : String) (ignoreCase : Bool) (form : PatternForm) (s : String) :
    ((∃ f, c.converter? field (.pattern .contains ignoreCase form) = .ok (some f) ∧
        f s = d.regex (escape s) (Operator.caseOptions ignoreCase)) ∧
      (Denotes (escape s) s ↔ HyphensBehind s.toList)) ∧
    ((∃ f, c.converter? field (.pattern .startsWith ignoreCase form) = .ok (some f) ∧
        f s = d.regex (anchored s) (Operator.caseOptions ignoreCase)) ∧
      (DenotesBeginning (anchored s) s ↔ HyphensBehind s.toList)) := by
  have hconverter : ∀ family, c.converter? field (.pattern family ignoreCase form) =
      .ok (some (patternConverter d family (Operator.caseOptions ignoreCase))) := by
    intro family
    simp only [converter?, hd, Except.map, Option.map_some]
  exact ⟨⟨⟨_, hconverter .contains, rfl⟩, denotes_escape_iff s⟩,
    ⟨⟨_, hconverter .startsWith, rfl⟩, denotesBeginning_anchored_iff s⟩⟩

/-- The pattern for a backslash with a full stop behind it does not stand for that text. -/
theorem literalPatterns_denote_iff_backslash :
    (ofSettings (some (.extendedJson [])) .empty {}).dialect = .ok (some (.extendedJson [])) ∧
      (∃ f, (ofSettings (some (.extendedJson [])) .empty {}).converter? "path"
          (.pattern .contains false .single) = .ok (some f) ∧
        f "\x5c." = (Dialect.extendedJson []).regex (escape "\x5c.") "") ∧
      ¬Denotes (escape "\x5c.") "\x5c." := by
  have h := (literalPatterns_denote_iff (c := ofSettings (some (.extendedJson [])) .empty {})
    (d := .extendedJson []) rfl "path" false .single "\x5c.").1
  refine ⟨rfl, h.1, fun hdenotes => ?_⟩
  simpa using h.2.1 hdenotes [] ['.'] rfl

end Compiler

end DocQuery
