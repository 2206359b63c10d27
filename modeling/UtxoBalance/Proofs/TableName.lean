import Mathlib
import UtxoBalance.Table

/-!
# The language of table names

The names of tables are the words of a regular expression: an identifier, which a point and
one more identifier may follow. The test for a name cuts a text at its first character that
no identifier holds, so it has to be shown that no other cut would do better. The test for a
line takes the same words, with a line feed at their end or without one.

## Main definitions

- `Table.identifiers`, `Table.names`, `Table.lines` — the languages

## Main statements

- `Table.isName_iff` — which texts are names
- `Table.isNameLine_iff` — which texts are names that a line feed may follow
- `Table.count_point_le_one`, `Table.mem_inners_or_eq_point` — what a name is made of
-/

namespace UtxoBalance.Table

open scoped Computability

/-! ## Languages -/

/-- The words of one character out of a class. -/
def oneOf (chars : Set Char) : Language Char := {word | ∃ c ∈ chars, word = [c]}

/-- The characters with which an identifier can begin. -/
def initials : Set Char := Set.Icc 'A' 'Z' ∪ Set.Icc 'a' 'z' ∪ {'_'}

/-- The characters of which an identifier is made. -/
def inners : Set Char := initials ∪ Set.Icc '0' '9'

def identifiers : Language Char := oneOf initials * (oneOf inners)∗

/-- The names of tables: an identifier, and one more behind a point where there is one. -/
def names : Language Char := identifiers * (1 + oneOf {'.'} * identifiers)

/-- The names of tables with one line feed behind them, or none. -/
def lines : Language Char := names * (1 + oneOf {'\n'})

theorem isInitial_iff {c : Char} : isInitial c = true ↔ c ∈ initials := by
  simp [isInitial, initials, Char.isAlpha, Char.isUpper, Char.isLower, Char.le_def, or_comm]

theorem isInner_iff {c : Char} : isInner c = true ↔ c ∈ inners := by
  simp [isInner, inners, isInitial_iff, Char.isDigit, Char.le_def]

theorem initials_subset_inners : initials ⊆ inners := Set.subset_union_left

theorem point_notMem_inners : '.' ∉ inners := by
  rw [← isInner_iff]
  decide

theorem mem_oneOf_mul {chars : Set Char} {language : Language Char} {word : List Char} :
    word ∈ oneOf chars * language ↔ ∃ c rest, word = c :: rest ∧ c ∈ chars ∧ rest ∈ language := by
  constructor
  · intro h
    obtain ⟨_, ⟨c, hc, rfl⟩, rest, hrest, rfl⟩ := Language.mem_mul.1 h
    exact ⟨c, rest, rfl, hc, hrest⟩
  · rintro ⟨c, rest, rfl, hc, hrest⟩
    exact Language.mem_mul.2 ⟨[c], ⟨c, hc, rfl⟩, rest, hrest, rfl⟩

theorem mem_kstar_oneOf {chars : Set Char} {word : List Char} :
    word ∈ (oneOf chars)∗ ↔ ∀ c ∈ word, c ∈ chars := by
  rw [Language.mem_kstar]
  constructor
  · rintro ⟨words, rfl, hwords⟩ c hc
    obtain ⟨part, hpart, hmem⟩ := List.mem_flatten.1 hc
    obtain ⟨d, hd, rfl⟩ := hwords part hpart
    rw [List.mem_singleton.1 hmem]
    exact hd
  · intro h
    refine ⟨word.map fun c => [c], ?_, ?_⟩
    · rw [← List.flatMap_def, List.flatMap_singleton']
    · intro part hpart
      obtain ⟨c, hc, rfl⟩ := List.mem_map.1 hpart
      exact ⟨c, h c hc, rfl⟩

theorem mem_mul_optional {first second : Language Char} {word : List Char} :
    word ∈ first * (1 + second) ↔ word ∈ first ∨ word ∈ first * second := by
  rw [mul_add, mul_one, Language.mem_add]

/-! ## Names -/

theorem isIdentifier_iff {chars : List Char} : isIdentifier chars = true ↔ chars ∈ identifiers := by
  rw [identifiers, mem_oneOf_mul]
  cases chars with
  | nil => simp [isIdentifier]
  | cons c rest => simp [isIdentifier, isInitial_iff, isInner_iff, mem_kstar_oneOf]

theorem mem_inners_of_mem_identifiers {chars : List Char} (h : chars ∈ identifiers) :
    ∀ c ∈ chars, c ∈ inners := by
  rw [identifiers, mem_oneOf_mul] at h
  obtain ⟨c, rest, rfl, hc, hrest⟩ := h
  exact List.forall_mem_cons.2 ⟨initials_subset_inners hc, mem_kstar_oneOf.1 hrest⟩

theorem mem_names_iff {chars : List Char} :
    chars ∈ names ↔ chars ∈ identifiers ∨
      ∃ qualifier ∈ identifiers, ∃ rest ∈ identifiers, chars = qualifier ++ '.' :: rest := by
  rw [names, mem_mul_optional]
  refine or_congr_right ?_
  constructor
  · intro h
    obtain ⟨qualifier, hqualifier, more, hmore, rfl⟩ := Language.mem_mul.1 h
    obtain ⟨c, rest, rfl, rfl, hrest⟩ := mem_oneOf_mul.1 hmore
    exact ⟨qualifier, hqualifier, rest, hrest, rfl⟩
  · rintro ⟨qualifier, hqualifier, rest, hrest, rfl⟩
    exact Language.append_mem_mul hqualifier (mem_oneOf_mul.2 ⟨'.', rest, rfl, rfl, hrest⟩)

/-- What a qualifier ends at is the first character that no identifier holds. -/
theorem span_identifier {qualifier rest : List Char} (h : qualifier ∈ identifiers)
    (hrest : ∀ c ∈ rest.head?, c ∉ inners) :
    (qualifier ++ rest).takeWhile isInner = qualifier ∧
      (qualifier ++ rest).dropWhile isInner = rest := by
  have hall : ∀ c ∈ qualifier, isInner c = true := fun c hc =>
    isInner_iff.2 (mem_inners_of_mem_identifiers h c hc)
  rw [List.takeWhile_append_of_pos hall, List.dropWhile_append_of_pos hall]
  cases rest with
  | nil => simp
  | cons c rest =>
    have hc : ¬isInner c = true := fun hinner => hrest c rfl (isInner_iff.1 hinner)
    rw [List.takeWhile_cons_of_neg hc, List.dropWhile_cons_of_neg hc, List.append_nil]
    exact ⟨rfl, rfl⟩

theorem isNameChars_iff {chars : List Char} : isNameChars chars = true ↔ chars ∈ names := by
  rw [mem_names_iff]
  constructor
  · intro h
    have hcut := List.takeWhile_append_dropWhile (p := isInner) (l := chars)
    rw [isNameChars] at h
    split at h
    · next hnil =>
      rw [hnil, List.append_nil] at hcut
      rw [hcut] at h
      exact .inl (isIdentifier_iff.1 h)
    · next c rest hcons =>
      rw [hcons] at hcut
      simp only [Bool.and_eq_true, beq_iff_eq, isIdentifier_iff] at h
      obtain ⟨⟨rfl, hqualifier⟩, hrest⟩ := h
      exact .inr ⟨_, hqualifier, rest, hrest, hcut.symm⟩
  · rintro (hchars | ⟨qualifier, hqualifier, rest, hrest, rfl⟩)
    · obtain ⟨htake, hdrop⟩ := @span_identifier chars [] hchars nofun
      rw [List.append_nil] at htake hdrop
      rw [isNameChars, hdrop, htake]
      exact isIdentifier_iff.2 hchars
    · have hpoint : ∀ c ∈ ('.' :: rest).head?, c ∉ inners := by
        rintro c ⟨⟩
        exact point_notMem_inners
      obtain ⟨htake, hdrop⟩ := span_identifier hqualifier hpoint
      rw [isNameChars, hdrop, htake]
      simp [isIdentifier_iff, hqualifier, hrest]

/-- The texts that are let through as they are. -/
theorem isName_iff {text : String} : isName text = true ↔ text.toList ∈ names := isNameChars_iff

/-- The texts that are let through where a line feed at the end is not looked at. -/
theorem isNameLine_iff {text : String} : isNameLine text = true ↔ text.toList ∈ lines := by
  rw [isNameLine, Bool.or_eq_true, isName_iff, lines, mem_mul_optional]
  refine or_congr_right ?_
  constructor
  · intro h
    split at h
    · next rest hreverse =>
      have hline : text.toList = rest.reverse ++ ['\n'] := by
        rw [← List.reverse_reverse text.toList, hreverse, List.reverse_cons]
      rw [hline]
      exact Language.append_mem_mul (isNameChars_iff.1 h) ⟨'\n', rfl, rfl⟩
    · cases h
  · intro h
    obtain ⟨name, hname, _, ⟨c, rfl, rfl⟩, hline⟩ := Language.mem_mul.1 h
    rw [← hline, List.reverse_append, List.reverse_singleton, List.singleton_append]
    show isNameChars name.reverse.reverse = true
    rw [List.reverse_reverse]
    exact isNameChars_iff.2 hname

/-! ## Characters of names -/

theorem mem_inners_or_eq_point {chars : List Char} (h : chars ∈ names) :
    ∀ c ∈ chars, c ∈ inners ∨ c = '.' := by
  rcases mem_names_iff.1 h with hchars | ⟨qualifier, hqualifier, rest, hrest, rfl⟩
  · exact fun c hc => .inl (mem_inners_of_mem_identifiers hchars c hc)
  · intro c hc
    rcases List.mem_append.1 hc with hfirst | hlater
    · exact .inl (mem_inners_of_mem_identifiers hqualifier c hfirst)
    · rcases List.mem_cons.1 hlater with rfl | hlast
      · exact .inr rfl
      · exact .inl (mem_inners_of_mem_identifiers hrest c hlast)

theorem count_point_of_mem_identifiers {chars : List Char} (h : chars ∈ identifiers) :
    chars.count '.' = 0 :=
  List.count_eq_zero_of_not_mem fun hmem =>
    point_notMem_inners (mem_inners_of_mem_identifiers h '.' hmem)

theorem count_point_le_one {chars : List Char} (h : chars ∈ names) : chars.count '.' ≤ 1 := by
  rcases mem_names_iff.1 h with hchars | ⟨qualifier, hqualifier, rest, hrest, rfl⟩
  · rw [count_point_of_mem_identifiers hchars]
    exact Nat.zero_le 1
  · rw [List.count_append, List.count_cons_self, count_point_of_mem_identifiers hqualifier,
      count_point_of_mem_identifiers hrest]

/-- What is neither a point nor in an identifier is not in a name either. -/
theorem notMem_of_mem_names {chars : List Char} {c : Char} (h : chars ∈ names)
    (hinner : isInner c = false) (hpoint : c ≠ '.') : c ∉ chars := by
  intro hmem
  rcases mem_inners_or_eq_point h c hmem with hc | hc
  · rw [← isInner_iff, hinner] at hc
    cases hc
  · exact hpoint hc

end UtxoBalance.Table
