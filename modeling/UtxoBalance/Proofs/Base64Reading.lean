import UtxoBalance.Proofs.ByteText

/-!
# What the base64 readers take

The strict reader takes signs of the standard alphabet with padding behind them, and
nothing else. How much padding fits depends on the number of signs: none behind no signs,
any behind groups that are complete, and otherwise no more than completes the last group.

The lenient reader takes more. It skips every ASCII character that is no sign and no
padding, and it stops at padding that completes a group, whatever follows. So a text is
taken if its signs make complete groups, or if somewhere in it padding completes one.

Both see a text after it has been filled up with padding.

## Main definitions

- `Base64.isSign` — the signs of the two alphabets
- `Base64.TakesPads` — how much padding fits in a strict text
- `Base64.kept` — the characters of a text that the lenient reader looks at
- `Base64.Closes` — whether padding completes a group somewhere in a text

## Main statements

- `Base64.decodeStrict_padded_iff` — the texts that the strict reader takes
- `Base64.decodeLenient_padded_iff` — the texts that the lenient reader takes
- `Base64.decodeLenient_kept` — what it reads is told by the characters that it keeps
-/

namespace UtxoBalance.Base64

/-! ## Signs -/

/-- A letter or figure, or one of the two signs that each alphabet adds. -/
def isSign (c : Char) : Bool :=
  c.isAlphanum || c == '+' || c == '/' || c == '-' || c == '_'

theorem isSome_value?_iff {c : Char} :
    (value? c).isSome = true ↔ c.isAlphanum = true ∨ c = '+' ∨ c = '/' := by
  have hupper : ('A' ≤ c ∧ c ≤ 'Z') ↔ c.isUpper = true := by
    simp [Char.isUpper, Char.le_def, UInt32.le_iff_toNat_le]
  have hlower : ('a' ≤ c ∧ c ≤ 'z') ↔ c.isLower = true := by
    simp [Char.isLower, Char.le_def]
  have hdigit : ('0' ≤ c ∧ c ≤ '9') ↔ c.isDigit = true := by
    simp [Char.isDigit, Char.le_def]
  simp only [value?, hupper, hlower, hdigit, Char.isAlphanum, Char.isAlpha, Bool.or_eq_true]
  split_ifs <;> simp_all

theorem isSome_value?_ofUrl (c : Char) : (value? (ofUrl c)).isSome = isSign c := by
  rw [Bool.eq_iff_iff, isSome_value?_iff, ofUrl]
  split
  · next hc =>
    subst hc
    decide
  · split
    · next hc =>
      subst hc
      decide
    · next hminus hline => simp [isSign, hminus, hline, or_assoc]

theorem isSign_pad : isSign '=' = false := by decide

theorem ofUrl_eq_pad_iff {c : Char} : ofUrl c = '=' ↔ c = '=' := by
  rw [← beq_iff_eq, ofUrl_beq (by decide), beq_iff_eq]

theorem lt_of_isSome_value? {c : Char} (h : (value? c).isSome = true) : c.toNat < 0x80 := by
  rw [isSome_value?_iff] at h
  rcases h with halphanum | rfl | rfl
  · simp only [Char.isAlphanum, Char.isAlpha, Char.isUpper, Char.isLower, Char.isDigit,
      Bool.or_eq_true, Bool.and_eq_true, decide_eq_true_eq, UInt32.le_iff_toNat_le,
      ge_iff_le] at halphanum
    change ((65 ≤ c.toNat ∧ c.toNat ≤ 90) ∨ (97 ≤ c.toNat ∧ c.toNat ≤ 122)) ∨
      (48 ≤ c.toNat ∧ c.toNat ≤ 57) at halphanum
    omega
  · decide
  · decide

/-! ## Groups -/

/-- How many signs of a group have been read. -/
def Group.size : Group → Nat
  | .empty => 0
  | .one _ => 1
  | .two _ => 2
  | .three _ => 3

theorem Group.size_push (v : Nat) (group : Group) :
    (group.push v).1.size = (group.size + 1) % 4 := by
  cases group with
  | empty | one | two | three => simp [push, size]

theorem Scan.size_push (s : Scan) (v : Nat) :
    (s.push v).group.size = (s.group.size + 1) % 4 :=
  s.group.size_push v

theorem Group.size_lt (group : Group) : group.size < 4 := by
  cases group with
  | empty | one | two | three => simp [size]

/-- A text may end where a group is complete. -/
theorem exists_scan_nil (strict : Bool) (s : Scan) :
    (∃ bytes, scan strict s [] = .ok bytes) ↔ s.group.size = 0 := by
  rw [scan]
  cases s.group with
  | empty => simp [Group.finish, Group.size, bind, Except.bind, pure, Except.pure]
  | one | two | three => simp [Group.finish, Group.size, bind, Except.bind]

/-- Padding behind fewer than two signs of a group completes nothing. -/
theorem scan_pad_early (strict : Bool) {s : Scan} (h : s.group.size < 2) (rest : List Char) :
    scan strict s ('=' :: rest) = scan strict { s with padded := true } rest := by
  rw [scan, if_pos rfl]
  cases hgroup : s.group with
  | empty | one => rfl
  | two | three =>
    rw [hgroup, Group.size] at h
    omega

theorem scan_pad_first (strict : Bool) {s : Scan} (h : s.group.size = 2) (hpads : s.pads = 0)
    (rest : List Char) :
    scan strict s ('=' :: rest) = scan strict { s with pads := 1, padded := true } rest := by
  rw [scan, if_pos rfl]
  cases hgroup : s.group with
  | empty | one | three =>
    rw [hgroup] at h
    cases h
  | two bits => simp [hpads, Group.isCompletedBy]

/-- Padding that completes a group ends the text. -/
theorem scan_pad_last (strict : Bool) {s : Scan}
    (h : s.group.size = 3 ∨ (s.group.size = 2 ∧ 1 ≤ s.pads)) (rest : List Char) :
    scan strict s ('=' :: rest) =
      if strict && !rest.isEmpty then .error .excess else .ok s.octets.reverse := by
  rw [scan, if_pos rfl]
  cases hgroup : s.group with
  | empty | one =>
    rw [hgroup, Group.size] at h
    omega
  | two bits =>
    rw [hgroup] at h
    simp only [Group.size] at h
    rw [if_pos (by simp [Group.isCompletedBy]; omega)]
  | three bits => rw [if_pos (by simp [Group.isCompletedBy])]

/-! ## The strict reader -/

/-- Whether padding fits behind signs: what it completes is the last group, and nothing is
    left over. -/
def FitsPads (count pads : Nat) : Prop :=
  count % 4 = 0 ∨ (count % 4 = 2 ∧ pads = 2) ∨ (count % 4 = 3 ∧ pads = 1)

/-- Whether a text that goes on behind `count` signs is made of signs and padding that
    fits. -/
def IsFilled (count : Nat) (chars : List Char) : Prop :=
  ∃ data pads, chars = data ++ List.replicate pads '=' ∧ (∀ c ∈ data, (value? c).isSome) ∧
    FitsPads (count + data.length) pads

theorem isFilled_nil {count : Nat} : IsFilled count [] ↔ count % 4 = 0 := by
  constructor
  · rintro ⟨data, pads, hchars, -, hfits⟩
    obtain ⟨rfl, hpads⟩ := List.append_eq_nil_iff.1 hchars.symm
    rw [List.replicate_eq_nil_iff] at hpads
    subst hpads
    simpa [FitsPads] using hfits
  · intro h
    exact ⟨[], 0, rfl, by simp, .inl h⟩

theorem isFilled_pad {count : Nat} {rest : List Char} :
    IsFilled count ('=' :: rest) ↔ (∀ c ∈ rest, c = '=') ∧ FitsPads count (rest.length + 1) := by
  constructor
  · rintro ⟨data, pads, hchars, hdata, hfits⟩
    cases data with
    | nil =>
      obtain ⟨hlength, hall⟩ := List.eq_replicate_iff.1 hchars
      rw [List.length_cons] at hlength
      subst hlength
      exact ⟨fun c hc => hall c (List.mem_cons_of_mem _ hc), hfits⟩
    | cons c data =>
      have hc : '=' = c := (List.cons.inj hchars).1
      have hsign := hdata c List.mem_cons_self
      rw [← hc] at hsign
      cases hsign
  · rintro ⟨hall, hfits⟩
    refine ⟨[], rest.length + 1, ?_, by simp, hfits⟩
    rw [List.nil_append, List.replicate_succ, ← List.eq_replicate_iff.2 ⟨rfl, hall⟩]

theorem isFilled_cons {count : Nat} {c : Char} {rest : List Char} (hc : c ≠ '=') :
    IsFilled count (c :: rest) ↔ (value? c).isSome = true ∧ IsFilled (count + 1) rest := by
  constructor
  · rintro ⟨data, pads, hchars, hdata, hfits⟩
    cases data with
    | nil => exact absurd ((List.eq_replicate_iff.1 hchars).2 c List.mem_cons_self) hc
    | cons d data =>
      obtain ⟨rfl, hrest⟩ := List.cons.inj hchars
      refine ⟨hdata c List.mem_cons_self, data, pads, hrest,
        fun d hd => hdata d (List.mem_cons_of_mem _ hd), ?_⟩
      rwa [List.length_cons, Nat.add_comm data.length, ← Nat.add_assoc] at hfits
  · rintro ⟨hsign, data, pads, rfl, hdata, hfits⟩
    refine ⟨c :: data, pads, rfl, List.forall_mem_cons.2 ⟨hsign, hdata⟩, ?_⟩
    rwa [List.length_cons, Nat.add_comm data.length, ← Nat.add_assoc]

theorem isFilled_mod {count : Nat} {chars : List Char} :
    IsFilled (count % 4) chars ↔ IsFilled count chars := by
  have hfits : ∀ more pads, FitsPads (count % 4 + more) pads ↔ FitsPads (count + more) pads := by
    intro more pads
    simp only [FitsPads, Nat.mod_add_mod]
  simp only [IsFilled, hfits]

theorem exists_scan_refused {s : Scan} {c : Char} {rest : List Char} (hc : c ≠ '=')
    (h : value? c = none ∨ s.padded = true) :
    ¬∃ bytes, scan true s (c :: rest) = .ok bytes := by
  rw [scan, if_neg hc]
  rcases h with hnone | hpadded
  · simp [hnone]
  · cases value? c with
    | none => simp
    | some v => simp [hpadded]

/-- Behind padding that completes nothing there is padding alone. -/
theorem exists_scan_padded {chars : List Char} :
    ∀ {s : Scan}, s.padded = true → s.group.size < 2 →
      ((∃ bytes, scan true s chars = .ok bytes) ↔ s.group.size = 0 ∧ ∀ c ∈ chars, c = '=') := by
  induction chars with
  | nil =>
    intro s _ _
    simp [exists_scan_nil]
  | cons c rest ih =>
    intro s hpadded hsize
    by_cases hc : c = '='
    · subst hc
      rw [scan_pad_early true hsize, ih (s := { s with padded := true }) rfl hsize,
        List.forall_mem_cons]
      simp
    · refine iff_of_false (exists_scan_refused hc (.inr hpadded)) ?_
      rintro ⟨-, hall⟩
      exact hc (hall c List.mem_cons_self)

/-- Padding behind two signs of a group is two signs, and they end the text. -/
theorem exists_scan_two {s : Scan} (hsize : s.group.size = 2) (hpads : s.pads = 0)
    {rest : List Char} :
    (∃ bytes, scan true s ('=' :: rest) = .ok bytes) ↔ rest = ['='] := by
  rw [scan_pad_first true hsize hpads]
  cases rest with
  | nil =>
    rw [exists_scan_nil, hsize]
    simp
  | cons c more =>
    by_cases hc : c = '='
    · subst hc
      rw [scan_pad_last true (s := { s with pads := 1, padded := true }) (.inr ⟨hsize, le_rfl⟩)]
      cases more with
      | nil => simp
      | cons d more => simp
    · refine iff_of_false (exists_scan_refused hc (.inr rfl)) ?_
      rintro heq
      exact hc (List.cons.inj heq).1

theorem exists_scan_pad {s : Scan} (hpads : s.pads = 0) {rest : List Char} :
    (∃ bytes, scan true s ('=' :: rest) = .ok bytes) ↔
      (∀ c ∈ rest, c = '=') ∧ FitsPads s.group.size (rest.length + 1) := by
  have hless := s.group.size_lt
  rcases Nat.lt_or_ge s.group.size 2 with hearly | hlate
  · have hfits : FitsPads s.group.size (rest.length + 1) ↔ s.group.size = 0 := by
      rw [FitsPads]
      omega
    rw [scan_pad_early true hearly,
      exists_scan_padded (s := { s with padded := true }) rfl hearly, hfits]
    exact and_comm
  · rcases Nat.lt_or_ge s.group.size 3 with htwo | hthree
    · have hsize : s.group.size = 2 := by omega
      have hfits : FitsPads s.group.size (rest.length + 1) ↔ rest.length = 1 := by
        rw [FitsPads]
        omega
      rw [exists_scan_two hsize hpads, hfits, ← List.replicate_one, List.eq_replicate_iff]
      exact and_comm
    · have hfits : FitsPads s.group.size (rest.length + 1) ↔ rest.length = 0 := by
        rw [FitsPads]
        omega
      rw [scan_pad_last true (.inl (by omega)), hfits, List.length_eq_zero_iff]
      cases rest with
      | nil => simp
      | cons c more => simp

/-- A strict scan that has not come to padding takes what is filled. -/
theorem exists_scan_strict (chars : List Char) :
    ∀ {s : Scan}, s.padded = false → s.pads = 0 →
      ((∃ bytes, scan true s chars = .ok bytes) ↔ IsFilled s.group.size chars) := by
  induction chars with
  | nil =>
    intro s _ _
    rw [exists_scan_nil, isFilled_nil, Nat.mod_eq_of_lt s.group.size_lt]
  | cons c rest ih =>
    intro s hpadded hpads
    by_cases hc : c = '='
    · -- from here on there is padding alone, and the induction is not needed
      subst hc
      rw [isFilled_pad, exists_scan_pad hpads]
    · rw [isFilled_cons hc]
      cases hvalue : value? c with
      | none => simpa using exists_scan_refused (s := s) hc (.inl hvalue)
      | some v =>
        rw [scan_value hvalue (fun _ => hpadded), ih (s := s.push v) hpadded rfl, Scan.size_push,
          isFilled_mod]
        simp

/-- How much padding a strict text may have behind its signs. -/
def TakesPads (count pads : Nat) : Prop :=
  (count = 0 ∧ pads = 0) ∨ (0 < count ∧ count % 4 = 0) ∨ (count % 4 = 2 ∧ pads ≤ 2) ∨
    (count % 4 = 3 ∧ pads ≤ 1)

theorem toList_padded (text : String) :
    (padded text).toList = text.toList ++ List.replicate ((4 - text.length % 4) % 4) '=' := by
  rw [padded, String.toList_ofList]

theorem append_pads_eq_iff {chars data : List Char} {more pads : Nat} (hdata : '=' ∉ data) :
    chars ++ List.replicate more '=' = data ++ List.replicate pads '=' ↔
      ∃ own, own + more = pads ∧ chars = data ++ List.replicate own '=' := by
  constructor
  · intro h
    rcases List.append_eq_append_iff.1 h with ⟨gap, hgap, hmore⟩ | ⟨gap, hgap, hpads⟩
    · -- padding is no part of the signs
      have hnil : gap = [] := by
        refine List.eq_nil_iff_forall_not_mem.2 fun c hc => ?_
        have hpad : c ∈ List.replicate more '=' := hmore ▸ List.mem_append_left _ hc
        rw [List.eq_of_mem_replicate hpad] at hc
        exact hdata (hgap ▸ List.mem_append_right _ hc)
      subst hnil
      have hlength := congrArg List.length hmore
      simp only [List.nil_append, List.length_replicate] at hlength
      exact ⟨0, by omega, by simpa using hgap.symm⟩
    · obtain ⟨hlength, hown, -⟩ := List.append_eq_replicate_iff.1 hpads.symm
      rw [List.length_replicate] at hlength
      exact ⟨gap.length, hlength, by rw [hgap, ← hown]⟩
  · rintro ⟨own, rfl, rfl⟩
    rw [List.append_assoc, List.replicate_append_replicate]

theorem pad_notMem {data : List Char} (h : ∀ c ∈ data, (value? c).isSome = true) : '=' ∉ data := by
  intro hmem
  cases h _ hmem

theorem isAscii_of_isFilled {text : String} {count : Nat} (h : IsFilled count text.toList) :
    isAscii text = true := by
  obtain ⟨data, pads, hchars, hdata, -⟩ := h
  rw [isAscii, hchars, List.all_eq_true]
  intro c hc
  rcases List.mem_append.1 hc with hsign | hpad
  · exact decide_eq_true (lt_of_isSome_value? (hdata c hsign))
  · rw [List.eq_of_mem_replicate hpad]
    rfl

theorem exists_decodeStrict {text : String} :
    (∃ bytes, decodeStrict text = .ok bytes) ↔
      text.toList.head? ≠ some '=' ∧ IsFilled 0 text.toList := by
  have hscan := exists_scan_strict text.toList (s := {}) rfl rfl
  by_cases hascii : isAscii text = true
  · by_cases hhead : text.toList.head? = some '='
    · rw [decodeStrict, hascii, if_neg (by simp), if_pos hhead]
      simp [hhead]
    · rw [decodeStrict, hascii, if_neg (by simp), if_neg hhead, hscan]
      exact (and_iff_right hhead).symm
  · have hnot : ¬IsFilled 0 text.toList := mt isAscii_of_isFilled hascii
    rw [decodeStrict, if_pos (by simpa using hascii)]
    simp [hnot]

theorem head?_ne_pad_iff {data : List Char} {pads : Nat} (hdata : '=' ∉ data) :
    (data ++ List.replicate pads '=').head? ≠ some '=' ↔ 0 < data.length ∨ pads = 0 := by
  cases data with
  | nil =>
    cases pads with
    | zero => simp
    | succ pads => simp [List.replicate_succ]
  | cons c data =>
    have hc : c ≠ '=' := fun heq => hdata (heq ▸ List.mem_cons_self)
    simp [hc]

/-- The strict reader takes signs of the standard alphabet with padding behind them. -/
theorem decodeStrict_padded_iff {text : String} :
    (∃ bytes, decodeStrict (padded text) = .ok bytes) ↔
      ∃ data pads, text.toList = data ++ List.replicate pads '=' ∧
        (∀ c ∈ data, (value? c).isSome = true) ∧ TakesPads data.length pads := by
  rw [exists_decodeStrict, toList_padded, ← String.length_toList]
  constructor
  · rintro ⟨hhead, data, pads, hchars, hdata, hfits⟩
    rw [hchars, head?_ne_pad_iff (pad_notMem hdata)] at hhead
    obtain ⟨own, rfl, hown⟩ := (append_pads_eq_iff (pad_notMem hdata)).1 hchars
    refine ⟨data, own, hown, hdata, ?_⟩
    rw [hown, List.length_append, List.length_replicate] at hhead hfits
    rw [FitsPads] at hfits
    rw [TakesPads]
    omega
  · rintro ⟨data, pads, hchars, hdata, htakes⟩
    rw [TakesPads] at htakes
    have hpadded : text.toList ++ List.replicate ((4 - text.toList.length % 4) % 4) '=' =
        data ++ List.replicate (pads + (4 - text.toList.length % 4) % 4) '=' :=
      (append_pads_eq_iff (pad_notMem hdata)).2 ⟨pads, rfl, hchars⟩
    rw [hpadded, head?_ne_pad_iff (pad_notMem hdata)]
    rw [hchars, List.length_append, List.length_replicate] at hpadded ⊢
    refine ⟨by omega, data, _, rfl, hdata, ?_⟩
    rw [FitsPads]
    omega

/-! ## The lenient reader -/

/-- Whether the lenient reader looks at a character: a sign or padding. -/
def isKept (c : Char) : Bool := isSign c || c == '='

/-- The characters of a text that the lenient reader looks at. -/
def kept (text : String) : List Char := text.toList.filter isKept

theorem isKept_of_mem {chars data : List Char} {pads : Nat}
    (hchars : chars = data ++ List.replicate pads '=') (hdata : ∀ c ∈ data, isSign c = true)
    {c : Char} (h : c ∈ chars) : isKept c = true := by
  rw [hchars, List.mem_append, List.mem_replicate] at h
  rcases h with hsign | ⟨-, rfl⟩
  · rw [isKept, hdata c hsign]
    rfl
  · rfl

/-- Whether padding completes a group somewhere in a text that goes on behind `count`
    signs: one sign of padding behind three signs of the group, or two behind two. -/
def Closes (count : Nat) (chars : List Char) : Prop :=
  ∃ front, (front ++ ['='] <+: chars ∧ (count + front.countP isSign) % 4 = 3) ∨
    (front ++ ['=', '='] <+: chars ∧ (count + front.countP isSign) % 4 = 2)

theorem not_closes_nil {count : Nat} : ¬Closes count [] := by
  rintro ⟨front, ⟨hfront, -⟩ | ⟨hfront, -⟩⟩ <;> simp at hfront

theorem closes_mod {count : Nat} {chars : List Char} :
    Closes (count % 4) chars ↔ Closes count chars := by
  simp only [Closes, Nat.mod_add_mod]

theorem singleton_prefix_iff {c : Char} {chars : List Char} :
    [c] <+: chars ↔ chars.head? = some c := by
  cases chars with
  | nil => simp
  | cons d rest => simp [eq_comm]

theorem closes_cons {count : Nat} {c : Char} {rest : List Char} :
    Closes count (c :: rest) ↔
      (c = '=' ∧ (count % 4 = 3 ∨ (count % 4 = 2 ∧ rest.head? = some '='))) ∨
        Closes (count + if isSign c then 1 else 0) rest := by
  constructor
  · rintro ⟨front, h⟩
    cases front with
    | nil =>
      left
      simp only [List.nil_append, List.cons_prefix_cons, List.nil_prefix, and_true,
        singleton_prefix_iff, List.countP_nil, Nat.add_zero] at h
      rcases h with ⟨hc, hcount⟩ | ⟨⟨hc, hhead⟩, hcount⟩
      · exact ⟨hc.symm, .inl hcount⟩
      · exact ⟨hc.symm, .inr ⟨hcount, hhead⟩⟩
    | cons d front =>
      right
      simp only [List.cons_append, List.cons_prefix_cons, List.countP_cons] at h
      rcases h with ⟨⟨rfl, hfront⟩, hcount⟩ | ⟨⟨rfl, hfront⟩, hcount⟩
      · exact ⟨front, .inl ⟨hfront, by omega⟩⟩
      · exact ⟨front, .inr ⟨hfront, by omega⟩⟩
  · rintro (⟨rfl, hcount | ⟨hcount, hhead⟩⟩ | ⟨front, h⟩)
    · exact ⟨[], .inl ⟨by simp, hcount⟩⟩
    · refine ⟨[], .inr ⟨?_, hcount⟩⟩
      rw [List.nil_append, List.cons_prefix_cons, singleton_prefix_iff]
      exact ⟨rfl, hhead⟩
    · refine ⟨c :: front, ?_⟩
      simp only [List.cons_append, List.cons_prefix_cons, true_and, List.countP_cons]
      rcases h with ⟨hfront, hcount⟩ | ⟨hfront, hcount⟩
      · exact .inl ⟨hfront, by omega⟩
      · exact .inr ⟨hfront, by omega⟩

theorem scan_skip {s : Scan} {c : Char} (rest : List Char) (h : isSign c = false) (hc : c ≠ '=') :
    scan false s ((c :: rest).map ofUrl) = scan false s (rest.map ofUrl) := by
  have hnone : value? (ofUrl c) = none := by
    rw [← Option.isNone_iff_eq_none, ← Option.not_isSome, isSome_value?_ofUrl, h]
    rfl
  rw [List.map_cons, scan, if_neg (mt ofUrl_eq_pad_iff.1 hc), hnone]
  rfl

theorem scan_congr {first second : List Char} (h : ∀ s, scan false s first = scan false s second)
    (s : Scan) (c : Char) : scan false s (c :: first) = scan false s (c :: second) := by
  rw [scan, scan]
  simp only [h, Bool.false_and]

theorem scan_kept (chars : List Char) :
    ∀ s : Scan, scan false s (chars.map ofUrl) =
      scan false s ((chars.filter isKept).map ofUrl) := by
  induction chars with
  | nil =>
    intro s
    rfl
  | cons c rest ih =>
    intro s
    cases hkeep : isKept c with
    | true =>
      rw [List.filter_cons_of_pos hkeep]
      exact scan_congr ih s (ofUrl c)
    | false =>
      obtain ⟨hsign, hpad⟩ := Bool.or_eq_false_iff.1 hkeep
      rw [scan_skip rest hsign (by simpa using hpad), ih,
        List.filter_cons_of_neg (by simp [hkeep])]

/-- A lenient scan comes to an end with padding that completes a group, or where all groups
    are complete. -/
theorem exists_scan_lenient {chars : List Char}
    (hkept : ∀ c ∈ chars, isSign c = true ∨ c = '=') :
    ∀ {s : Scan}, (∃ bytes, scan false s (chars.map ofUrl) = .ok bytes) ↔
      (s.group.size = 2 ∧ 1 ≤ s.pads ∧ chars.head? = some '=') ∨ Closes s.group.size chars ∨
        (s.group.size + chars.countP isSign) % 4 = 0 := by
  induction chars with
  | nil =>
    intro s
    have hless := s.group.size_lt
    rw [List.map_nil, exists_scan_nil]
    simp only [not_closes_nil, List.head?_nil, reduceCtorEq, and_false, false_or, List.countP_nil]
    omega
  | cons c rest ih =>
    intro s
    have ih := @ih (fun d hd => hkept d (List.mem_cons_of_mem c hd))
    have hless := s.group.size_lt
    rw [closes_cons, List.countP_cons]
    rcases hkept c List.mem_cons_self with hsign | rfl
    · have hpad : c ≠ '=' := by
        rintro rfl
        cases hsign
      have hvalue : (value? (ofUrl c)).isSome = true := by rw [isSome_value?_ofUrl, hsign]
      obtain ⟨v, hv⟩ := Option.isSome_iff_exists.1 hvalue
      have hcount : s.group.size + 1 + rest.countP isSign =
          s.group.size + (rest.countP isSign + 1) := by omega
      rw [List.map_cons, scan_value hv (by simp), ih, Scan.size_push, closes_mod]
      simp [hsign, hpad, hcount, Scan.push]
    · have hsame : ofUrl '=' = '=' := rfl
      rw [List.map_cons, hsame, isSign_pad]
      -- padding completes a group, or is the first of two, or comes too early and is skipped
      rcases Nat.lt_or_ge s.group.size 2 with hearly | hlate
      · have htwo : s.group.size % 4 ≠ 2 := by omega
        have hthree : s.group.size % 4 ≠ 3 := by omega
        have hsize : s.group.size ≠ 2 := by omega
        rw [scan_pad_early false hearly, ih]
        simp [htwo, hthree, hsize]
      · by_cases hlast : s.group.size = 3 ∨ (s.group.size = 2 ∧ 1 ≤ s.pads)
        · rw [scan_pad_last false hlast]
          refine iff_of_true (by simp) ?_
          rcases hlast with hthree | ⟨htwo, hpads⟩
          · exact .inr (.inl (.inl ⟨rfl, .inl (by omega)⟩))
          · exact .inl ⟨htwo, hpads, rfl⟩
        · have htwo : s.group.size = 2 := by omega
          have hpads : s.pads = 0 := by omega
          rw [scan_pad_first false htwo hpads, ih]
          simp [htwo, hpads, or_assoc]

theorem isAscii_padded (text : String) : isAscii (padded text) = isAscii text := by
  rw [isAscii, isAscii, toList_padded, List.all_append]
  simp

theorem countP_kept_padded (text : String) :
    (kept (padded text)).countP isSign = text.toList.countP isSign := by
  have hsame : ∀ c, (isSign c && isKept c) = isSign c := by
    intro c
    rw [isKept]
    cases isSign c <;> rfl
  rw [kept, List.countP_filter, toList_padded, List.countP_append]
  simp only [hsame]
  rw [List.countP_replicate, isSign_pad]
  rfl

/-- What the lenient reader reads is told by the characters that it keeps. -/
theorem decodeLenient_kept {text : String} (h : isAscii text = true) :
    decodeLenient text = decodeLenient (String.ofList (kept text)) := by
  have hkept : isAscii (String.ofList (kept text)) = true := by
    rw [isAscii, String.toList_ofList, List.all_eq_true]
    intro c hc
    rw [isAscii, List.all_eq_true] at h
    exact h c (List.mem_of_mem_filter hc)
  rw [decodeLenient, decodeLenient, h, hkept, String.toList_ofList, scan_kept]
  rfl

/-- The lenient reader takes ASCII texts whose signs make complete groups, or in which
    padding completes one. -/
theorem decodeLenient_padded_iff {text : String} :
    (∃ bytes, decodeLenient (padded text) = .ok bytes) ↔
      isAscii text = true ∧
        (text.toList.countP isSign % 4 = 0 ∨ Closes 0 (kept (padded text))) := by
  by_cases hascii : isAscii text = true
  · have hkept : ∀ c ∈ kept (padded text), isSign c = true ∨ c = '=' := by
      intro c hc
      simpa [isKept] using List.of_mem_filter hc
    rw [decodeLenient, isAscii_padded, hascii, if_neg (by simp), scan_kept]
    change (∃ bytes, scan false {} ((kept (padded text)).map ofUrl) = .ok bytes) ↔ _
    rw [exists_scan_lenient hkept, countP_kept_padded]
    simp [Group.size, or_comm]
  · rw [decodeLenient, isAscii_padded, if_pos (by simpa using hascii)]
    simp [hascii]

end UtxoBalance.Base64
