import UtxoBalance.Block.Reader
import UtxoBalance.Proofs.Hex

/-!
# Texts of byte strings

A byte string has hexadecimal texts, which differ in the case of their letters, and up to
four base64 texts: of either alphabet, with padding or without. Each of them is read back
as the byte string, so long as it is not taken for a text of the other kind. A hexadecimal
text never is, since its mark tells. A base64 text is where it begins with the mark of
hexadecimal text, as its first twelve bits decide; the text of an address cannot, since
no address has such a header.

## Main definitions

- `Base64.IsTextOf` — the base64 texts of a byte string
- `Base64.writesHexMark` — the byte strings whose base64 texts begin with the other mark

## Main statements

- `Block.decodeText_of_hex` — a hexadecimal text is read back
- `Block.decodeText_of_base64` — a base64 text without the mark of hexadecimal is read back
- `Base64.IsTextOf.hasHexMark_eq` — the octets tell whether a base64 text has that mark
- `Base64.IsTextOf.hasHexMark_of_classify` — the base64 text of an address has no such mark
-/

namespace UtxoBalance

theorem Block.decodeText_of_hex {text : String} {bytes : Bytes} (h : Hex.IsTextOf text bytes) :
    decodeText text = .ok bytes := by
  obtain ⟨mark, digits, htext, hmark, hdecode⟩ := h.exists_digits
  have hhex : hasHexMark text.toList = true := by
    rw [htext]
    simpa [hasHexMark] using hmark
  rw [decodeText, if_pos hhex, htext]
  simp only [List.drop_succ_cons, List.drop_zero, hdecode]
  rfl

/-! ## Base64 texts -/

namespace Base64

/-- A text without its padding. -/
def unpadded (text : String) : String :=
  String.ofList (text.toList.filter (· != '='))

/-- Whether a text writes a byte string in base64: in either alphabet, with its padding or
    without. -/
def IsTextOf (text : String) (bytes : Bytes) : Prop :=
  ∃ whole ∈ [encode bytes, encodeUrl bytes], text = whole ∨ text = unpadded whole

theorem symbol_spec {n : Nat} (h : n < 64) : value? (symbol n) = some n ∧ symbol n ≠ '=' := by
  have hall : ∀ n < 64, value? (symbol n) = some n ∧ symbol n ≠ '=' := by decide
  exact hall n h

/-- The groups of a byte string are signs of the alphabet and at most two of padding. -/
theorem groups_eq (bytes : Bytes) :
    ∃ (values : List Nat) (pads : Nat), (∀ n ∈ values, n < 64) ∧ pads ≤ 2 ∧
      (values.length + pads) % 4 = 0 ∧
      groups bytes = values.map symbol ++ List.replicate pads '=' := by
  fun_induction groups bytes with
  | case1 => exact ⟨[], 0, by simp, by simp, rfl, rfl⟩
  | case2 a =>
    have ha : a.toNat < 256 := a.toNat_lt
    refine ⟨[a.toNat / 4, a.toNat % 4 * 16], 2, ?_, le_rfl, by simp, rfl⟩
    simp only [List.forall_mem_cons]
    exact ⟨by omega, by omega, by simp⟩
  | case3 a b =>
    have ha : a.toNat < 256 := a.toNat_lt
    have hb : b.toNat < 256 := b.toNat_lt
    refine ⟨[a.toNat / 4, a.toNat % 4 * 16 + b.toNat / 16, b.toNat % 16 * 4], 1, ?_, by simp,
      by simp, rfl⟩
    simp only [List.forall_mem_cons]
    exact ⟨by omega, by omega, by omega, by simp⟩
  | case4 a b c rest ih =>
    have ha : a.toNat < 256 := a.toNat_lt
    have hb : b.toNat < 256 := b.toNat_lt
    have hc : c.toNat < 256 := c.toNat_lt
    obtain ⟨values, pads, hvalues, hpads, hlength, hgroups⟩ := ih
    refine ⟨a.toNat / 4 :: (a.toNat % 4 * 16 + b.toNat / 16) ::
      (b.toNat % 16 * 4 + c.toNat / 64) :: c.toNat % 64 :: values, pads, ?_, hpads, ?_, ?_⟩
    · simp only [List.forall_mem_cons]
      exact ⟨by omega, by omega, by omega, by omega, hvalues⟩
    · simp only [List.length_cons]
      omega
    · simp only [hgroups, List.map_cons, List.cons_append]

/-- The state of a scan behind one more sign of the alphabet. -/
def Scan.push (s : Scan) (v : Nat) : Scan :=
  { s with group := (s.group.push v).1, pads := 0, octets := (s.group.push v).2.toList ++ s.octets }

theorem scan_value {c : Char} {v : Nat} (h : value? c = some v) {strict : Bool} {s : Scan}
    (hs : strict = true → s.padded = false) (rest : List Char) :
    scan strict s (c :: rest) = scan strict (s.push v) rest := by
  have hpad : c ≠ '=' := by
    rintro rfl
    cases h
  have hopen : (strict && s.padded) = false := by
    cases strict with
    | false => rfl
    | true => exact hs rfl
  rw [scan, if_neg hpad, h]
  simp [hopen, Scan.push]

theorem scan_symbol {n : Nat} (h : n < 64) (strict : Bool) {s : Scan} (hs : s.padded = false)
    (rest : List Char) :
    scan strict s (symbol n :: rest) = scan strict (s.push n) rest :=
  scan_value (symbol_spec h).1 (fun _ => hs) rest

theorem ofNat_eq {n : Nat} {b : UInt8} (h : n = b.toNat) : UInt8.ofNat n = b := by
  rw [h, UInt8.ofNat_toNat]

/-- A scan between groups reads the groups of a byte string and adds its octets. -/
theorem scan_groups (strict : Bool) (bytes : Bytes) :
    ∀ octets : Bytes, scan strict { octets } (groups bytes) = .ok (octets.reverse ++ bytes) := by
  fun_induction groups bytes with
  | case1 =>
    intro octets
    rw [List.append_nil]
    rfl
  | case2 a =>
    intro octets
    have ha : a.toNat < 256 := a.toNat_lt
    have hfirst : UInt8.ofNat (a.toNat / 4 * 4 + a.toNat % 4 * 16 / 16) = a :=
      ofNat_eq (by omega)
    rw [scan_symbol (by omega) strict rfl, scan_symbol (by omega) strict rfl]
    simp only [Scan.push, Group.push, hfirst]
    simp [scan, Group.isCompletedBy]
  | case3 a b =>
    intro octets
    have ha : a.toNat < 256 := a.toNat_lt
    have hb : b.toNat < 256 := b.toNat_lt
    have hfirst : UInt8.ofNat (a.toNat / 4 * 4 + (a.toNat % 4 * 16 + b.toNat / 16) / 16) = a :=
      ofNat_eq (by omega)
    have hsecond : UInt8.ofNat ((a.toNat % 4 * 16 + b.toNat / 16) % 16 * 16 +
        b.toNat % 16 * 4 / 4) = b := ofNat_eq (by omega)
    rw [scan_symbol (by omega) strict rfl, scan_symbol (by omega) strict rfl,
      scan_symbol (by omega) strict rfl]
    simp only [Scan.push, Group.push, hfirst, hsecond]
    simp [scan, Group.isCompletedBy]
  | case4 a b c rest ih =>
    intro octets
    have ha : a.toNat < 256 := a.toNat_lt
    have hb : b.toNat < 256 := b.toNat_lt
    have hc : c.toNat < 256 := c.toNat_lt
    have hfirst : UInt8.ofNat (a.toNat / 4 * 4 + (a.toNat % 4 * 16 + b.toNat / 16) / 16) = a :=
      ofNat_eq (by omega)
    have hsecond : UInt8.ofNat ((a.toNat % 4 * 16 + b.toNat / 16) % 16 * 16 +
        (b.toNat % 16 * 4 + c.toNat / 64) / 4) = b := ofNat_eq (by omega)
    have hthird : UInt8.ofNat ((b.toNat % 16 * 4 + c.toNat / 64) % 4 * 64 + c.toNat % 64) = c :=
      ofNat_eq (by omega)
    rw [scan_symbol (by omega) strict rfl, scan_symbol (by omega) strict rfl,
      scan_symbol (by omega) strict rfl, scan_symbol (by omega) strict rfl]
    simp only [Scan.push, Group.push, hfirst, hsecond, hthird]
    simpa using ih (c :: b :: a :: octets)

/-- What the readers have to know of a character of a base64 text. -/
theorem groups_spec {bytes : Bytes} {c : Char} (h : c ∈ groups bytes) :
    c.toNat < 0x80 ∧ (toUrl c).toNat < 0x80 ∧ ofUrl c = c ∧ ofUrl (toUrl c) = c := by
  obtain ⟨values, pads, hvalues, -, -, hgroups⟩ := groups_eq bytes
  rw [hgroups, List.mem_append, List.mem_map, List.mem_replicate] at h
  rcases h with ⟨n, hn, rfl⟩ | ⟨-, rfl⟩
  · have hall : ∀ n < 64, (symbol n).toNat < 0x80 ∧ (toUrl (symbol n)).toNat < 0x80 ∧
        ofUrl (symbol n) = symbol n ∧ ofUrl (toUrl (symbol n)) = symbol n := by decide
    exact hall n (hvalues n hn)
  · decide

theorem groups_cons (header : UInt8) (rest : Bytes) :
    ∃ tail, groups (header :: rest) = symbol (header.toNat / 4) :: tail := by
  match rest with
  | [] => exact ⟨_, rfl⟩
  | [_] => exact ⟨_, rfl⟩
  | _ :: _ :: _ => exact ⟨_, rfl⟩

theorem decodeStrict_encode (bytes : Bytes) : decodeStrict (encode bytes) = .ok bytes := by
  have hascii : isAscii (encode bytes) = true := by
    rw [isAscii, encode, String.toList_ofList, List.all_eq_true]
    exact fun c hc => decide_eq_true (groups_spec hc).1
  have hhead : (groups bytes).head? ≠ some '=' := by
    cases bytes with
    | nil => simp [groups]
    | cons header rest =>
      have hheader : header.toNat < 256 := header.toNat_lt
      obtain ⟨tail, htail⟩ := groups_cons header rest
      rw [htail, List.head?_cons]
      have hsign : symbol (header.toNat / 4) ≠ '=' := (symbol_spec (by omega)).2
      exact fun h => hsign (Option.some.inj h)
  rw [decodeStrict, hascii, encode, String.toList_ofList, if_neg (by simp), if_neg hhead]
  exact scan_groups true bytes []

/-- A padded text of either alphabet, as the lenient reading sees it. -/
theorem map_ofUrl_of_mem {whole : String} {bytes : Bytes}
    (h : whole ∈ [encode bytes, encodeUrl bytes]) :
    whole.toList.map ofUrl = groups bytes ∧ ∀ c ∈ whole.toList, c.toNat < 0x80 := by
  simp only [List.mem_cons, List.not_mem_nil, or_false] at h
  rcases h with rfl | rfl
  · rw [encode, String.toList_ofList]
    constructor
    · exact (List.map_congr_left fun c hc => (groups_spec hc).2.2.1).trans (List.map_id' _)
    · exact fun c hc => (groups_spec hc).1
  · rw [encodeUrl, String.toList_ofList, List.map_map]
    constructor
    · exact (List.map_congr_left fun c hc => (groups_spec hc).2.2.2).trans (List.map_id' _)
    · intro c hc
      obtain ⟨d, hd, rfl⟩ := List.mem_map.1 hc
      exact (groups_spec hd).2.1

theorem decodeLenient_of_mem {whole : String} {bytes : Bytes}
    (h : whole ∈ [encode bytes, encodeUrl bytes]) : decodeLenient whole = .ok bytes := by
  obtain ⟨hmap, hchars⟩ := map_ofUrl_of_mem h
  have hascii : isAscii whole = true := by
    rw [isAscii, List.all_eq_true]
    exact fun c hc => decide_eq_true (hchars c hc)
  rw [decodeLenient, hascii, if_neg (by simp), hmap]
  exact scan_groups false bytes []

/-- Without the two signs of its own a text of the URL-safe alphabet is a standard one. -/
theorem eq_encode_of_mem {whole : String} {bytes : Bytes}
    (h : whole ∈ [encode bytes, encodeUrl bytes]) (hminus : '-' ∉ whole.toList)
    (hline : '_' ∉ whole.toList) : whole = encode bytes := by
  have hself : ∀ c ∈ whole.toList, ofUrl c = c := by
    intro c hc
    have hcminus : c ≠ '-' := ne_of_mem_of_not_mem hc hminus
    have hcline : c ≠ '_' := ne_of_mem_of_not_mem hc hline
    rw [ofUrl, if_neg hcminus, if_neg hcline]
  rw [encode, ← (map_ofUrl_of_mem h).1, List.map_congr_left hself, List.map_id',
    String.ofList_toList]

/-- A padded text is data, a multiple of four characters with at most two of padding. -/
theorem exists_data_of_mem {whole : String} {bytes : Bytes}
    (h : whole ∈ [encode bytes, encodeUrl bytes]) :
    ∃ (data : List Char) (pads : Nat), '=' ∉ data ∧ pads ≤ 2 ∧ (data.length + pads) % 4 = 0 ∧
      whole.toList = data ++ List.replicate pads '=' := by
  obtain ⟨values, pads, hvalues, hpads, hlength, hgroups⟩ := groups_eq bytes
  have hurl : ∀ n < 64, toUrl (symbol n) ≠ '=' := by decide
  simp only [List.mem_cons, List.not_mem_nil, or_false] at h
  rcases h with rfl | rfl
  · refine ⟨values.map symbol, pads, ?_, hpads, ?_, ?_⟩
    · intro hmem
      obtain ⟨n, hn, hsign⟩ := List.mem_map.1 hmem
      exact (symbol_spec (hvalues n hn)).2 hsign
    · rw [List.length_map, hlength]
    · rw [encode, String.toList_ofList, hgroups]
  · refine ⟨values.map (toUrl ∘ symbol), pads, ?_, hpads, ?_, ?_⟩
    · intro hmem
      obtain ⟨n, hn, hsign⟩ := List.mem_map.1 hmem
      exact hurl n (hvalues n hn) hsign
    · rw [List.length_map, hlength]
    · have hpad : toUrl '=' = '=' := by decide
      rw [encodeUrl, String.toList_ofList, hgroups, List.map_append, List.map_map,
        List.map_replicate, hpad]

theorem toList_unpadded {whole : String} {data : List Char} {pads : Nat} (hdata : '=' ∉ data)
    (hchars : whole.toList = data ++ List.replicate pads '=') :
    (unpadded whole).toList = data := by
  have hkeep : data.filter (· != '=') = data :=
    List.filter_eq_self.2 fun c hc => by simpa using ne_of_mem_of_not_mem hc hdata
  rw [unpadded, String.toList_ofList, hchars, List.filter_append, hkeep]
  simp

/-- A text lacks just the padding that its reader adds. -/
theorem padded_of_mem {text whole : String} {bytes : Bytes}
    (hwhole : whole ∈ [encode bytes, encodeUrl bytes]) (h : text = whole ∨ text = unpadded whole) :
    padded text = whole := by
  obtain ⟨data, pads, hdata, hpads, hlength, hchars⟩ := exists_data_of_mem hwhole
  rw [← String.toList_inj, padded, String.toList_ofList, ← String.length_toList]
  rcases h with rfl | rfl
  · have hnone : (4 - text.toList.length % 4) % 4 = 0 := by
      rw [hchars, List.length_append, List.length_replicate]
      omega
    rw [hnone, List.replicate_zero, List.append_nil]
  · have hmissing : (4 - data.length % 4) % 4 = pads := by omega
    rw [toList_unpadded hdata hchars, hmissing, hchars]

end Base64

namespace Block

theorem decodeText_of_base64 {text : String} {bytes : Bytes} (h : Base64.IsTextOf text bytes)
    (hmark : hasHexMark text.toList = false) : decodeText text = .ok bytes := by
  obtain ⟨whole, hwhole, htext⟩ := h
  have hmem : ∀ c, c ≠ '=' → (c ∈ text.toList ↔ c ∈ whole.toList) := by
    intro c hc
    rcases htext with rfl | rfl
    · rfl
    · simp [Base64.unpadded, hc]
  rw [decodeText, if_neg (by simp [hmark]), Base64.padded_of_mem hwhole htext]
  -- the two signs of the URL-safe alphabet decide which reader the text goes to
  by_cases hurl : '-' ∈ text.toList ∨ '_' ∈ text.toList
  · rw [if_pos (by simpa using hurl), Base64.decodeLenient_of_mem hwhole]
    rfl
  · obtain ⟨hminus, hline⟩ := not_or.1 hurl
    rw [hmem _ (by decide)] at hminus hline
    rw [if_neg (by simpa using hurl), Base64.eq_encode_of_mem hwhole hminus hline,
      Base64.decodeStrict_encode]
    rfl

end Block

/-! ## Base64 texts that begin with the mark of hexadecimal text -/

open Block (hasHexMark)

theorem Block.hasHexMark_cons_cons (c d : Char) (rest : List Char) :
    hasHexMark (c :: d :: rest) = (c == '0' && (d == 'x' || d == 'X')) := by
  by_cases hc : c = '0'
  · subst hc
    rfl
  · have hnone : hasHexMark (c :: d :: rest) = false := by
      unfold hasHexMark
      split
      · next heq => exact absurd (List.cons.inj heq).1 hc
      · rfl
    rw [hnone, beq_false_of_ne hc, Bool.false_and]

theorem Block.hasHexMark_singleton (c : Char) : hasHexMark [c] = false := by
  unfold hasHexMark
  split
  · next heq => cases heq
  · rfl

namespace Base64

/-- Whether the base64 texts of a byte string begin with the mark of hexadecimal text: its
    first twelve bits are those behind `0x` or `0X`. -/
def writesHexMark : Bytes → Bool
  | first :: second :: _ =>
    (first == 0xD3 && second.toNat / 16 == 1) || (first == 0xD1 && second.toNat / 16 == 7)
  | _ => false

theorem symbol_eq_zero_iff : ∀ n < 64, symbol n = '0' ↔ n = 52 := by decide

theorem symbol_eq_mark_iff : ∀ n < 64, (symbol n = 'x' ∨ symbol n = 'X') ↔ n = 49 ∨ n = 23 := by
  decide

theorem hasHexMark_groups (bytes : Bytes) : hasHexMark (groups bytes) = writesHexMark bytes := by
  rw [Bool.eq_iff_iff]
  match bytes with
  | [] => exact Iff.rfl
  | [a] =>
    have ha : a.toNat < 256 := a.toNat_lt
    simp only [groups, Block.hasHexMark_cons_cons, writesHexMark, Bool.and_eq_true, Bool.or_eq_true,
      beq_iff_eq, Bool.false_eq_true, iff_false,
      symbol_eq_zero_iff _ (by omega : a.toNat / 4 < 64),
      symbol_eq_mark_iff _ (by omega : a.toNat % 4 * 16 < 64)]
    omega
  | a :: b :: rest =>
    have ha : a.toNat < 256 := a.toNat_lt
    have hb : b.toNat < 256 := b.toNat_lt
    obtain ⟨tail, htail⟩ : ∃ tail, groups (a :: b :: rest) =
        symbol (a.toNat / 4) :: symbol (a.toNat % 4 * 16 + b.toNat / 16) :: tail := by
      cases rest with
      | nil => exact ⟨_, rfl⟩
      | cons c rest => exact ⟨_, rfl⟩
    simp only [htail, Block.hasHexMark_cons_cons, writesHexMark, Bool.and_eq_true, Bool.or_eq_true,
      beq_iff_eq, symbol_eq_zero_iff _ (by omega : a.toNat / 4 < 64),
      symbol_eq_mark_iff _ (by omega : a.toNat % 4 * 16 + b.toNat / 16 < 64),
      ← UInt8.toNat_inj, UInt8.reduceToNat]
    omega

theorem ofUrl_beq {c d : Char} (hd : d ∉ ['+', '/', '-', '_']) : (ofUrl c == d) = (c == d) := by
  simp only [List.mem_cons, List.not_mem_nil, or_false, not_or] at hd
  rw [ofUrl]
  split
  · next hc => rw [hc, beq_false_of_ne (Ne.symm hd.1), beq_false_of_ne (Ne.symm hd.2.2.1)]
  · split
    · next hc => rw [hc, beq_false_of_ne (Ne.symm hd.2.1), beq_false_of_ne (Ne.symm hd.2.2.2)]
    · rfl

theorem hasHexMark_map_ofUrl (chars : List Char) :
    hasHexMark (chars.map ofUrl) = hasHexMark chars := by
  match chars with
  | [] => rfl
  | [c] => rw [List.map_singleton, Block.hasHexMark_singleton, Block.hasHexMark_singleton]
  | c :: d :: rest =>
    rw [List.map_cons, List.map_cons, Block.hasHexMark_cons_cons, Block.hasHexMark_cons_cons,
      ofUrl_beq (by decide), ofUrl_beq (by decide), ofUrl_beq (by decide)]

/-- Padding is no part of a mark. -/
theorem hasHexMark_append_pads (data : List Char) (pads : Nat) :
    hasHexMark (data ++ List.replicate pads '=') = hasHexMark data := by
  match data, pads with
  | [], 0 => rfl
  | [], 1 => exact Block.hasHexMark_singleton _
  | [], _ + 2 => exact Block.hasHexMark_cons_cons _ _ _
  | [c], 0 => rfl
  | [c], _ + 1 =>
    rw [Block.hasHexMark_singleton]
    exact (Block.hasHexMark_cons_cons _ _ _).trans (Bool.and_false _)
  | c :: d :: rest, pads =>
    rw [List.cons_append, List.cons_append, Block.hasHexMark_cons_cons, Block.hasHexMark_cons_cons]

/-- The octets of a base64 text tell whether it begins with the mark of hexadecimal text. -/
theorem IsTextOf.hasHexMark_eq {text : String} {bytes : Bytes} (h : IsTextOf text bytes) :
    hasHexMark text.toList = writesHexMark bytes := by
  obtain ⟨whole, hwhole, htext⟩ := h
  have hmark : hasHexMark whole.toList = writesHexMark bytes := by
    rw [← hasHexMark_groups, ← (map_ofUrl_of_mem hwhole).1, hasHexMark_map_ofUrl]
  rcases htext with rfl | rfl
  · exact hmark
  · obtain ⟨data, pads, hdata, -, -, hchars⟩ := exists_data_of_mem hwhole
    rw [toList_unpadded hdata hchars, ← hmark, hchars, hasHexMark_append_pads]

end Base64

theorem Base64.IsTextOf.hasHexMark_of_classify {text : String} {raw : Bytes}
    (h : IsTextOf text raw) {kind : Address.Kind} (hkind : Address.classify raw = .ok kind) :
    hasHexMark text.toList = false := by
  rw [h.hasHexMark_eq, Bool.eq_false_iff]
  intro hwrites
  match raw with
  | [] => cases hwrites
  | [header] => cases hwrites
  | header :: second :: rest =>
    simp only [writesHexMark, Bool.or_eq_true, Bool.and_eq_true, beq_iff_eq] at hwrites
    -- a header of either kind has thirteen in its upper half
    rcases hwrites with ⟨rfl, -⟩ | ⟨rfl, -⟩
    · cases hkind
    · cases hkind

end UtxoBalance
