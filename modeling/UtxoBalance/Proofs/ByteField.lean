import UtxoBalance.Proofs.Base64Reading
import UtxoBalance.Proofs.Outcome

/-!
# What the byte fields of a document take

A field of octets holds one text for three writings, and its first two characters and the
signs `-` and `_` decide which of them it is read in. The base64 text of some octets begins
like hexadecimal text. It is read as such then, and never gives the octets back: two
digits an octet are more than a base64 text has characters.

Of the texts without the mark of hexadecimal text, those without `-` and `_` are read
strictly, and are signs with padding behind them or are refused. The others are read
leniently, where any ASCII character may stand between the signs and anything may follow
padding that completes a group.

## Main statements

- `Block.readBytes_base64_iff` — which octets are read back from their base64 texts
- `Block.readBytes_unmarked_iff` — which texts without the mark are taken
-/

namespace UtxoBalance

/-! ## Base64 texts that begin with the mark -/

namespace Base64

theorem length_groups (bytes : Bytes) : (groups bytes).length = (bytes.length + 2) / 3 * 4 := by
  fun_induction groups bytes with
  | case1 => rfl
  | case2 => simp
  | case3 => simp
  | case4 a b c rest ih =>
    simp only [List.length_cons, ih]
    omega

theorem IsTextOf.length_le {text : String} {bytes : Bytes} (h : IsTextOf text bytes) :
    text.length ≤ (bytes.length + 2) / 3 * 4 := by
  obtain ⟨whole, hwhole, htext⟩ := h
  have hlength : whole.toList.length = (bytes.length + 2) / 3 * 4 := by
    rw [← length_groups, ← (map_ofUrl_of_mem hwhole).1, List.length_map]
  rw [← hlength, ← String.length_toList]
  rcases htext with rfl | rfl
  · exact le_rfl
  · rw [unpadded, String.toList_ofList]
    exact List.length_filter_le _ _

theorem two_le_length_of_writesHexMark {bytes : Bytes} (h : writesHexMark bytes = true) :
    2 ≤ bytes.length := by
  match bytes with
  | [] => cases h
  | [_] => cases h
  | _ :: _ :: _ => simp

end Base64

namespace Block

theorem decodeText_of_hasHexMark {text : String} (h : hasHexMark text.toList = true) :
    decodeText text = (Hex.decode (String.ofList (text.toList.drop 2))).mapError .hex := by
  rw [decodeText, if_pos h]

/-- Behind the mark stand too few digits for the octets that the text was written for. -/
theorem decodeText_ne_of_hasHexMark {text : String} {bytes : Bytes}
    (h : Base64.IsTextOf text bytes) (hmark : hasHexMark text.toList = true) :
    decodeText text ≠ .ok bytes := by
  rw [decodeText_of_hasHexMark hmark, Ne, mapError_eq_ok_iff]
  intro hdecode
  have hdigits := Hex.length_of_decode hdecode
  rw [String.length_ofList, List.length_drop, String.length_toList] at hdigits
  -- from two octets on, two digits an octet are more than four signs for three of them
  have hlength := h.length_le
  have htwo := Base64.two_le_length_of_writesHexMark (h.hasHexMark_eq.symm.trans hmark)
  omega

/-- A base64 text, of either alphabet and with its padding or without, is read back as the
    octets it was written for unless their first twelve bits are those of the mark of
    hexadecimal text. Otherwise what follows the mark is read as hexadecimal text. -/
theorem readBytes_base64_iff (field : String) {text : String} {bytes : Bytes}
    (h : Base64.IsTextOf text bytes) :
    (readBytes field (.text text) = .ok bytes ↔ Base64.writesHexMark bytes = false) ∧
      (Base64.writesHexMark bytes = true →
        readBytes field (.text text) =
          (Hex.decode (String.ofList (text.toList.drop 2))).mapError
            (FormatError.badBytes field ∘ ByteFault.hex)) := by
  rw [readBytes, mapError_eq_ok_iff, ← h.hasHexMark_eq]
  refine ⟨⟨fun hread => ?_, decodeText_of_base64 h⟩, fun hmark => ?_⟩
  · by_contra hmark
    exact decodeText_ne_of_hasHexMark h (by simpa using hmark) hread
  · rw [decodeText_of_hasHexMark hmark]
    cases Hex.decode (String.ofList (text.toList.drop 2)) with
    | error position => rfl
    | ok other => rfl

/-- A transaction hash, and its base64 text. -/
def markedHash : Bytes := [0xD3, 0x1D] ++ List.replicate 30 7

theorem isTextOf_markedHash :
    Base64.IsTextOf "0x0HBwcHBwcHBwcHBwcHBwcHBwcHBwcHBwcHBwcHBwc=" markedHash :=
  ⟨_, List.mem_cons_self, .inl (by decide +kernel)⟩

theorem isTextOf_threeOctets : Base64.IsTextOf "0xAB" [0xD3, 0x10, 0x01] :=
  ⟨_, List.mem_cons_self, .inl (by decide +kernel)⟩

/-- The text of the hash is no hexadecimal text, and the field is refused. The text of
    three octets is that of one octet in hexadecimal, and one octet is read. -/
theorem readBytes_base64_iff_marked :
    readBytes "hash" (.text "0x0HBwcHBwcHBwcHBwcHBwcHBwcHBwcHBwcHBwcHBwc=") =
        .error (.badBytes "hash" (.hex 1)) ∧
      readBytes "hash" (.text "0xAB") = .ok [0xAB] ∧
      readBytes "hash" (.text "0xAB") ≠ .ok [0xD3, 0x10, 0x01] := by
  have hhash := (readBytes_base64_iff "hash" isTextOf_markedHash).2 (by decide)
  have hthree := readBytes_base64_iff "hash" isTextOf_threeOctets
  refine ⟨hhash.trans (by decide +kernel), (hthree.2 (by decide)).trans (by decide +kernel), ?_⟩
  exact mt hthree.1.1 (by decide)

/-- Not every base64 text is read back. -/
theorem not_readBytes_base64 :
    ¬∀ (field text : String) (bytes : Bytes), Base64.IsTextOf text bytes →
      readBytes field (.text text) = .ok bytes := by
  intro hall
  have hread := hall "hash" _ _ isTextOf_markedHash
  rw [readBytes, mapError_eq_ok_iff] at hread
  exact decodeText_ne_of_hasHexMark isTextOf_markedHash (by decide +kernel) hread

/-! ## Texts without the mark -/

theorem decodeText_of_unmarked {text : String} (h : hasHexMark text.toList = false) :
    decodeText text =
      (if '-' ∈ text.toList ∨ '_' ∈ text.toList then Base64.decodeLenient (Base64.padded text)
        else Base64.decodeStrict (Base64.padded text)).mapError .base64 := by
  rw [decodeText, if_neg (by simp [h])]
  by_cases hurl : '-' ∈ text.toList ∨ '_' ∈ text.toList
  · rw [if_pos (by simpa using hurl), if_pos hurl]
  · rw [if_neg (by simpa using hurl), if_neg hurl]

theorem isSign_iff_isSome_value? {c : Char} (hminus : c ≠ '-') (hline : c ≠ '_') :
    Base64.isSign c = true ↔ (Base64.value? c).isSome = true := by
  rw [← Base64.isSome_value?_ofUrl, Base64.ofUrl, if_neg hminus, if_neg hline]

theorem isAscii_patched {points : List Nat}
    (h : ∃ point ∈ points, Text.isCharacter point = false) :
    Base64.isAscii (Text.Raw.broken points).patched = false := by
  obtain ⟨point, hpoint, hbroken⟩ := h
  rw [Base64.isAscii, Text.Raw.patched, String.toList_ofList, List.all_eq_false]
  refine ⟨Text.patch point, List.mem_map_of_mem hpoint, ?_⟩
  rw [Text.patch, if_neg (by simp [hbroken])]
  decide

theorem decodeText_of_not_isAscii {text : String} (hmark : hasHexMark text.toList = false)
    (hascii : Base64.isAscii text = false) : decodeText text = .error (.base64 .notAscii) := by
  have hpadded : Base64.isAscii (Base64.padded text) = false := by
    rw [Base64.isAscii_padded, hascii]
  rw [decodeText_of_unmarked hmark, Base64.decodeLenient, Base64.decodeStrict, hpadded]
  simp [Except.mapError]

theorem exists_data_iff {text : String} (h : ¬('-' ∈ text.toList ∨ '_' ∈ text.toList)) :
    (∃ data pads, text.toList = data ++ List.replicate pads '=' ∧
        (∀ c ∈ data, (Base64.value? c).isSome = true) ∧ Base64.TakesPads data.length pads) ↔
      ∃ data pads, text.toList = data ++ List.replicate pads '=' ∧
        (∀ c ∈ data, Base64.isSign c = true) ∧ Base64.TakesPads data.length pads := by
  refine exists_congr fun data => exists_congr fun pads => and_congr_right fun hchars => ?_
  refine and_congr_left fun _ => forall₂_congr fun c hc => ?_
  -- without the two signs of its own a text of signs is one of the standard alphabet
  have hmem : c ∈ text.toList := hchars ▸ List.mem_append_left _ hc
  refine (isSign_iff_isSome_value? ?_ ?_).symm
  · rintro rfl
    exact h (.inl hmem)
  · rintro rfl
    exact h (.inr hmem)

/-- A text without the mark of hexadecimal text and without the two signs of the URL-safe
    alphabet is taken if it is signs with padding behind them that fits. With one of the
    two it is taken if it is ASCII and its signs make complete groups, or padding completes
    one; and the octets are told by the signs and the padding alone. Every other text is
    refused as bad base64, as is every text with something that is no character. -/
theorem readBytes_unmarked_iff (field : String) :
    (∀ text : String, hasHexMark text.toList = false →
      ((∃ bytes, readBytes field (.text text) = .ok bytes) ↔
        if '-' ∈ text.toList ∨ '_' ∈ text.toList then
          Base64.isAscii text = true ∧ (text.toList.countP Base64.isSign % 4 = 0 ∨
            Base64.Closes 0 (Base64.kept (Base64.padded text)))
        else
          ∃ data pads, text.toList = data ++ List.replicate pads '=' ∧
            (∀ c ∈ data, Base64.isSign c = true) ∧ Base64.TakesPads data.length pads) ∧
      ('-' ∈ text.toList ∨ '_' ∈ text.toList → Base64.isAscii text = true →
        ∀ bytes, readBytes field (.text text) = .ok bytes ↔
          Base64.decodeLenient (String.ofList (Base64.kept (Base64.padded text))) = .ok bytes) ∧
      ∀ error, readBytes field (.text text) = .error error →
        ∃ fault, error = .badBytes field (.base64 fault)) ∧
    ∀ points, (∃ point ∈ points, Text.isCharacter point = false) →
      hasHexMark (Text.Raw.broken points).patched.toList = false →
      readBytes field (.brokenText points) = .error (.badBytes field (.base64 .notAscii)) := by
  refine ⟨fun text hmark => ?_, fun points hbroken hmark => ?_⟩
  · simp only [readBytes, mapError_eq_ok_iff, decodeText_of_unmarked hmark]
    refine ⟨?_, fun hurl hascii bytes => ?_, fun error herror => ?_⟩
    · split
      · exact Base64.decodeLenient_padded_iff
      · next hurl => rw [Base64.decodeStrict_padded_iff, exists_data_iff hurl]
    · rw [if_pos hurl, Base64.decodeLenient_kept (by rw [Base64.isAscii_padded, hascii])]
    · obtain ⟨byteFault, hfault, rfl⟩ := mapError_eq_error_iff.1 herror
      obtain ⟨fault, -, rfl⟩ := mapError_eq_error_iff.1 hfault
      exact ⟨fault, rfl⟩
  · rw [readBytes, decodeText_of_not_isAscii hmark (isAscii_patched hbroken)]
    rfl

/-- A text that is read though its first characters are no signs. -/
theorem readBytes_unmarked_iff_marks :
    readBytes "address" (.text "!!not-base64!!") =
        .ok [0x9E, 0x8B, 0x7E, 0x6D, 0xAB, 0x1E, 0xEB] ∧
      ¬∃ bytes, readBytes "address" (.text "!!not base64!!") = .ok bytes := by
  have hread := ((readBytes_unmarked_iff "address").1 "!!not-base64!!" (by decide +kernel)).2.1
  have hblank := ((readBytes_unmarked_iff "address").1 "!!not base64!!" (by decide +kernel)).1
  refine ⟨(hread (by decide +kernel) (by decide +kernel) _).2 (by decide +kernel), ?_⟩
  rw [hblank, if_neg (by decide +kernel)]
  rintro ⟨data, pads, hchars, hdata, -⟩
  have hmark : '!' ∈ "!!not base64!!".toList := by decide +kernel
  exact absurd (Base64.isKept_of_mem hchars hdata hmark) (by decide)

/-- A text that is not signs with padding behind them may be taken. -/
theorem not_signs_of_readBytes :
    ¬∀ (field text : String) (bytes : Bytes), hasHexMark text.toList = false →
      readBytes field (.text text) = .ok bytes →
      ∃ data pads, text.toList = data ++ List.replicate pads '=' ∧
        ∀ c ∈ data, Base64.isSign c = true := by
  intro hall
  obtain ⟨data, pads, hchars, hdata⟩ := hall "address" "!!not-base64!!"
    [0x9E, 0x8B, 0x7E, 0x6D, 0xAB, 0x1E, 0xEB] (by decide +kernel) (by decide +kernel)
  have hmark : '!' ∈ "!!not-base64!!".toList := by decide +kernel
  exact absurd (Base64.isKept_of_mem hchars hdata hmark) (by decide)

end Block

end UtxoBalance
