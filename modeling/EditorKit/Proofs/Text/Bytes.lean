import EditorKit.Proofs.Text.Numeral
import Mathlib.Tactic.Common

/-!
# Bytes of a text

Bytes can be read as text exactly if they are those of a text in UTF-8, and then as this text
(`Bytes.decode_eq_some_iff`).

A text that is cut at bytes has to be cut between characters. Hexadecimal digits are characters of
one byte, so a row of them can be cut anywhere (`Text.sliceBytes?_of_single`), and it can be told
from its bytes that a text is such a row (`Text.all_isHexByte_encode`).
-/

namespace EditorKit

/-! ## Texts as bytes -/

theorem Bytes.decode_encode (t : Text) : Bytes.decode t.encode = some t := by
  show (t.utf8Encode.utf8Decode?).map Array.toList = some t
  rw [List.utf8Decode?_utf8Encode]
  rfl

theorem Bytes.encode_of_decode {bytes : Bytes} {t : Text} (h : bytes.decode = some t) :
    t.encode = bytes := by
  obtain ⟨chars, hchars, rfl⟩ := Option.map_eq_some_iff.1 h
  have hencode := ByteArray.utf8Encode_get_utf8Decode? (b := ⟨bytes.toArray⟩)
    (h := Option.isSome_of_mem hchars)
  rw [Option.get_of_eq_some _ hchars] at hencode
  show chars.toList.utf8Encode.data.toList = bytes
  rw [hencode]

theorem Bytes.decode_eq_some_iff {bytes : Bytes} {t : Text} :
    bytes.decode = some t ↔ bytes = t.encode := by
  constructor
  · intro h
    exact (encode_of_decode h).symm
  · rintro rfl
    exact decode_encode t

namespace Text

/-! ## Hexadecimal digits -/

/-- A hexadecimal digit, in either case, and its value. -/
def IsHexDigit (c : Char) (value : Nat) : Prop :=
  "0123456789abcdef".toList[value]? = some c ∨ "0123456789ABCDEF".toList[value]? = some c

instance (c : Char) (value : Nat) : Decidable (IsHexDigit c value) :=
  inferInstanceAs (Decidable (_ ∨ _))

theorem IsHexDigit.lt {c : Char} {value : Nat} (h : IsHexDigit c value) : value < 16 := by
  rcases h with h | h
  · exact (List.getElem?_eq_some_iff.1 h).1
  · exact (List.getElem?_eq_some_iff.1 h).1

theorem toNat_lt_of_hexDigitValue {c : Char} (h : (hexDigitValue c).isSome) : c.toNat < 128 := by
  by_contra hge
  have hbeyond : ∀ d : Char, d.toNat < 128 → ¬ c ≤ d := by
    intro d hd hle
    have hval : c.toNat ≤ d.toNat := hle
    omega
  have hnine := hbeyond '9' (by decide)
  have hsmall := hbeyond 'f' (by decide)
  have hlarge := hbeyond 'F' (by decide)
  simp [hexDigitValue, hnine, hsmall, hlarge] at h

/-- The reader of digits knows the hexadecimal digits and no other character. -/
theorem hexDigitValue_eq_some_iff {c : Char} {value : Nat} :
    hexDigitValue c = some value ↔ IsHexDigit c value := by
  constructor
  · intro h
    have hall : ∀ n : Fin 128, ∀ v ∈ hexDigitValue (Char.ofNat n), IsHexDigit (Char.ofNat n) v := by
      decide +kernel
    have hlt := toNat_lt_of_hexDigitValue (Option.isSome_of_mem h)
    have hc := hall ⟨c.toNat, hlt⟩ value
    rw [Char.ofNat_toNat] at hc
    exact hc h
  · intro h
    have hall : ∀ row ∈ "0123456789abcdef".toList.zipIdx ++ "0123456789ABCDEF".toList.zipIdx,
        hexDigitValue row.1 = some row.2 := by
      decide +kernel
    exact hall (c, value) (List.mem_append.2
      (h.imp List.mem_zipIdx_iff_getElem?.2 List.mem_zipIdx_iff_getElem?.2))

/-- A row of hexadecimal digits has no sign in front. -/
theorem dropPlus_of_isHexDigit {t : Text} (h : ∀ c ∈ t, (hexDigitValue c).isSome) :
    dropPlus t = t :=
  dropPlus_of_not_mem fun hplus => absurd (h '+' hplus) (by decide)

theorem readHexByte_single {c : Char} {v : Nat} (h : hexDigitValue c = some v) :
    readHexByte [c] = some (UInt8.ofNat v) := by
  have hlt := (hexDigitValue_eq_some_iff.1 h).lt
  rw [readHexByte, dropPlus_of_isHexDigit (by simp [h])]
  simp [readDigits, addDigit, h]
  omega

theorem readHexByte_pair {a b : Char} {v w : Nat} (ha : hexDigitValue a = some v)
    (hb : hexDigitValue b = some w) : readHexByte [a, b] = some (UInt8.ofNat (16 * v + w)) := by
  have hv := (hexDigitValue_eq_some_iff.1 ha).lt
  have hw := (hexDigitValue_eq_some_iff.1 hb).lt
  rw [readHexByte, dropPlus_of_isHexDigit (by simp [ha, hb])]
  simp [readDigits, addDigit, ha, hb]
  omega

/-! ## Bytes -/

/-- Whether a byte is a hexadecimal digit of ASCII. -/
def isHexByte (b : UInt8) : Bool :=
  (48 ≤ b && b ≤ 57) || (65 ≤ b && b ≤ 70) || (97 ≤ b && b ≤ 102)

theorem encode_eq (t : Text) : t.encode = t.flatMap String.utf8EncodeChar := by
  show (t.flatMap String.utf8EncodeChar).toByteArray.data.toList = _
  rw [List.data_toByteArray]

/-- A character of several bytes ends in a byte that continues it, which is no digit. -/
theorem not_all_isHexByte {c : Char} (h : 128 ≤ c.toNat) :
    ¬ (String.utf8EncodeChar c).all isHexByte := by
  have hlast : ∀ n : Nat, isHexByte (UInt8.ofNat (n % 64 + 128)) = false := by
    intro n
    have hall : ∀ k : Fin 64, isHexByte (UInt8.ofNat (k + 128)) = false := by decide +kernel
    exact hall ⟨n % 64, Nat.mod_lt n (by decide)⟩
  have hmem : UInt8.ofNat (c.toNat % 64 + 128) ∈ String.utf8EncodeChar c := by
    have hge : ¬ c.val.toNat ≤ 127 := Nat.not_le.2 h
    unfold String.utf8EncodeChar
    dsimp only
    rw [if_neg hge]
    split
    · simp
    · split <;> simp
  intro hall
  have hdigit := List.all_eq_true.1 hall _ hmem
  rw [hlast] at hdigit
  exact Bool.false_ne_true hdigit

theorem utf8Size_eq_one {c : Char} (h : c.toNat < 128) : c.utf8Size = 1 := by
  rw [Char.utf8Size_eq_one_iff, UInt32.le_iff_toNat_le]
  exact Nat.le_of_lt_succ h

theorem all_isHexByte_iff {c : Char} :
    (String.utf8EncodeChar c).all isHexByte ↔ (hexDigitValue c).isSome := by
  by_cases hc : c.toNat < 128
  · have hall : ∀ n : Fin 128,
        isHexByte (Char.ofNat n).toUInt8 = (hexDigitValue (Char.ofNat n)).isSome := by
      decide +kernel
    have hbyte := hall ⟨c.toNat, hc⟩
    rw [Char.ofNat_toNat] at hbyte
    rw [String.utf8EncodeChar_eq_singleton (utf8Size_eq_one hc), List.all_cons, List.all_nil,
      Bool.and_true, ← hbyte]
    rfl
  · constructor
    · intro h
      exact absurd h (not_all_isHexByte (by omega))
    · intro h
      exact absurd (toNat_lt_of_hexDigitValue h) hc

/-- All bytes of a text are hexadecimal digits exactly if all its characters are. -/
theorem all_isHexByte_encode (t : Text) :
    t.encode.all isHexByte ↔ ∀ c ∈ t, (hexDigitValue c).isSome := by
  rw [encode_eq, List.all_flatMap, List.all_eq_true]
  exact forall_congr' fun c => forall_congr' fun _ => all_isHexByte_iff

/-! ## Slices -/

/-- The part of a text from one byte up to another, unless the text ends before or one of them is
inside a character. -/
def sliceBytes? (t : Text) (first stop : Nat) : Option Text :=
  if first ≤ stop then (t.dropBytes first).bind (takeBytes (stop - first)) else none

section Single

variable {t : Text} (h : ∀ c ∈ t, c.utf8Size = 1)
include h

theorem byteSize_of_single : t.byteSize = t.length := by
  induction t with
  | nil => rfl
  | cons c t ih =>
    obtain ⟨hc, ht⟩ := List.forall_mem_cons.1 h
    rw [byteSize, hc, ih ht, List.length_cons, Nat.add_comm]

theorem dropBytes_of_single {n : Nat} (hn : n ≤ t.length) : t.dropBytes n = some (t.drop n) := by
  induction t generalizing n with
  | nil =>
    obtain rfl : n = 0 := Nat.le_zero.1 hn
    rfl
  | cons c t ih =>
    obtain ⟨hc, ht⟩ := List.forall_mem_cons.1 h
    cases n with
    | zero => rfl
    | succ n =>
      rw [dropBytes, if_neg (Nat.succ_ne_zero n), hc, if_neg (by omega), Nat.add_sub_cancel,
        ih ht (Nat.le_of_succ_le_succ hn), List.drop_succ_cons]

theorem takeBytes_of_single {n : Nat} (hn : n ≤ t.length) : t.takeBytes n = some (t.take n) := by
  induction t generalizing n with
  | nil =>
    obtain rfl : n = 0 := Nat.le_zero.1 hn
    rfl
  | cons c t ih =>
    obtain ⟨hc, ht⟩ := List.forall_mem_cons.1 h
    cases n with
    | zero => rfl
    | succ n =>
      rw [takeBytes, if_neg (Nat.succ_ne_zero n), hc, if_neg (by omega), Nat.add_sub_cancel,
        ih ht (Nat.le_of_succ_le_succ hn), List.take_succ_cons]
      rfl

/-- Characters of one byte can be cut anywhere. -/
theorem sliceBytes?_of_single {first stop : Nat} (hle : first ≤ stop) (hstop : stop ≤ t.length) :
    t.sliceBytes? first stop = some (t.extract first stop) := by
  have hrest : ∀ c ∈ t.drop first, c.utf8Size = 1 := fun c hc => h c (List.mem_of_mem_drop hc)
  have hlength : stop - first ≤ (t.drop first).length := by
    rw [List.length_drop]
    omega
  rw [sliceBytes?, if_pos hle, dropBytes_of_single h (by omega), Option.bind_some,
    takeBytes_of_single hrest hlength, List.extract_eq_take_drop]

end Single

end Text
end EditorKit
