import Crosstab.Text.Base64
import Crosstab.Text.Blank
import Crosstab.Text.Utf8
import Mathlib.Data.List.Basic

/-!
# Bytes and the texts that carry them

What is written in base 64 is read again once its padding is put back, and an ASCII text is read
again from its bytes. The digits are safe in an address: none is blank and all are ASCII.
-/

namespace Crosstab.Text

namespace Base64

/-! ## Digits -/

/-- What a reader and a client need to know of a digit. -/
def IsSafe (c : Char) : Prop :=
  c.toNat < 128 ∧ c ≠ '=' ∧ isBlankChar c = false

instance (c : Char) : Decidable (IsSafe c) :=
  inferInstanceAs (Decidable (_ ∧ _ ∧ _))

theorem digitValue?_digitChar {n : Nat} (h : n < 64) : digitValue? (digitChar n) = some n := by
  have hall : ∀ m ∈ List.range 64, digitValue? (digitChar m) = some m := by decide
  exact hall n (List.mem_range.2 h)

theorem isSafe_digitChar {n : Nat} (h : n < 64) : IsSafe (digitChar n) := by
  have hall : ∀ m ∈ List.range 64, IsSafe (digitChar m) := by decide
  exact hall n (List.mem_range.2 h)

/-- The digits are the letters and the digits of ASCII, the hyphen and the underscore. -/
theorem digitChar_alphabet {n : Nat} (h : n < 64) :
    (digitChar n).isAlphanum = true ∨ digitChar n = '-' ∨ digitChar n = '_' := by
  have hall : ∀ m ∈ List.range 64,
      (digitChar m).isAlphanum = true ∨ digitChar m = '-' ∨ digitChar m = '_' := by decide
  exact hall n (List.mem_range.2 h)

theorem decodeFrom_digitChar {n : Nat} (h : n < 64) (groups pads : Nat) (open_ : List Nat)
    (rest : List Char) : decodeFrom groups open_ pads (digitChar n :: rest) =
      if open_.length == 3 then
        (decodeFrom (groups + 1) [] 0 rest).map (groupBytes (open_ ++ [n]) ++ ·)
      else decodeFrom groups (open_ ++ [n]) 0 rest := by
  have hpad : (digitChar n == '=') = false := beq_eq_false_iff_ne.2 (isSafe_digitChar h).2.1
  rw [decodeFrom, hpad, digitValue?_digitChar h]
  rfl

/-- One of the first three digits leaves the group open. -/
theorem decodeFrom_open {n : Nat} (h : n < 64) {open_ : List Nat} (hopen : open_.length < 3)
    (groups pads : Nat) (rest : List Char) :
    decodeFrom groups open_ pads (digitChar n :: rest) =
      decodeFrom groups (open_ ++ [n]) 0 rest := by
  have hlength : ¬(open_.length == 3) = true := fun h3 => by
    rw [beq_iff_eq] at h3
    omega
  rw [decodeFrom_digitChar h, if_neg hlength]

/-- Four digits are a whole group. -/
theorem decodeFrom_quad {a b c d : Nat} (ha : a < 64) (hb : b < 64) (hc : c < 64) (hd : d < 64)
    (groups : Nat) (rest : List Char) :
    decodeFrom groups [] 0 (digitChar a :: digitChar b :: digitChar c :: digitChar d :: rest) =
      (decodeFrom (groups + 1) [] 0 rest).map (groupBytes [a, b, c, d] ++ ·) := by
  rw [decodeFrom_open ha (by decide), decodeFrom_open hb (by simp), decodeFrom_open hc (by simp),
    decodeFrom_digitChar hd]
  rfl

/-- Three digits are a group with one padding mark. -/
theorem decodeFrom_triple {a b c : Nat} (ha : a < 64) (hb : b < 64) (hc : c < 64)
    (groups : Nat) :
    decodeFrom groups [] 0 [digitChar a, digitChar b, digitChar c, '='] =
      .ok (groupBytes [a, b, c]) := by
  rw [decodeFrom_open ha (by decide), decodeFrom_open hb (by simp), decodeFrom_open hc (by simp)]
  rfl

/-- Two digits are a group with two padding marks. -/
theorem decodeFrom_pair {a b : Nat} (ha : a < 64) (hb : b < 64) (groups : Nat) :
    decodeFrom groups [] 0 [digitChar a, digitChar b, '=', '='] = .ok (groupBytes [a, b]) := by
  rw [decodeFrom_open ha (by decide), decodeFrom_open hb (by simp)]
  rfl

/-! ## Groups -/

/-- The number of padding marks that bring so many digits to whole groups. -/
def missing (length : Nat) : Nat := (4 - length % 4) % 4

/-- A byte is known from the number that its bits make up. -/
theorem toUInt8_of_eq {n : Nat} {b : UInt8} (h : n = b.toNat) : n.toUInt8 = b := by
  rw [h]
  exact UInt8.ofNat_toNat

/-- Three bytes are known from the bits of four digits. -/
theorem groupBytes_quad (a b c : UInt8) :
    groupBytes [a.toNat / 4, a.toNat % 4 * 16 + b.toNat / 16, b.toNat % 16 * 4 + c.toNat / 64,
      c.toNat % 64] = [a, b, c] := by
  have hb : b.toNat < 256 := b.toNat_lt
  have hc : c.toNat < 256 := c.toNat_lt
  rw [groupBytes, toUInt8_of_eq (b := a) (by omega), toUInt8_of_eq (b := b) (by omega),
    toUInt8_of_eq (b := c) (by omega)]

/-- Two bytes are known from the bits of three digits. -/
theorem groupBytes_triple (a b : UInt8) :
    groupBytes [a.toNat / 4, a.toNat % 4 * 16 + b.toNat / 16, b.toNat % 16 * 4] = [a, b] := by
  have hb : b.toNat < 256 := b.toNat_lt
  rw [groupBytes, toUInt8_of_eq (b := a) (by omega), toUInt8_of_eq (b := b) (by omega)]

theorem groupBytes_pair (a : UInt8) : groupBytes [a.toNat / 4, a.toNat % 4 * 16] = [a] := by
  rw [groupBytes, toUInt8_of_eq (b := a) (by omega)]

/-! ## Whole texts -/

/-- What holds of every digit holds of all characters of a text. -/
theorem forall_mem_encode {P : Char → Prop} (h : ∀ n, n < 64 → P (digitChar n))
    (bytes : List UInt8) : ∀ c ∈ encode bytes, P c := by
  induction bytes using encode.induct with
  | case1 => exact nofun
  | case2 a =>
    have ha : a.toNat < 256 := a.toNat_lt
    simp only [encode, List.forall_mem_cons]
    exact ⟨h _ (by omega), h _ (by omega), nofun⟩
  | case3 a b =>
    have ha : a.toNat < 256 := a.toNat_lt
    have hb : b.toNat < 256 := b.toNat_lt
    simp only [encode, List.forall_mem_cons]
    exact ⟨h _ (by omega), h _ (by omega), h _ (by omega), nofun⟩
  | case4 a b c rest ih =>
    have ha : a.toNat < 256 := a.toNat_lt
    have hb : b.toNat < 256 := b.toNat_lt
    have hc : c.toNat < 256 := c.toNat_lt
    simp only [encode, List.forall_mem_cons]
    exact ⟨h _ (by omega), h _ (by omega), h _ (by omega), h _ (by omega), ih⟩

theorem encode_safe (bytes : List UInt8) : ∀ c ∈ encode bytes, IsSafe c :=
  forall_mem_encode (fun _ => isSafe_digitChar) bytes

theorem decodeFrom_encode (bytes : List UInt8) (groups : Nat) :
    decodeFrom groups [] 0
      (encode bytes ++ List.replicate (missing (encode bytes).length) '=') = .ok bytes := by
  induction bytes using encode.induct generalizing groups with
  | case1 => rfl
  | case2 a =>
    have ha : a.toNat < 256 := a.toNat_lt
    have hdigits := decodeFrom_pair (a := a.toNat / 4) (b := a.toNat % 4 * 16) (by omega)
      (by omega) groups
    rwa [groupBytes_pair] at hdigits
  | case3 a b =>
    have ha : a.toNat < 256 := a.toNat_lt
    have hb : b.toNat < 256 := b.toNat_lt
    have hdigits := decodeFrom_triple (a := a.toNat / 4)
      (b := a.toNat % 4 * 16 + b.toNat / 16) (c := b.toNat % 16 * 4) (by omega) (by omega)
      (by omega) groups
    rwa [groupBytes_triple] at hdigits
  | case4 a b c rest ih =>
    have ha : a.toNat < 256 := a.toNat_lt
    have hb : b.toNat < 256 := b.toNat_lt
    have hc : c.toNat < 256 := c.toNat_lt
    have hmissing : missing ((encode rest).length + 1 + 1 + 1 + 1) =
        missing (encode rest).length := by
      unfold missing
      omega
    simp only [encode, List.cons_append, List.length_cons, hmissing]
    rw [decodeFrom_quad (by omega) (by omega) (by omega) (by omega), ih, groupBytes_quad]
    rfl

/-- Bytes are read again from their digits and the padding. -/
theorem decode_encode (bytes : List UInt8) :
    decode (String.ofList
      (encode bytes ++ List.replicate (missing (encode bytes).length) '=')) = .ok bytes := by
  have hascii : (encode bytes ++ List.replicate (missing (encode bytes).length) '=').all
      (·.toNat < 128) = true := by
    rw [List.all_eq_true]
    intro c hc
    rcases List.mem_append.1 hc with hc | hc
    · exact decide_eq_true (encode_safe bytes c hc).1
    · rw [(List.mem_replicate.1 hc).2]
      rfl
  rw [decode, String.toList_ofList, if_pos hascii]
  exact decodeFrom_encode bytes 0

end Base64

/-! ## ASCII texts -/

/-- All characters are ASCII. -/
def IsAscii (cs : List Char) : Prop :=
  ∀ c ∈ cs, c.toNat < 128

namespace Utf8

/-- Bytes are listed from a place on behind those that were collected before. -/
theorem toList_loop (bytes : ByteArray) (i : Nat) (seen : List UInt8) :
    ByteArray.toList.loop bytes i seen = seen.reverse ++ bytes.data.toList.drop i := by
  fun_induction ByteArray.toList.loop bytes i seen with
  | case1 i seen h ih =>
    have hi : i < bytes.data.toList.length := h
    have hget : bytes.get! i = bytes.data.toList[i] := by
      rw [Array.getElem_toList]
      exact getElem!_pos bytes.data i h
    rw [ih, List.drop_eq_getElem_cons hi, hget]
    simp
  | case2 i seen h =>
    have hi : bytes.data.toList.length ≤ i := Nat.le_of_not_lt h
    rw [List.drop_eq_nil_of_le hi, List.append_nil]

/-- The bytes of a text, character by character. -/
theorem toList_toUTF8 (s : String) : s.toUTF8.toList = s.toList.flatMap String.utf8EncodeChar := by
  have hlist : ∀ bytes : ByteArray, bytes.toList = bytes.data.toList := fun bytes => by
    rw [ByteArray.toList, toList_loop]
    rfl
  have hbytes : s.toUTF8 = (s.toList.flatMap String.utf8EncodeChar).toByteArray := by
    conv_lhs => rw [← String.ofList_toList (s := s)]
    exact String.toUTF8_eq_toByteArray
  rw [hlist, hbytes, List.toList_data_toByteArray]

/-- An ASCII character is one byte, its own number. -/
theorem utf8EncodeChar_ascii {c : Char} (h : c.toNat < 128) :
    String.utf8EncodeChar c = [c.toNat.toUInt8] := by
  have hsize : c.utf8Size = 1 := by
    rw [Char.utf8Size_eq_one_iff, UInt32.le_iff_toNat_le]
    show c.toNat ≤ 127
    omega
  rw [String.utf8EncodeChar_eq_singleton hsize]
  rfl

theorem decodeFrom_ascii {cs : List Char} (h : IsAscii cs) (position : Nat) :
    decodeFrom position (cs.flatMap String.utf8EncodeChar) = .ok cs := by
  induction cs generalizing position with
  | nil => rw [List.flatMap_nil, decodeFrom]
  | cons c cs ih =>
    obtain ⟨hc, hcs⟩ := List.forall_mem_cons.1 h
    have hbyte : c.toNat.toUInt8.toNat = c.toNat := by
      rw [Nat.toUInt8, UInt8.toNat_ofNat']
      omega
    have hranges : tailRanges? c.toNat.toUInt8 = some (c.toNat, []) := by
      rw [tailRanges?, hbyte, if_pos hc]
    rw [List.flatMap_cons, utf8EncodeChar_ascii hc, List.singleton_append, decodeFrom]
    simp only [hranges, readTail, List.length_nil, List.drop_zero]
    rw [ih hcs, Char.ofNat_toNat]

/-- An ASCII text is read again from its bytes. -/
theorem decode_toUTF8 {s : String} (h : IsAscii s.toList) : decode s.toUTF8.toList = .ok s := by
  rw [toList_toUTF8, decode, decodeFrom_ascii h, Except.map, String.ofList_toList]

end Utf8

end Crosstab.Text
