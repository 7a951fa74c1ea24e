import Crosstab.Proofs.Json.RoundTrip
import Crosstab.Proofs.Text.Bytes

/-!
# JSON text is ASCII

Whatever is not printable ASCII stands in a string as an escape, so the bytes of a JSON text are its
characters.
-/

namespace Crosstab.Json

open Number Text

/-! ## Parts -/

theorem isAscii_append {cs ds : List Char} (hc : IsAscii cs) (hd : IsAscii ds) :
    IsAscii (cs ++ ds) :=
  List.forall_mem_append.2 ⟨hc, hd⟩

theorem isAscii_cons {c : Char} {cs : List Char} (hc : c.toNat < 128) (hcs : IsAscii cs) :
    IsAscii (c :: cs) :=
  List.forall_mem_cons.2 ⟨hc, hcs⟩

theorem isAscii_nil : IsAscii [] := nofun

/-- Whether a text is ASCII is seen from its characters. -/
theorem isAscii_of_all {cs : List Char} (h : cs.all (fun c => decide (c.toNat < 128)) = true) :
    IsAscii cs :=
  fun c hc => of_decide_eq_true (List.all_eq_true.1 h c hc)

theorem isAscii_hexDigits {n : Nat} (h : n < 0x10000) : IsAscii (hexDigits 4 n) := by
  have hdigit : ∀ m ∈ List.range 16, (Nat.digitChar m).toNat < 128 := by decide
  have hone : ∀ m, m < 16 → IsAscii [Nat.digitChar m] := fun m hm =>
    isAscii_cons (hdigit m (List.mem_range.2 hm)) isAscii_nil
  rw [hexDigits_succ, hexDigits_succ, hexDigits_succ, hexDigits_one (by omega)]
  exact isAscii_append (isAscii_append (isAscii_append (hone _ (by omega)) (hone _ (by omega)))
    (hone _ (by omega))) (hone _ (by omega))

theorem isAscii_escapedChar (c : Char) : IsAscii (escapedChar c) := by
  have hescape : ∀ ds, IsAscii ds → IsAscii ('\\' :: 'u' :: ds) := fun ds h =>
    isAscii_cons (by decide) (isAscii_cons (by decide) h)
  unfold escapedChar
  split_ifs with hquote _ _ _ _ _ hplain
  · rcases Bool.or_eq_true_iff.1 hquote with h | h
    · exact eq_of_beq h ▸ (isAscii_of_all (by decide) : IsAscii ['\\', '"'])
    · exact eq_of_beq h ▸ (isAscii_of_all (by decide) : IsAscii ['\\', '\\'])
  · exact isAscii_of_all (by decide)
  · exact isAscii_of_all (by decide)
  · exact isAscii_of_all (by decide)
  · exact isAscii_of_all (by decide)
  · exact isAscii_of_all (by decide)
  · simp only [Bool.and_eq_true, decide_eq_true_eq] at hplain
    exact isAscii_cons (by omega) isAscii_nil
  · by_cases hunit : Surrogate.code c < 0x10000
    · rw [codeEscapes_unit hunit]
      exact hescape _ (isAscii_hexDigits hunit)
    · have hhigh := isHigh_iff.1 (isHigh_highHalf hunit)
      have hlow := isLow_iff.1 (isLow_lowHalf c)
      rw [codeEscapes_pair hunit]
      exact hescape _ (isAscii_append (isAscii_hexDigits (by omega))
        (hescape _ (isAscii_hexDigits (by omega))))

theorem isAscii_spelled (cs : List Char) : IsAscii (spelled cs) := fun c hc => by
  obtain ⟨d, -, hd⟩ := List.mem_flatMap.1 hc
  exact isAscii_escapedChar d c hd

theorem isAscii_stringText (s : String) : IsAscii (stringText s).toList := by
  rw [toList_stringText]
  exact isAscii_cons (by decide)
    (isAscii_append (isAscii_spelled _) (isAscii_cons (by decide) isAscii_nil))

theorem isAscii_intText (n : Int) : IsAscii (intText n).toList := by
  have hdigits : ∀ k, IsAscii (Nat.toDigits 10 k) := fun k c hc => by
    have := toNat_of_isDigit (allDigits_toDigits k c hc)
    omega
  cases n with
  | ofNat n => exact toList_intText_ofNat n ▸ hdigits n
  | negSucc n => exact toList_intText_negSucc n ▸ isAscii_cons (by decide) (hdigits (n + 1))

/-! ## Values -/

mutual

/-- The text of a value that is told is ASCII. -/
theorem isAscii_compact : ∀ v : Value, IsTold v → IsAscii (compact v).toList
  | .null, _ => isAscii_of_all (by decide)
  | .bool true, _ => isAscii_of_all (by decide)
  | .bool false, _ => isAscii_of_all (by decide)
  | .int n, _ => isAscii_intText n
  | .text s, _ => isAscii_stringText s
  | .list items, h => by
    rw [toList_compact_list]
    exact isAscii_cons (by decide) (isAscii_append (isAscii_itemsText items h)
      (isAscii_cons (by decide) isAscii_nil))
  | .record members, h => by
    rw [toList_compact_record]
    exact isAscii_cons (by decide) (isAscii_append (isAscii_membersText members h.1)
      (isAscii_cons (by decide) isAscii_nil))

theorem isAscii_itemsText : ∀ items : List Value, AreTold items → IsAscii (itemsText items)
  | [], _ => isAscii_nil
  | [v], h => itemsText_singleton v ▸ isAscii_compact v h.1
  | v :: w :: rest, h => by
    rw [itemsText_cons_cons]
    exact isAscii_append (isAscii_compact v h.1)
      (isAscii_cons (by decide) (isAscii_itemsText (w :: rest) h.2))

theorem isAscii_membersText : ∀ members : List (String × Value), MembersTold members →
    IsAscii (membersText members)
  | [], _ => isAscii_nil
  | [(k, v)], h => by
    rw [membersText_singleton]
    exact isAscii_cons (by decide) (isAscii_append (isAscii_spelled _) (isAscii_cons (by decide)
      (isAscii_cons (by decide) (isAscii_compact v h.2.1))))
  | (k, v) :: m :: rest, h => by
    rw [membersText_cons_cons]
    exact isAscii_cons (by decide) (isAscii_append (isAscii_spelled _) (isAscii_cons (by decide)
      (isAscii_cons (by decide) (isAscii_append (isAscii_compact v h.2.1)
        (isAscii_cons (by decide) (isAscii_membersText (m :: rest) h.2.2))))))

end

end Crosstab.Json
