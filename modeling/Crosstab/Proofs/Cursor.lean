import Crosstab.Cursor
import Crosstab.Proofs.Json.Ascii

/-!
# Cursors are read back

A cursor spells its record: what is written is read again, as long as JSON text tells the record.
-/

namespace Crosstab.Cursor

open Text

/-- The digits of a cursor. -/
theorem toList_encode (payload : Value) :
    (encode payload).toList = Base64.encode (Json.compact payload).toUTF8.toList := by
  rw [encode, String.toList_ofList]

/-- There is a digit at least. -/
theorem isEmpty_encode {payload : Value} (h : Json.IsTold payload) :
    (encode payload).isEmpty = false := by
  have hdigits : ∀ bytes, bytes ≠ [] → Base64.encode bytes ≠ [] := by
    intro bytes hne
    cases bytes using Base64.encode.induct with
    | case1 => exact absurd rfl hne
    | case2 | case3 | case4 => exact List.cons_ne_nil _ _
  have hbytes : (Json.compact payload).toUTF8.toList ≠ [] := by
    obtain ⟨c, cs, hstart, -⟩ := (Json.readsBack payload h).starts
    have hc := Json.isAscii_compact payload h c (hstart ▸ List.mem_cons_self)
    rw [Utf8.toList_toUTF8, hstart, List.flatMap_cons, Utf8.utf8EncodeChar_ascii hc]
    exact List.cons_ne_nil _ _
  refine Bool.eq_false_iff.2 fun hempty => hdigits _ hbytes ?_
  rw [← toList_encode, String.isEmpty_iff.1 hempty]
  rfl

/-- A cursor has no blanks, so trimming gives it back from between blanks. -/
theorem trim_encode (payload : Value) {before after : String} (hbefore : isBlank before = true)
    (hafter : isBlank after = true) :
    trim (before ++ encode payload ++ after) = encode payload := by
  have hsafe : ∀ c ∈ (encode payload).toList, isBlankChar c = false := by
    rw [toList_encode]
    exact fun c hc => (Base64.encode_safe _ c hc).2.2
  rw [isBlank, List.all_eq_true] at hbefore hafter
  rw [trim, String.toList_append, String.toList_append,
    Number.dropAround_append hbefore hsafe hafter, String.ofList_toList]

/-- The value that a cursor spells is the one it was written from. -/
theorem read_encode {payload : Value} (h : Json.IsTold payload) :
    read (encode payload) = .ok payload := by
  have htoken : encode payload ++ padding (encode payload).length =
      String.ofList (Base64.encode (Json.compact payload).toUTF8.toList ++
        List.replicate (Base64.missing (Base64.encode
          (Json.compact payload).toUTF8.toList).length) '=') := by
    rw [← String.toList_inj, String.toList_append, ← String.length_toList, toList_encode,
      String.toList_ofList, padding, String.toList_ofList]
    rfl
  have hascii := Json.isAscii_compact payload h
  rw [read, htoken, Base64.decode_encode]
  simp only [Except.mapError, bind, Except.bind, Utf8.decode_toUTF8 hascii, Json.read_compact h]

/-- Between blanks, a cursor gives back the members of its record. -/
theorem decode_between {members : List (String × Value)} (h : Json.IsTold (.record members))
    (hv : (valueOf? "v" members).isSome = true) {before after : String}
    (hbefore : isBlank before = true) (hafter : isBlank after = true) :
    decode (.text (before ++ encode (.record members) ++ after)) = .ok (some members) := by
  have htoken : trim (Value.display (.text (before ++ encode (.record members) ++ after))) =
      encode (.record members) := trim_encode _ hbefore hafter
  have hnull : (Value.text (before ++ encode (.record members) ++ after) == .null) = false := rfl
  simp only [decode, hnull, Bool.false_eq_true, if_false, htoken, isEmpty_encode h, read_encode h,
    hv, if_true]

/-- A cursor gives back the members of its record. -/
theorem decode_encode {members : List (String × Value)} (h : Json.IsTold (.record members))
    (hv : (valueOf? "v" members).isSome = true) :
    decode (.text (encode (.record members))) = .ok (some members) := by
  have hblank : isBlank "" = true := rfl
  have hbetween := decode_between h hv hblank hblank
  rwa [String.empty_append, String.append_empty] at hbetween

/-- The cursor of a record with a value is a text of letters, digits, `-` and `_`, at least one of
them and no padding among them, and it gives back exactly the members of the record, also with
blanks around it. A record of any depth will do whose texts are of Unicode characters: none of them
stands in for half of a pair. -/
theorem cursors_come_back {members : List (String × Value)} (h : Json.IsTold (.record members))
    (hv : (valueOf? "v" members).isSome = true) :
    encode (.record members) ≠ "" ∧
    (∀ c ∈ (encode (.record members)).toList, c.isAlphanum = true ∨ c = '-' ∨ c = '_') ∧
    ∀ before after : String, isBlank before = true → isBlank after = true →
      decode (.text (before ++ encode (.record members) ++ after)) = .ok (some members) := by
  refine ⟨?_, ?_, ?_⟩
  · intro hempty
    have hsome := isEmpty_encode h
    rw [hempty] at hsome
    exact Bool.noConfusion hsome
  · rw [toList_encode]
    exact Base64.forall_mem_encode (fun _ => Base64.digitChar_alphabet) _
  · intro before after hbefore hafter
    exact decode_between h hv hbefore hafter

/-- A record of all kinds of values: nested, with a negative number, a control character, a
character outside of the first plane and two records in a list. -/
def sample : List (String × Value) :=
  [("v", .list [.null, .bool true, .int (-42), .record [("", .text "\x00\n\"\\")], .record []]),
    ("größe", .text "😀é"), ("o", .list [])]

theorem sample_comes_back : Json.IsTold (.record sample) ∧
    decode (.text (" \t" ++ encode (.record sample) ++ "\n")) = .ok (some sample) := by
  have hwritable : Number.isWritable (-42) = true := by decide +kernel
  have htold : Json.IsTold (.record sample) := by
    simp only [sample, Json.IsTold, Json.AreTold, Json.MembersTold, hwritable]
    decide
  exact ⟨htold, (cursors_come_back htold rfl).2.2 _ _ rfl rfl⟩

end Crosstab.Cursor
