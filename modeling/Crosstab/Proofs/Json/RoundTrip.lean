import Crosstab.Proofs.Json.Strings
import Crosstab.Proofs.Numeral
import Crosstab.Proofs.Value

/-!
# JSON text is read back

A reader makes the same value of the compact text of a value. Each reader is taken as it stands in a
longer text: it gets as much fuel as the text is long, and stops where the text of the value ends.
-/

namespace Crosstab.Json

open Number Text

/-! ## What JSON text tells -/

mutual

/-- The value is told by its JSON text: it has no binary number in it, whole numbers have few
enough digits, texts and names no halves of a pair beside each other, and the names of a record are
different. Dates, moments and decimals become texts. -/
def IsTold : Value → Prop
  | .null | .bool _ => True
  | .int n => isWritable n = true
  | .text s => Unsplit s.toList
  | .list items => AreTold items
  | .record members => MembersTold members ∧ (members.map (·.1)).Nodup
  | .real _ | .decimal _ | .date _ | .moment _ => False

/-- All items of a list are told. -/
def AreTold : List Value → Prop
  | [] => True
  | v :: rest => IsTold v ∧ AreTold rest

/-- All members of a record are told, with their names. -/
def MembersTold : List (String × Value) → Prop
  | [] => True
  | (k, v) :: rest => Unsplit k.toList ∧ IsTold v ∧ MembersTold rest

end

/-! ## Between values -/

/-- What may stand behind a value in a compact text. -/
def Ends (rest : List Char) : Prop :=
  ∀ c ∈ rest.head?, c = ',' ∨ c = ']' ∨ c = '\x7d'

theorem ends_nil : Ends [] := nofun

theorem ends_cons {c : Char} (h : c = ',' ∨ c = ']' ∨ c = '\x7d') (rest : List Char) :
    Ends (c :: rest) := by
  rintro d ⟨⟩
  exact h

theorem skipSpace_cons {c : Char} (h : isSpace c = false) (position : Nat) (cs : List Char) :
    skipSpace position (c :: cs) = (position, c :: cs) := by
  rw [skipSpace, h]
  rfl

/-- The characters of a string with its quotes. -/
theorem toList_stringText (s : String) :
    (stringText s).toList = '"' :: (spelled s.toList ++ ['"']) := by
  rw [stringText, String.toList_ofList]
  rfl

theorem escapedChar_ne_nil (c : Char) : escapedChar c ≠ [] := by
  rcases escapedChar_cases c with ⟨e, -, -, hc⟩ | ⟨-, -, -, hc⟩ | hc
  · exact hc ▸ List.cons_ne_nil _ _
  · exact hc ▸ List.cons_ne_nil _ _
  · rw [hc]
    by_cases hunit : Surrogate.code c < 0x10000
    · exact codeEscapes_unit hunit ▸ List.cons_ne_nil _ _
    · exact codeEscapes_pair hunit ▸ List.cons_ne_nil _ _

theorem length_spelled (cs : List Char) : cs.length ≤ (spelled cs).length := by
  induction cs with
  | nil => exact Nat.le_refl 0
  | cons c cs ih =>
    have hc := List.length_pos_of_ne_nil (escapedChar_ne_nil c)
    rw [spelled_cons, List.length_append, List.length_cons]
    omega

/-- A string is read back after its opening quote. -/
theorem readString_spelled {s : String} (h : Unsplit s.toList) (fuel : Nat)
    (hfuel : s.toList.length ≤ fuel) (position : Nat) (rest : List Char) :
    ∃ next, readString fuel position (spelled s.toList ++ '"' :: rest) = .ok (s, next, rest) := by
  obtain ⟨next, hread⟩ := readChars_spelled h (fuel + 1) (Nat.lt_succ_of_le hfuel) (position - 1)
    position rest
  refine ⟨next, ?_⟩
  rw [readString, hread]
  show Except.ok (String.ofList s.toList, next, rest) = _
  rw [String.ofList_toList]

/-! ## Values without parts -/

/-- What starts as a number is none of the words. -/
theorem readScalar_number {c : Char} (hc : c.isDigit = true) {cs ds : List Char}
    (h : cs = c :: ds ∨ cs = '-' :: c :: ds) (position : Nat) :
    readScalar position cs = readNumber position cs := by
  have hne : ∀ d : Char, d.isDigit = false → (d == c) = false := fun d hd =>
    beq_eq_false_iff_ne.2 (ne_of_isDigit hc hd).symm
  have hnone : words.find? (fun w => w.1.toList.isPrefixOf cs) = none := by
    rcases h with rfl | rfl
    · simp [words, List.isPrefixOf, hne 'n' (by decide), hne 't' (by decide), hne 'f' (by decide),
        hne 'N' (by decide), hne 'I' (by decide), hne '-' (by decide)]
    · simp [words, List.isPrefixOf, hne 'I' (by decide)]
  rw [readScalar, hnone]

/-- Digits end where other characters begin. -/
theorem wholeDigits_toDigits (n : Nat) {rest : List Char} (hrest : Ends rest) :
    wholeDigits (Nat.toDigits 10 n ++ rest) = Nat.toDigits 10 n := by
  rcases Nat.eq_zero_or_pos n with rfl | hn
  · rfl
  · obtain ⟨d, ds, hd, -⟩ := toDigits_cons n
    have hzero : d ≠ '0' := fun h => head_toDigits hn ds (h ▸ hd)
    have hdigits : ∀ c ∈ d :: ds, isPlainDigit c = true := fun c hc =>
      isPlainDigit_eq c ▸ allDigits_toDigits n c (hd ▸ hc)
    have hstop : rest.takeWhile isPlainDigit = [] := by
      cases rest with
      | nil => rfl
      | cons c cs =>
        have hc : isPlainDigit c = false := by
          rcases hrest c rfl with rfl | rfl | rfl <;> rfl
        rw [List.takeWhile_cons, hc, if_neg Bool.false_ne_true]
    rw [hd, List.cons_append, wholeDigits.eq_2 _ fun cs h => hzero (List.cons.inj h).1,
      ← List.cons_append, List.takeWhile_append_of_pos hdigits, hstop, List.append_nil]

theorem fractionPart_of_ends {rest : List Char} (h : Ends rest) : fractionPart rest = [] := by
  cases rest with
  | nil => rfl
  | cons c cs => rcases h c rfl with rfl | rfl | rfl <;> rfl

theorem exponentPart_of_ends {rest : List Char} (h : Ends rest) : exponentPart rest = [] := by
  cases rest with
  | nil => rfl
  | cons c cs => rcases h c rfl with rfl | rfl | rfl <;> rfl

/-- The sign of a number is told from its digits. -/
theorem sign_intText (n : Int) (rest : List Char) :
    ((signOf n ++ Nat.toDigits 10 n.natAbs ++ rest).take 1).filter (· == '-') = signOf n := by
  cases n with
  | ofNat n =>
    obtain ⟨d, ds, hd, hdigit⟩ := toDigits_cons n
    have hminus : (d == '-') = false := beq_eq_false_iff_ne.2 (ne_of_isDigit hdigit (by decide))
    show (((Nat.toDigits 10 n) ++ rest).take 1).filter (· == '-') = []
    rw [hd, List.cons_append, List.take_succ_cons, List.take_zero, List.filter_cons, hminus]
    rfl
  | negSucc n => rfl

/-- A whole number is read back from its text. -/
theorem readNumber_intText {n : Int} (h : isWritable n = true) {rest : List Char}
    (hrest : Ends rest) (position : Nat) :
    ∃ next, readNumber position ((intText n).toList ++ rest) = .ok (.int n, next, rest) := by
  have htext : (intText n).toList ++ rest = signOf n ++ (Nat.toDigits 10 n.natAbs ++ rest) := by
    rw [toList_intText, List.append_assoc]
  have hsign := sign_intText n rest
  rw [List.append_assoc] at hsign
  have hnumeral : String.ofList (signOf n ++ Nat.toDigits 10 n.natAbs) = intText n := by
    rw [← toList_intText, String.ofList_toList]
  have hne : (Nat.toDigits 10 n.natAbs).isEmpty = false :=
    List.isEmpty_eq_false_iff.2 Nat.toDigits_ne_nil
  have hdrop : (signOf n ++ (Nat.toDigits 10 n.natAbs ++ rest)).drop
      (signOf n ++ Nat.toDigits 10 n.natAbs).length = rest := by
    rw [← List.append_assoc, List.drop_left]
  refine ⟨position + (signOf n ++ Nat.toDigits 10 n.natAbs).length, ?_⟩
  rw [htext, readNumber]
  simp only [hsign, List.drop_left, wholeDigits_toDigits _ hrest, hne, List.length_nil,
    Nat.add_zero, fractionPart_of_ends hrest, exponentPart_of_ends hrest, List.append_nil,
    hnumeral, readInt_intText h, hdrop, List.isEmpty_nil, Bool.and_self, Bool.false_eq_true,
    if_true, if_false]

/-- A word is read as its value. -/
theorem readScalar_word {w : String} {v : Value} {rest : List Char}
    (h : words.find? (fun x => x.1.toList.isPrefixOf (w.toList ++ rest)) = some (w, v))
    (position : Nat) :
    readScalar position (w.toList ++ rest) = .ok (v, position + w.length, rest) := by
  rw [readScalar, h]
  simp only
  rw [← String.length_toList, List.drop_left]

/-! ## Values -/

/-- The character is none that a reader passes over or takes for the end of a list. -/
def IsOpening (c : Char) : Prop :=
  isSpace c = false ∧ c ≠ ']' ∧ c ≠ '\ufeff'

instance (c : Char) : Decidable (IsOpening c) :=
  inferInstanceAs (Decidable (_ ∧ _ ∧ _))

/-- The value is read back from its compact text. -/
structure ReadsBack (v : Value) : Prop where
  starts : ∃ c cs, (compact v).toList = c :: cs ∧ IsOpening c
  reads : ∀ fuel : Nat, (compact v).toList.length ≤ fuel → ∀ (position : Nat) {rest : List Char},
    Ends rest →
    ∃ next, readValue fuel position ((compact v).toList ++ rest) = .ok (v, next, rest)

/-- A digit opens a number. -/
theorem isOpening_of_isDigit {c : Char} (h : c.isDigit = true) : IsOpening c := by
  have hne : ∀ d : Char, d.isDigit = false → c ≠ d := fun _ => ne_of_isDigit h
  refine ⟨?_, hne _ (by decide), hne _ (by decide)⟩
  simp [isSpace, hne ' ' (by decide), hne '\t' (by decide), hne '\n' (by decide),
    hne '\r' (by decide)]

theorem readValue_scalar {c : Char} (hquote : c ≠ '"') (hlist : c ≠ '[') (hrecord : c ≠ '\x7b')
    (fuel position : Nat) (cs : List Char) :
    readValue (fuel + 1) position (c :: cs) = readScalar position (c :: cs) := by
  rw [readValue, if_neg (mt eq_of_beq hquote), if_neg (mt eq_of_beq hlist),
    if_neg (mt eq_of_beq hrecord)]

theorem readValue_text {s : String} (h : Unsplit s.toList) {fuel : Nat}
    (hfuel : (stringText s).toList.length ≤ fuel) (position : Nat) (rest : List Char) :
    ∃ next,
      readValue fuel position ((stringText s).toList ++ rest) = .ok (.text s, next, rest) := by
  rw [toList_stringText, List.length_cons, List.length_append] at hfuel
  obtain ⟨fuel, rfl⟩ : ∃ k, fuel = k + 1 := ⟨fuel - 1, by omega⟩
  have hspelled := length_spelled s.toList
  obtain ⟨next, hread⟩ := readString_spelled h fuel (by omega) (position + 1) rest
  refine ⟨next, ?_⟩
  rw [toList_stringText, List.cons_append, List.append_assoc, List.singleton_append, readValue,
    if_pos (by decide), hread]
  rfl

theorem readValue_int {n : Int} (h : isWritable n = true) {fuel : Nat}
    (hfuel : (intText n).toList.length ≤ fuel) (position : Nat) {rest : List Char}
    (hrest : Ends rest) :
    ∃ next, readValue fuel position ((intText n).toList ++ rest) = .ok (.int n, next, rest) := by
  obtain ⟨next, hread⟩ := readNumber_intText h hrest position
  obtain ⟨d, ds, hdigit, htext⟩ := intText_cases n
  have hne : ∀ c : Char, c.isDigit = false → d ≠ c := fun c => ne_of_isDigit hdigit
  refine ⟨next, ?_⟩
  rcases htext with htext | htext
  · rw [htext, List.length_cons] at hfuel
    obtain ⟨fuel, rfl⟩ : ∃ k, fuel = k + 1 := ⟨fuel - 1, by omega⟩
    rw [← hread, htext, List.cons_append, readValue_scalar (hne _ (by decide))
      (hne _ (by decide)) (hne _ (by decide)), readScalar_number hdigit (.inl rfl)]
  · rw [htext, List.length_cons] at hfuel
    obtain ⟨fuel, rfl⟩ : ∃ k, fuel = k + 1 := ⟨fuel - 1, by omega⟩
    rw [← hread, htext, List.cons_append, readValue_scalar (by decide) (by decide) (by decide),
      List.cons_append, readScalar_number hdigit (.inr rfl)]

/-- A word is read back. -/
theorem readValue_word {w : String} {v : Value} {c : Char} {cs : List Char}
    (hw : w.toList = c :: cs) (hc : c ≠ '"' ∧ c ≠ '[' ∧ c ≠ '\x7b')
    (h : ∀ rest, words.find? (fun x => x.1.toList.isPrefixOf (w.toList ++ rest)) = some (w, v))
    {fuel : Nat} (hfuel : w.toList.length ≤ fuel) (position : Nat) (rest : List Char) :
    ∃ next, readValue fuel position (w.toList ++ rest) = .ok (v, next, rest) := by
  rw [hw, List.length_cons] at hfuel
  obtain ⟨fuel, rfl⟩ : ∃ k, fuel = k + 1 := ⟨fuel - 1, by omega⟩
  refine ⟨position + w.length, ?_⟩
  rw [← readScalar_word (h rest) position, hw, List.cons_append]
  exact readValue_scalar hc.1 hc.2.1 hc.2.2 fuel position _

/-! ## Lists -/

/-- The items of a list with the commas between them. -/
def itemsText (items : List Value) : List Char :=
  (",".intercalate (compactItems items)).toList

theorem itemsText_singleton (v : Value) : itemsText [v] = (compact v).toList := by
  simp [itemsText, compactItems]

theorem itemsText_cons_cons (v w : Value) (items : List Value) :
    itemsText (v :: w :: items) = (compact v).toList ++ ',' :: itemsText (w :: items) := by
  simp only [itemsText, compactItems, String.intercalate_cons_cons, String.toList_append]
  simp

theorem toList_compact_list (items : List Value) :
    (compact (.list items)).toList = '[' :: (itemsText items ++ [']']) := by
  rw [compact, String.toList_append, String.toList_append]
  rfl

theorem itemsText_starts {v : Value} (h : ReadsBack v) (items : List Value) :
    ∃ c cs, itemsText (v :: items) = c :: cs ∧ IsOpening c := by
  obtain ⟨c, cs, hv, hc⟩ := h.starts
  cases items with
  | nil => exact ⟨c, cs, itemsText_singleton v ▸ hv, hc⟩
  | cons w items =>
    rw [itemsText_cons_cons, hv]
    exact ⟨c, _, rfl, hc⟩

/-- The items of a list are read back up to its closing bracket. -/
theorem readItems_itemsText {v : Value} {items : List Value} (hv : ReadsBack v)
    (hitems : ∀ w ∈ items, ReadsBack w) (fuel : Nat)
    (hfuel : (itemsText (v :: items)).length < fuel) (position : Nat) (rest : List Char) :
    ∃ next, readItems fuel position (itemsText (v :: items) ++ ']' :: rest) =
      .ok (v :: items, next, rest) := by
  induction items generalizing v fuel position with
  | nil =>
    obtain ⟨fuel, rfl⟩ : ∃ k, fuel = k + 1 := ⟨fuel - 1, by omega⟩
    rw [itemsText_singleton] at hfuel ⊢
    have hends : Ends (']' :: rest) := ends_cons (by decide) rest
    obtain ⟨next, hread⟩ := hv.reads fuel (Nat.le_of_lt_succ hfuel) position hends
    refine ⟨next + 1, ?_⟩
    rw [readItems, hread]
    simp only [bind, Except.bind, skipSpace_cons (show isSpace ']' = false from rfl)]
  | cons w items ih =>
    obtain ⟨hw, hitems⟩ := List.forall_mem_cons.1 hitems
    obtain ⟨fuel, rfl⟩ : ∃ k, fuel = k + 1 := ⟨fuel - 1, by omega⟩
    rw [itemsText_cons_cons, List.length_append, List.length_cons] at hfuel
    have hends : Ends (',' :: (itemsText (w :: items) ++ ']' :: rest)) := ends_cons (by decide) _
    obtain ⟨next, hread⟩ := hv.reads fuel (by omega) position hends
    obtain ⟨next', hrest⟩ := ih hw hitems fuel (by omega) (next + 1)
    obtain ⟨c, cs, hstart, hspace, -, -⟩ := itemsText_starts hw items
    refine ⟨next', ?_⟩
    rw [itemsText_cons_cons, List.append_assoc, List.cons_append, readItems, hread]
    rw [hstart, List.cons_append] at hrest
    simp only [bind, Except.bind, skipSpace_cons (show isSpace ',' = false from rfl), hstart,
      List.cons_append, skipSpace_cons hspace, hrest]

theorem readsBack_list {items : List Value} (h : ∀ v ∈ items, ReadsBack v) :
    ReadsBack (.list items) where
  starts := ⟨'[', _, toList_compact_list items, by decide⟩
  reads := by
    intro fuel hfuel position rest _
    rw [toList_compact_list, List.length_cons, List.length_append] at hfuel
    obtain ⟨fuel, rfl⟩ : ∃ k, fuel = k + 1 := ⟨fuel - 1, by omega⟩
    rw [toList_compact_list, List.cons_append, List.append_assoc]
    rw [readValue, if_neg (by decide), if_pos (by decide)]
    cases items with
    | nil => exact ⟨position + 2, rfl⟩
    | cons v items =>
      obtain ⟨hv, hitems⟩ := List.forall_mem_cons.1 h
      obtain ⟨c, cs, hstart, hspace, hclose, -⟩ := itemsText_starts hv items
      obtain ⟨next, hread⟩ := readItems_itemsText hv hitems fuel
        (Nat.lt_of_succ_lt_succ hfuel) (position + 1) rest
      refine ⟨next, ?_⟩
      rw [hstart, List.cons_append] at hread
      rw [hstart, List.cons_append, List.singleton_append, skipSpace_cons hspace]
      split
      · next heq => exact absurd (List.cons.inj (Prod.mk.inj heq).2).1 hclose
      · next heq =>
        obtain ⟨rfl, rfl⟩ := Prod.mk.inj heq
        rw [hread]
        rfl

/-! ## Records -/

/-- The members of a record with the commas between them. -/
def membersText (members : List (String × Value)) : List Char :=
  (",".intercalate (compactMembers members)).toList

/-- A member with its name, as its reader finds it. -/
theorem membersText_singleton (k : String) (v : Value) : membersText [(k, v)] =
    '"' :: (spelled k.toList ++ '"' :: ':' :: (compact v).toList) := by
  simp [membersText, compactMembers, toList_stringText]

theorem membersText_cons_cons (k : String) (v : Value) (m : String × Value)
    (members : List (String × Value)) : membersText ((k, v) :: m :: members) =
      '"' :: (spelled k.toList ++ '"' :: ':' ::
        ((compact v).toList ++ ',' :: membersText (m :: members))) := by
  obtain ⟨l, w⟩ := m
  simp [membersText, compactMembers, String.intercalate_cons_cons, toList_stringText]

theorem membersText_starts (k : String) (v : Value) (members : List (String × Value)) :
    ∃ tail, membersText ((k, v) :: members) = '"' :: tail := by
  cases members with
  | nil => exact ⟨_, membersText_singleton k v⟩
  | cons m members => exact ⟨_, membersText_cons_cons k v m members⟩

theorem toList_compact_record (members : List (String × Value)) :
    (compact (.record members)).toList = '\x7b' :: (membersText members ++ ['\x7d']) := by
  rw [compact, String.toList_append, String.toList_append]
  rfl

/-- The members of a record are read back up to its closing brace. -/
theorem readMembers_membersText {k : String} {v : Value} {members : List (String × Value)}
    (hk : Unsplit k.toList) (hv : ReadsBack v)
    (hmembers : ∀ m ∈ members, Unsplit m.1.toList ∧ ReadsBack m.2) (fuel : Nat)
    (hfuel : (membersText ((k, v) :: members)).length < fuel) (position : Nat)
    (rest : List Char) :
    ∃ next, readMembers fuel position (membersText ((k, v) :: members) ++ '\x7d' :: rest) =
      .ok ((k, v) :: members, next, rest) := by
  have hcolon : isSpace ':' = false := rfl
  induction members generalizing k v fuel position with
  | nil =>
    have hclose : isSpace '\x7d' = false := rfl
    have hspelled := length_spelled k.toList
    obtain ⟨fuel, rfl⟩ : ∃ n, fuel = n + 1 := ⟨fuel - 1, by omega⟩
    obtain ⟨c, cs, hstart, hspace, -, -⟩ := hv.starts
    rw [membersText_singleton] at hfuel ⊢
    simp only [List.length_cons, List.length_append] at hfuel
    obtain ⟨behindKey, hkey⟩ := readString_spelled hk fuel (by omega) (position + 1)
      (':' :: ((compact v).toList ++ '\x7d' :: rest))
    have hends : Ends ('\x7d' :: rest) := ends_cons (by decide) rest
    obtain ⟨next, hread⟩ := hv.reads fuel (by omega) (behindKey + 1) hends
    refine ⟨next + 1, ?_⟩
    rw [hstart] at hkey hread ⊢
    simp only [List.cons_append, List.append_assoc] at hkey hread ⊢
    simp only [readMembers, hkey, bind, Except.bind, skipSpace_cons hcolon,
      skipSpace_cons hspace, hread, skipSpace_cons hclose]
  | cons m members ih =>
    have hcomma : isSpace ',' = false := rfl
    have hquote : isSpace '"' = false := rfl
    have hspelled := length_spelled k.toList
    obtain ⟨l, w⟩ := m
    obtain ⟨⟨hl, hw⟩, hmembers⟩ := List.forall_mem_cons.1 hmembers
    obtain ⟨fuel, rfl⟩ : ∃ n, fuel = n + 1 := ⟨fuel - 1, by omega⟩
    obtain ⟨c, cs, hstart, hspace, -, -⟩ := hv.starts
    obtain ⟨tail, htail⟩ := membersText_starts l w members
    rw [membersText_cons_cons] at hfuel ⊢
    simp only [List.length_cons, List.length_append] at hfuel
    obtain ⟨behindKey, hkey⟩ := readString_spelled hk fuel (by omega) (position + 1)
      (':' :: ((compact v).toList ++ ',' :: (membersText ((l, w) :: members) ++ '\x7d' :: rest)))
    have hends : Ends (',' :: (membersText ((l, w) :: members) ++ '\x7d' :: rest)) :=
      ends_cons (by decide) _
    obtain ⟨behindValue, hread⟩ := hv.reads fuel (by omega) (behindKey + 1) hends
    have hlength : (membersText ((l, w) :: members)).length < fuel := by omega
    obtain ⟨next, hrest⟩ := ih hl hw hmembers fuel hlength (behindValue + 1)
    refine ⟨next, ?_⟩
    rw [hstart] at hkey hread ⊢
    rw [htail] at hkey hread hrest ⊢
    simp only [List.cons_append, List.append_assoc] at hkey hread hrest ⊢
    simp only [readMembers, hkey, bind, Except.bind, skipSpace_cons hcolon,
      skipSpace_cons hspace, hread, skipSpace_cons hcomma, skipSpace_cons hquote, hrest]

theorem readsBack_record {members : List (String × Value)}
    (h : ∀ m ∈ members, Unsplit m.1.toList ∧ ReadsBack m.2)
    (hnames : (members.map (·.1)).Nodup) : ReadsBack (.record members) where
  starts := ⟨'\x7b', _, toList_compact_record members, by decide⟩
  reads := by
    intro fuel hfuel position rest _
    rw [toList_compact_record, List.length_cons, List.length_append] at hfuel
    obtain ⟨fuel, rfl⟩ : ∃ k, fuel = k + 1 := ⟨fuel - 1, by omega⟩
    rw [toList_compact_record, List.cons_append, List.append_assoc]
    rw [readValue, if_neg (by decide), if_neg (by decide), if_pos (by decide)]
    cases members with
    | nil => exact ⟨position + 2, rfl⟩
    | cons m members =>
      obtain ⟨k, v⟩ := m
      obtain ⟨⟨hk, hv⟩, hmembers⟩ := List.forall_mem_cons.1 h
      obtain ⟨next, hread⟩ := readMembers_membersText hk hv hmembers fuel
        (Nat.lt_of_succ_lt_succ hfuel) (position + 1) rest
      obtain ⟨tail, htail⟩ := membersText_starts k v members
      refine ⟨next, ?_⟩
      rw [htail, List.cons_append] at hread
      rw [htail, List.cons_append, List.singleton_append, skipSpace_cons (by decide)]
      split
      · next heq => exact absurd (List.cons.inj (Prod.mk.inj heq).2).1 (by decide)
      · next heq =>
        obtain ⟨rfl, rfl⟩ := Prod.mk.inj heq
        rw [hread]
        exact congrArg (fun ms => Except.ok (Value.record ms, next, rest))
          (namedValues_of_nodup hnames)

/-! ## All values -/

theorem readsBack_word {w : String} {v : Value} {c : Char} {cs : List Char} (hv : compact v = w)
    (hw : w.toList = c :: cs) (hc : IsOpening c ∧ c ≠ '"' ∧ c ≠ '[' ∧ c ≠ '\x7b')
    (h : ∀ rest, words.find? (fun x => x.1.toList.isPrefixOf (w.toList ++ rest)) = some (w, v)) :
    ReadsBack v where
  starts := ⟨c, cs, hv ▸ hw, hc.1⟩
  reads := fun _ hfuel position rest _ =>
    hv ▸ readValue_word hw hc.2 h (hv ▸ hfuel) position rest

theorem readsBack_int {n : Int} (h : isWritable n = true) : ReadsBack (.int n) where
  starts := by
    obtain ⟨d, ds, hdigit, htext | htext⟩ := intText_cases n
    · exact ⟨d, ds, htext, isOpening_of_isDigit hdigit⟩
    · exact ⟨'-', _, htext, by decide⟩
  reads := fun _ hfuel position _ hrest => readValue_int h hfuel position hrest

theorem readsBack_text {s : String} (h : Unsplit s.toList) : ReadsBack (.text s) where
  starts := ⟨'"', _, toList_stringText s, by decide⟩
  reads := fun _ hfuel position rest _ => readValue_text h hfuel position rest

mutual

/-- A value that is told is read back. -/
theorem readsBack : ∀ v : Value, IsTold v → ReadsBack v
  | .null, _ => readsBack_word (w := "null") rfl rfl (by decide) fun _ => rfl
  | .bool true, _ => readsBack_word (w := "true") rfl rfl (by decide) fun _ => rfl
  | .bool false, _ => readsBack_word (w := "false") rfl rfl (by decide) fun _ => rfl
  | .int _, h => readsBack_int h
  | .text _, h => readsBack_text h
  | .list items, h => readsBack_list (itemsReadBack items h)
  | .record members, h => readsBack_record (membersReadBack members h.1) h.2

theorem itemsReadBack : ∀ items : List Value, AreTold items → ∀ v ∈ items, ReadsBack v
  | [], _ => nofun
  | v :: rest, h => List.forall_mem_cons.2 ⟨readsBack v h.1, itemsReadBack rest h.2⟩

theorem membersReadBack : ∀ members : List (String × Value), MembersTold members →
    ∀ m ∈ members, Unsplit m.1.toList ∧ ReadsBack m.2
  | [], _ => nofun
  | (_, v) :: rest, h =>
    List.forall_mem_cons.2 ⟨⟨h.1, readsBack v h.2.1⟩, membersReadBack rest h.2.2⟩

end

/-- A value that is told is read again from its compact text. -/
theorem read_compact {v : Value} (h : IsTold v) : read (compact v) = .ok v := by
  obtain ⟨⟨c, cs, hstart, hspace, -, hmark⟩, hreads⟩ := readsBack v h
  obtain ⟨next, hread⟩ := hreads (2 * (compact v).toList.length + 2) (by omega) 0 ends_nil
  rw [List.append_nil] at hread
  have hhead : ((compact v).toList.head? == some '\ufeff') = false := by
    rw [hstart]
    exact beq_eq_false_iff_ne.2 fun heq => hmark (Option.some.inj heq)
  have hskip : skipSpace 0 (compact v).toList = (0, (compact v).toList) := by
    rw [hstart, skipSpace_cons hspace]
  have hall : readAll (compact v).toList = .ok v := by
    simp only [readAll, hhead, Bool.false_eq_true, if_false, hskip, hread, skipSpace, bind,
      Except.bind, pure, Except.pure]
  rw [read, hall]

end Crosstab.Json
