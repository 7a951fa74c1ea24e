import Crosstab.Failure
import Mathlib.Data.List.Forall2

/-!
# Laws of outcomes

Two ways of talking about operations that may fail. `Yields` says of one run what holds of its
result and what holds of its failure; `Agrees` compares the results of two runs that both succeed.
Either is carried through sequences, lists and folds by one rule each, so nothing about an operation
has to be unfolded by those who use it.
-/

namespace Crosstab

variable {α β γ δ : Type}

namespace Outcome

theorem bind_eq_ok {x : Outcome α} {f : α → Outcome β} {b : β} :
    (x >>= f) = .ok b ↔ ∃ a, x = .ok a ∧ f a = .ok b := by
  cases x with
  | error e => exact ⟨nofun, fun ⟨_, h, _⟩ => nomatch h⟩
  | ok a => exact ⟨fun h => ⟨a, rfl, h⟩, fun ⟨_, h, hf⟩ => by cases h; exact hf⟩

theorem pure_eq_ok {a b : α} : (pure a : Outcome α) = .ok b ↔ a = b :=
  Except.ok.injEq a b ▸ Iff.rfl

theorem isOk_iff {x : Outcome α} : x.isOk = true ↔ ∃ a, x = .ok a := by
  cases x with
  | ok a => exact ⟨fun _ => ⟨a, rfl⟩, fun _ => rfl⟩
  | error e => exact ⟨nofun, fun ⟨_, h⟩ => nomatch h⟩

theorem toOption_eq_some {x : Outcome α} {a : α} : x.toOption = some a ↔ x = .ok a := by
  cases x with
  | ok b => exact ⟨fun h => congrArg _ (Option.some.inj h), fun h => congrArg _ (Except.ok.inj h)⟩
  | error e => exact ⟨nofun, nofun⟩

/-- A list of operations comes to its results if each of them does. -/
theorem mapM_isOk {f : α → Outcome β} {xs : List α} (h : ∀ x ∈ xs, ∃ y, f x = .ok y) :
    ∃ ys, xs.mapM f = .ok ys := by
  induction xs with
  | nil => exact ⟨[], rfl⟩
  | cons x xs ih =>
    obtain ⟨hx, hxs⟩ := List.forall_mem_cons.1 h
    obtain ⟨y, hy⟩ := hx
    obtain ⟨ys, hys⟩ := ih hxs
    refine ⟨y :: ys, ?_⟩
    rw [List.mapM_cons, hy, hys]
    rfl

/-- The results of a list of operations are those of each. -/
theorem forall₂_of_mapM {f : α → Outcome β} {xs : List α} {ys : List β} (h : xs.mapM f = .ok ys) :
    List.Forall₂ (fun x y => f x = .ok y) xs ys := by
  induction xs generalizing ys with
  | nil =>
    obtain rfl := pure_eq_ok.1 h
    exact .nil
  | cons x xs ih =>
    rw [List.mapM_cons] at h
    obtain ⟨y, hy, h⟩ := bind_eq_ok.1 h
    obtain ⟨rest, hrest, h⟩ := bind_eq_ok.1 h
    obtain rfl := pure_eq_ok.1 h
    exact .cons hy (ih hrest)

/-- A list of operations comes to the results of each. -/
theorem mapM_of_forall₂ {f : α → Outcome β} {xs : List α} {ys : List β}
    (h : List.Forall₂ (fun x y => f x = .ok y) xs ys) : xs.mapM f = .ok ys := by
  induction h with
  | nil => rfl
  | cons hx _ ih => rw [List.mapM_cons, hx, ih]; rfl

theorem mapM_eq_map {f : α → Outcome β} {g : α → β} {xs : List α}
    (h : ∀ x ∈ xs, f x = .ok (g x)) : xs.mapM f = .ok (xs.map g) :=
  mapM_of_forall₂ (List.forall₂_map_right_iff.2 (List.forall₂_same.2 h))

/-- So does one on a list that is made of another one. -/
theorem mapM_map_eq {f : β → Outcome γ} {g : α → β} {k : α → γ} {xs : List α}
    (h : ∀ x ∈ xs, f (g x) = .ok (k x)) : (xs.map g).mapM f = .ok (xs.map k) :=
  mapM_of_forall₂ (List.forall₂_map_left_iff.2
    (List.forall₂_map_right_iff.2 (List.forall₂_same.2 h)))

/-- Each operation of a list that comes to its results comes to one of them. -/
theorem mem_of_mapM {f : α → Outcome β} {xs : List α} {ys : List β} (h : xs.mapM f = .ok ys)
    {x : α} (hx : x ∈ xs) : ∃ y ∈ ys, f x = .ok y := by
  have hforall := forall₂_of_mapM h
  clear h
  induction hforall with
  | nil => exact nomatch hx
  | cons hy _ ih =>
    rcases List.mem_cons.1 hx with rfl | hx
    · exact ⟨_, List.mem_cons_self, hy⟩
    · obtain ⟨z, hz, hfz⟩ := ih hx
      exact ⟨z, List.mem_cons_of_mem _ hz, hfz⟩

/-- A result at some place is that of the operation at the place. -/
theorem getElem?_of_mapM {f : α → Outcome β} {xs : List α} {ys : List β} (h : xs.mapM f = .ok ys)
    {i : Nat} {y : β} (hy : ys[i]? = some y) : ∃ x, xs[i]? = some x ∧ f x = .ok y := by
  have hforall := forall₂_of_mapM h
  obtain ⟨hlt, rfl⟩ := List.getElem?_eq_some_iff.1 hy
  have hltAll : i < xs.length := hforall.length_eq ▸ hlt
  exact ⟨xs[i], List.getElem?_eq_getElem hltAll, hforall.get hltAll hlt⟩

theorem filterMap_of_mapM {f : α → Outcome β} {xs : List α} {ys : List β}
    (h : xs.mapM f = .ok ys) : xs.filterMap (fun x => (f x).toOption) = ys := by
  have hforall := forall₂_of_mapM h
  clear h
  induction hforall with
  | nil => rfl
  | cons hy _ ih =>
    rw [List.filterMap_cons, hy, ih]
    rfl

/-- Operations in another order come to their results in that order. -/
theorem mapM_perm {f : α → Outcome β} {xs xs' : List α} {ys ys' : List β} (h : xs.Perm xs')
    (hys : xs.mapM f = .ok ys) (hys' : xs'.mapM f = .ok ys') : ys.Perm ys' := by
  rw [← filterMap_of_mapM hys, ← filterMap_of_mapM hys']
  exact h.filterMap _

/-! ## One run -/

/-- The result satisfies the one property, the failure the other. -/
inductive Yields (E : Failure → Prop) (P : α → Prop) : Outcome α → Prop where
  | ok {a : α} (h : P a) : Yields E P (.ok a)
  | error {e : Failure} (h : E e) : Yields E P (.error e)

variable {E : Failure → Prop} {P : α → Prop} {Q : β → Prop}

theorem Yields.of_ok {x : Outcome α} {a : α} (h : Yields E P x) (hx : x = .ok a) : P a := by
  subst hx
  cases h with
  | ok h => exact h

theorem Yields.of_error {x : Outcome α} {e : Failure} (h : Yields E P x) (hx : x = .error e) :
    E e := by
  subst hx
  cases h with
  | error h => exact h

theorem Yields.any (x : Outcome α) : Yields (fun _ => True) (fun _ => True) x := by
  cases x with
  | ok a => exact .ok trivial
  | error e => exact .error trivial

theorem Yields.mono {P' : α → Prop} {x : Outcome α} (h : Yields E P x) (hP : ∀ a, P a → P' a) :
    Yields E P' x := by
  cases h with
  | ok h => exact .ok (hP _ h)
  | error h => exact .error h

/-- The result is the one that the operation comes to. -/
theorem Yields.known {x : Outcome α} (h : Yields E P x) : Yields E (fun a => x = .ok a) x := by
  cases h with
  | ok h => exact .ok rfl
  | error h => exact .error h

/-- The failure may be said to satisfy more. -/
theorem Yields.weaken {E' : Failure → Prop} {x : Outcome α} (h : Yields E P x)
    (hE : ∀ e, E e → E' e) : Yields E' P x := by
  cases h with
  | ok h => exact .ok h
  | error h => exact .error (hE _ h)

theorem Yields.bind {x : Outcome α} {f : α → Outcome β} (hx : Yields E P x)
    (hf : ∀ a, P a → Yields E Q (f a)) : Yields E Q (x >>= f) := by
  cases hx with
  | ok h => exact hf _ h
  | error h => exact .error h

theorem Yields.map {x : Outcome α} {f : α → β} (hx : Yields E P x) (hf : ∀ a, P a → Q (f a)) :
    Yields E Q (f <$> x) := by
  cases hx with
  | ok h => exact .ok (hf _ h)
  | error h => exact .error h

theorem Yields.mapM {f : α → Outcome β} {xs : List α} (h : ∀ x ∈ xs, Yields E Q (f x)) :
    Yields E (fun ys => ∀ y ∈ ys, Q y) (xs.mapM f) := by
  induction xs with
  | nil => exact .ok fun _ hy => nomatch hy
  | cons x xs ih =>
    obtain ⟨hx, hxs⟩ := List.forall_mem_cons.1 h
    rw [List.mapM_cons]
    refine hx.bind fun y hy => (ih hxs).bind fun ys hys => .ok ?_
    exact List.forall_mem_cons.2 ⟨hy, hys⟩

theorem Yields.foldlM {f : β → α → Outcome β} {xs : List α} {b : β} (hb : Q b)
    (h : ∀ b, Q b → ∀ x ∈ xs, Yields E Q (f b x)) : Yields E Q (xs.foldlM f b) := by
  induction xs generalizing b with
  | nil => exact .ok hb
  | cons x xs ih =>
    rw [List.foldlM_cons]
    refine (h b hb x List.mem_cons_self).bind fun c hc => ih hc ?_
    exact fun d hd y hy => h d hd y (List.mem_cons_of_mem x hy)

/-! ## Two runs -/

/-- The results of two operations that both succeed are related. -/
def Agrees (R : α → β → Prop) (x : Outcome α) (y : Outcome β) : Prop :=
  ∀ a b, x = .ok a → y = .ok b → R a b

variable {R : α → β → Prop} {S : γ → δ → Prop}

theorem Agrees.ok {a : α} {b : β} (h : R a b) : Agrees R (.ok a) (.ok b) := by
  rintro _ _ ⟨⟩ ⟨⟩
  exact h

/-- Nothing is asked of the results if one of the runs fails. -/
theorem Agrees.error_left {e : Failure} {y : Outcome β} : Agrees R (.error e : Outcome α) y :=
  fun _ _ hx => nomatch hx

theorem Agrees.error_right {x : Outcome α} {e : Failure} : Agrees R x (.error e : Outcome β) :=
  fun _ _ _ hy => nomatch hy

theorem Agrees.refl {R : α → α → Prop} (h : ∀ a, R a a) (x : Outcome α) : Agrees R x x :=
  fun a _ ha hb => Except.ok.inj (ha.symm.trans hb) ▸ h a

theorem Agrees.bind {x : Outcome α} {y : Outcome β} {f : α → Outcome γ} {g : β → Outcome δ}
    (h : Agrees R x y) (hfg : ∀ a b, R a b → Agrees S (f a) (g b)) :
    Agrees S (x >>= f) (y >>= g) := by
  intro c d hc hd
  obtain ⟨a, ha, hfa⟩ := bind_eq_ok.1 hc
  obtain ⟨b, hb, hgb⟩ := bind_eq_ok.1 hd
  exact hfg a b (h a b ha hb) c d hfa hgb

/-- Both runs do the same first. -/
theorem Agrees.bind_same {x : Outcome α} {f : α → Outcome γ} {g : α → Outcome δ}
    (hfg : ∀ a, Agrees S (f a) (g a)) : Agrees S (x >>= f) (x >>= g) := by
  have hx : Agrees Eq x x := .refl (fun _ => rfl) x
  exact hx.bind fun a b hab => hab ▸ hfg a

theorem Agrees.mapM {f : α → Outcome γ} {g : β → Outcome δ} {xs : List α} {ys : List β}
    (h : List.Forall₂ R xs ys) (hfg : ∀ a b, R a b → Agrees S (f a) (g b)) :
    Agrees (List.Forall₂ S) (xs.mapM f) (ys.mapM g) := by
  induction h with
  | nil => exact Agrees.ok .nil
  | cons hab _ ih =>
    rw [List.mapM_cons, List.mapM_cons]
    refine (hfg _ _ hab).bind fun c d hcd => ih.bind fun cs ds hcds => ?_
    exact Agrees.ok (.cons hcd hcds)

theorem Agrees.foldlM {f : γ → α → Outcome γ} {g : δ → β → Outcome δ} {xs : List α} {ys : List β}
    {c : γ} {d : δ} (h : List.Forall₂ R xs ys) (hcd : S c d)
    (hfg : ∀ c d, S c d → ∀ a b, R a b → Agrees S (f c a) (g d b)) :
    Agrees S (xs.foldlM f c) (ys.foldlM g d) := by
  induction h generalizing c d with
  | nil => exact Agrees.ok hcd
  | cons hab _ ih =>
    rw [List.foldlM_cons, List.foldlM_cons]
    exact (hfg c d hcd _ _ hab).bind fun c' d' hcd' => ih hcd'

end Outcome

end Crosstab
