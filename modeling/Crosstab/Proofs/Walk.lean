import Crosstab.Proofs.Session

/-!
# Walks over pages

A walk asks for one page after the other: a page tells where the next one starts, and the first that
tells no place is the last of the walk. From a place there is one walk at most, because a channel
that answers for itself determines every page.
-/

namespace Crosstab

open Sql
open Session (Reply)

/-- A page that a session came to, with the queries that were asked for it. -/
structure Visit (α : Type) where
  page : α
  queries : List Fragment

namespace Visit

variable {α : Type} {answer : Fragment → Reply} {s : Session α}

/-- The session comes to the page on the channel and asks its queries. -/
def Of (answer : Fragment → Reply) (s : Session α) (v : Visit α) : Prop :=
  Runs answer s v.page v.queries

theorem Of.unique {u v : Visit α} (hu : u.Of answer s) (hv : v.Of answer s) : u = v := by
  obtain ⟨hpage, hqueries⟩ := Prod.mk.inj (hu.symm.trans hv)
  obtain ⟨upage, uqueries⟩ := u
  obtain ⟨vpage, vqueries⟩ := v
  obtain rfl := Except.ok.inj hpage
  obtain rfl := hqueries
  rfl

end Visit

/-- The pages from a place on, where a page may tell the place of the next. -/
inductive Walk {σ β : Type} (visits : σ → β → Prop) (next? : σ → β → Option σ) :
    σ → List β → Prop where
  | last {s : σ} {b : β} (hvisit : visits s b) (hnone : next? s b = none) :
      Walk visits next? s [b]
  | more {s s' : σ} {b : β} {rest : List β} (hvisit : visits s b) (hnext : next? s b = some s')
      (hrest : Walk visits next? s' rest) : Walk visits next? s (b :: rest)

namespace Walk

variable {σ β : Type} {visits : σ → β → Prop} {next? : σ → β → Option σ} {s : σ} {bs cs : List β}

theorem unique (hb : Walk visits next? s bs) (hc : Walk visits next? s cs)
    (hvisits : ∀ s b c, visits s b → visits s c → b = c) : bs = cs := by
  induction hb generalizing cs with
  | last hvisit hnone =>
    cases hc with
    | last hvisit' _ => rw [hvisits _ _ _ hvisit hvisit']
    | more hvisit' hnext _ =>
      rw [hvisits _ _ _ hvisit hvisit', hnext] at hnone
      cases hnone
  | more hvisit hnext _ ih =>
    cases hc with
    | last hvisit' hnone =>
      rw [hvisits _ _ _ hvisit hvisit', hnone] at hnext
      cases hnext
    | more hvisit' hnext' hrest =>
      obtain rfl := hvisits _ _ _ hvisit hvisit'
      obtain rfl := Option.some.inj (hnext.symm.trans hnext')
      rw [ih hrest]

/-- Only the last page tells no place. -/
theorem split (h : Walk visits next? s bs) : ∃ front last, bs = front ++ [last] ∧
    (∀ b ∈ front, ∃ s s', next? s b = some s') ∧ ∃ s, next? s last = none := by
  induction h with
  | @last s b _ hnone => exact ⟨[], b, rfl, nofun, s, hnone⟩
  | @more s s' b rest _ hnext _ ih =>
    obtain ⟨front, last, rfl, hfront, hlast⟩ := ih
    exact ⟨b :: front, last, rfl, List.forall_mem_cons.2 ⟨⟨s, s', hnext⟩, hfront⟩, hlast⟩

/-- What is known of the visits is known of what they are made into. -/
theorem map {γ : Type} {visits' : σ → γ → Prop} {next?' : σ → γ → Option σ} (f : β → γ)
    (hvisits : ∀ s b, visits s b → visits' s (f b)) (hnext : ∀ s b, next?' s (f b) = next? s b)
    (h : Walk visits next? s bs) : Walk visits' next?' s (bs.map f) := by
  induction h with
  | last hvisit hnone => exact .last (hvisits _ _ hvisit) ((hnext _ _).trans hnone)
  | more hvisit hmore _ ih => exact .more (hvisits _ _ hvisit) ((hnext _ _).trans hmore) ih

/-- Where each page tells the place so many things behind its own, the places are known. -/
theorem visits_at {visits : Nat → β → Prop} {next? : Nat → β → Option Nat} {n o : Nat}
    (hnext : ∀ o b o', next? o b = some o' → visits o b → o' = o + n)
    (h : Walk visits next? o bs) {i : Nat} {b : β} (hb : bs[i]? = some b) :
    visits (o + i * n) b := by
  induction h generalizing i with
  | @last o c hvisit _ =>
    cases i with
    | zero =>
      obtain rfl := Option.some.inj hb
      rwa [Nat.zero_mul, Nat.add_zero]
    | succ i => cases hb
  | @more o o' c rest hvisit hmore _ ih =>
    cases i with
    | zero =>
      obtain rfl := Option.some.inj hb
      rwa [Nat.zero_mul, Nat.add_zero]
    | succ i =>
      have hrest := ih hb
      rw [hnext o c o' hmore hvisit] at hrest
      have hplace : o + n + i * n = o + (i + 1) * n := by
        rw [Nat.succ_mul]
        omega
      rwa [hplace] at hrest

/-- A walk comes about where each page shows the next so many things and tells the place behind them
as long as more are left. It shows all things from its start on. -/
theorem exists_of_slices {α : Type} {visits : Nat → β → Prop} {next? : Nat → β → Option Nat}
    {shown : β → List α} {xs : List α} {n : Nat} (hn : 1 ≤ n)
    (hpage : ∀ o, o = 0 ∨ o < xs.length → ∃ b, visits o b ∧ shown b = (xs.drop o).take n ∧
      next? o b = if o + n < xs.length then some (o + n) else none) {o : Nat}
    (ho : o = 0 ∨ o < xs.length) :
    ∃ bs, Walk visits next? o bs ∧ bs.flatMap shown = xs.drop o := by
  -- Each page shows one thing at least, so less is left for the pages behind it.
  induction hleft : xs.length - o using Nat.strongRecOn generalizing o with
  | ind left ih =>
    obtain ⟨b, hvisit, hshown, hnext⟩ := hpage o ho
    by_cases hmore : o + n < xs.length
    · rw [if_pos hmore] at hnext
      obtain ⟨rest, hwalk, hrest⟩ := ih (xs.length - (o + n)) (by omega) (.inr hmore) rfl
      refine ⟨b :: rest, .more hvisit hnext hwalk, ?_⟩
      rw [List.flatMap_cons, hshown, hrest, ← List.drop_drop, List.take_append_drop]
    · rw [if_neg hmore] at hnext
      refine ⟨[b], .last hvisit hnext, ?_⟩
      rw [List.flatMap_singleton, hshown, List.take_of_length_le]
      rw [List.length_drop]
      omega

end Walk

end Crosstab
