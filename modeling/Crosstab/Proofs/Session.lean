import Crosstab.Proofs.Outcome
import Crosstab.Proofs.Value
import Crosstab.Session

/-!
# Sessions on a channel

A channel that answers every query for itself gives a session an outcome and a list of queries. A
session that comes to a result on a channel asks its queries one after the other, so what is known
of two sessions is known of the session that does both.
-/

namespace Crosstab

open Sql
open Session (Reply)

variable {α β : Type}

namespace Session

theorem done_bind (a : α) (f : α → Session β) : (done a >>= f) = f a := rfl

theorem fail_bind (e : Failure) (f : α → Session β) : (fail e >>= f) = fail e := rfl

/-- What needs no query goes on with its result. -/
theorem lift_bind_ok {x : Outcome α} {a : α} (h : x = .ok a) (f : α → Session β) :
    (ofOutcome x >>= f) = f a := by
  rw [h]
  rfl

/-- What begins without a query fails at once, or goes on with a result. -/
theorem fails_or {x : Outcome α} {f : α → Session β} {P : Prop}
    (h : ∀ a, x = .ok a → (∃ e, f a = .fail e) ∨ P) :
    (∃ e, (ofOutcome x >>= f) = .fail e) ∨ P := by
  cases hx : x with
  | error e => exact .inl ⟨e, rfl⟩
  | ok a => exact h a hx

/-- Outcomes in their order need no query. -/
theorem lift_bind_lift (x : Outcome α) (f : α → Outcome β) :
    (ofOutcome x >>= fun a => ofOutcome (f a)) = ofOutcome (x >>= f) := by
  cases x with
  | error e => rfl
  | ok a => rfl

/-- What goes on in steps goes on with their sequence. -/
theorem bind_assoc {γ : Type} (s : Session α) (f : α → Session β) (g : β → Session γ) :
    (s >>= f >>= g) = s >>= fun a => f a >>= g := by
  show (s.bind f).bind g = s.bind fun a => (f a).bind g
  induction s with
  | done a => rfl
  | fail e => rfl
  | ask q next ih => exact congrArg (ask q) (funext ih)

/-- The outcome of a session on a channel, with the queries it asked. -/
def against (answer : Fragment → Reply) : Session α → Outcome α × List Fragment
  | .done a => (.ok a, [])
  | .fail e => (.error e, [])
  | .ask q next =>
    match answer q with
    | .error detail => (.error (.channel detail q.sql), [q])
    | .ok rows =>
      let later := (next rows).against answer
      (later.1, q :: later.2)

/-- The same outcome and queries come of the replies that the channel gives, in their order. -/
theorem replay_answers (answer : Fragment → Reply) (s : Session α) :
    s.replay ((s.against answer).2.map answer) = s.against answer := by
  induction s with
  | done a => rfl
  | fail e => rfl
  | ask q next ih =>
    simp only [against]
    cases hq : answer q with
    | error detail =>
      simp only [List.map_cons, List.map_nil, replay, List.headD_cons, hq]
    | ok rows =>
      simp only [List.map_cons, replay, List.headD_cons, hq, List.tail_cons, ih rows]

/-! ## Replies in their order -/

/-- A result behind a query comes of the rows that the first reply has. -/
theorem of_replay_ask {q : Fragment} {next : Rows → Session α} {replies : List Reply} {a : α}
    {qs : List Fragment} (h : (ask q next).replay replies = (.ok a, qs)) :
    ∃ rows later, replies.headD exhausted = .ok rows ∧
      (next rows).replay replies.tail = (.ok a, later) ∧ qs = q :: later := by
  simp only [replay] at h
  cases hreply : replies.headD exhausted with
  | error detail =>
    rw [hreply] at h
    exact nomatch congrArg Prod.fst h
  | ok rows =>
    simp only [hreply, Prod.mk.injEq] at h
    obtain ⟨hresult, rfl⟩ := h
    exact ⟨rows, _, rfl, Prod.ext hresult rfl, rfl⟩

/-- What comes after a result gets the replies that are left. -/
theorem replay_bind {s : Session α} {replies : List Reply} {a : α} {qs : List Fragment}
    (hs : s.replay replies = (.ok a, qs)) (f : α → Session β) :
    (s >>= f).replay replies = (((f a).replay (replies.drop qs.length)).1,
      qs ++ ((f a).replay (replies.drop qs.length)).2) := by
  show (s.bind f).replay replies = _
  induction s generalizing replies qs with
  | done c =>
    simp only [replay, Prod.mk.injEq, Except.ok.injEq] at hs
    obtain ⟨rfl, rfl⟩ := hs
    rfl
  | fail e => simp [replay] at hs
  | ask q next ih =>
    obtain ⟨rows, later, hreply, hnext, rfl⟩ := of_replay_ask hs
    simp only [bind, replay, hreply, ih rows hnext, List.length_cons, List.drop_tail,
      List.cons_append]

/-- Replies behind those that a result took are left over. -/
theorem replay_append {s : Session α} {replies : List Reply} {a : α} {qs : List Fragment}
    (hs : s.replay replies = (.ok a, qs)) (more : List Reply) :
    s.replay (replies ++ more) = (.ok a, qs) := by
  induction s generalizing replies qs with
  | done c => exact hs
  | fail e => simp [replay] at hs
  | ask q next ih =>
    obtain ⟨rows, later, hreply, hnext, rfl⟩ := of_replay_ask hs
    cases replies with
    | nil => exact nomatch hreply
    | cons reply replies =>
      obtain rfl : reply = .ok rows := hreply
      have hrest : (next rows).replay (replies ++ more) = (.ok a, later) := ih rows hnext
      simp only [List.cons_append, replay, List.headD_cons, List.tail_cons, hrest]

/-- Nothing comes after a failure. -/
theorem replay_bind_error {s : Session α} {replies : List Reply} {e : Failure} {qs : List Fragment}
    (hs : s.replay replies = (.error e, qs)) (f : α → Session β) :
    (s >>= f).replay replies = (.error e, qs) := by
  show (s.bind f).replay replies = _
  induction s generalizing replies qs with
  | done c => simp [replay] at hs
  | fail d =>
    simp only [replay, Prod.mk.injEq, Except.error.injEq] at hs
    obtain ⟨rfl, rfl⟩ := hs
    rfl
  | ask q next ih =>
    simp only [replay] at hs
    simp only [bind, replay]
    cases hreply : replies.headD exhausted with
    | error detail =>
      simp only [hreply, Prod.mk.injEq, Except.error.injEq] at hs
      obtain ⟨rfl, rfl⟩ := hs
      rfl
    | ok rows =>
      simp only [hreply, Prod.mk.injEq] at hs
      obtain ⟨hresult, rfl⟩ := hs
      have hnext : (next rows).replay replies.tail =
          (.error e, ((next rows).replay replies.tail).2) := Prod.ext hresult rfl
      simp only [ih rows hnext]

/-- What needs no query adds none. -/
theorem replay_bind_pure (s : Session α) (f : α → β) (replies : List Reply) :
    (s >>= fun a => pure (f a)).replay replies =
      ((s.replay replies).1.map f, (s.replay replies).2) := by
  cases hs : s.replay replies with
  | mk outcome qs =>
    cases outcome with
    | error e => exact replay_bind_error hs _
    | ok a =>
      rw [replay_bind hs]
      show (Except.ok (f a), qs ++ []) = _
      rw [List.append_nil]
      rfl

/-- One query and what is made of its rows. -/
theorem replay_ask (q : Fragment) (f : Rows → Outcome α) (replies : List Reply) :
    (Session.ask q fun rows => ofOutcome (f rows)).replay replies =
      (match replies.headD exhausted with
        | .error detail => .error (.channel detail q.sql)
        | .ok rows => f rows, [q]) := by
  rw [replay]
  cases replies.headD exhausted with
  | error detail => rfl
  | ok rows =>
    simp only
    cases f rows with
    | error e => rfl
    | ok a => rfl

end Session

/-! ## Results -/

/-- On the channel the session comes to the result, and these are the queries it asks. -/
def Runs (answer : Fragment → Reply) (s : Session α) (a : α) (queries : List Fragment) : Prop :=
  s.against answer = (.ok a, queries)

namespace Runs

variable {answer : Fragment → Reply}

theorem done (a : α) : Runs answer (.done a) a [] := rfl

theorem ask {q : Fragment} {next : Rows → Session α} {r : Rows} {a : α} {later : List Fragment}
    (h : answer q = .ok r) (hnext : Runs answer (next r) a later) :
    Runs answer (.ask q next) a (q :: later) := by
  simp only [Runs, Session.against, h, show (next r).against answer = _ from hnext]

/-- A result behind a query comes of the rows that the channel gives. -/
theorem of_ask {q : Fragment} {next : Rows → Session α} {a : α} {qs : List Fragment}
    (h : Runs answer (.ask q next) a qs) :
    ∃ rows later, answer q = .ok rows ∧ Runs answer (next rows) a later ∧ qs = q :: later := by
  simp only [Runs, Session.against] at h
  cases hq : answer q with
  | error detail => simp [hq] at h
  | ok rows =>
    simp only [hq, Prod.mk.injEq] at h
    obtain ⟨hresult, rfl⟩ := h
    exact ⟨rows, _, rfl, Prod.ext hresult rfl, rfl⟩

theorem of_done {a b : α} {qs : List Fragment} (h : Runs answer (.done a) b qs) :
    b = a ∧ qs = [] := by
  simp only [Runs, Session.against, Prod.mk.injEq, Except.ok.injEq] at h
  exact ⟨h.1.symm, h.2.symm⟩

/-- The same comes of the replies that the channel gives to the queries. -/
theorem replay {s : Session α} {a : α} {qs : List Fragment} (h : Runs answer s a qs) :
    s.replay (qs.map answer) = (.ok a, qs) := by
  have hreplay := Session.replay_answers answer s
  rwa [h] at hreplay

/-- What comes after a result goes on with it, and asks its queries after those before. -/
theorem against_bind {s : Session α} {a : α} {qs : List Fragment} (hs : Runs answer s a qs)
    (f : α → Session β) : (s >>= f).against answer =
      (((f a).against answer).1, qs ++ ((f a).against answer).2) := by
  show (s.bind f).against answer = _
  induction s generalizing qs with
  | done c =>
    obtain ⟨rfl, rfl⟩ := of_done hs
    rfl
  | fail e => simp [Runs, Session.against] at hs
  | ask q next ih =>
    obtain ⟨rows, later, hq, hnext, rfl⟩ := of_ask hs
    simp only [Session.bind, Session.against, hq, ih rows hnext, List.cons_append]

theorem bind {s : Session α} {f : α → Session β} {a : α} {b : β} {qs rs : List Fragment}
    (hs : Runs answer s a qs) (hf : Runs answer (f a) b rs) :
    Runs answer (s >>= f) b (qs ++ rs) := by
  unfold Runs
  rw [hs.against_bind f, hf]

/-- A result after another session is one of what goes on with its result. -/
theorem of_bind {s : Session α} {f : α → Session β} {b : β} {qs : List Fragment}
    (h : Runs answer (s >>= f) b qs) :
    ∃ a first later, Runs answer s a first ∧ Runs answer (f a) b later ∧ qs = first ++ later := by
  change (s.bind f).against answer = _ at h
  induction s generalizing qs with
  | done a => exact ⟨a, [], qs, done a, h, rfl⟩
  | fail e => simp [Session.bind, Session.against] at h
  | ask q next ih =>
    obtain ⟨rows, rest, hq, hnext, rfl⟩ := of_ask h
    obtain ⟨a, first, later, hs, hf, rfl⟩ := ih rows hnext
    exact ⟨a, q :: first, later, ask hq hs, hf, rfl⟩

theorem of_lift {x : Outcome α} {a : α} {qs : List Fragment}
    (h : Runs answer (Session.ofOutcome x) a qs) : x = .ok a ∧ qs = [] := by
  cases x with
  | error e => simp [Runs, Session.ofOutcome, Session.against] at h
  | ok b =>
    obtain ⟨rfl, hqs⟩ := of_done h
    exact ⟨rfl, hqs⟩

/-- A result of an outcome that goes on is one of what goes on with it. -/
theorem of_lift_bind {x : Outcome α} {f : α → Session β} {b : β} {qs : List Fragment}
    (h : Runs answer (Session.ofOutcome x >>= f) b qs) :
    ∃ a, x = .ok a ∧ Runs answer (f a) b qs := by
  obtain ⟨a, first, later, hx, hf, rfl⟩ := of_bind h
  obtain ⟨hok, rfl⟩ := of_lift hx
  exact ⟨a, hok, hf⟩

/-- What is made of a result needs no query. -/
theorem bind_pure_iff {s : Session α} {f : α → β} {b : β} {qs : List Fragment} :
    Runs answer (s >>= fun a => pure (f a)) b qs ↔ ∃ a, b = f a ∧ Runs answer s a qs := by
  constructor
  · intro h
    obtain ⟨a, first, later, hs, hdone, rfl⟩ := of_bind h
    obtain ⟨rfl, rfl⟩ := of_done hdone
    exact ⟨a, rfl, by rwa [List.append_nil]⟩
  · rintro ⟨a, rfl, hs⟩
    rw [← List.append_nil qs]
    exact hs.bind (done _)

/-- Rows that are used are those that the channel gave. -/
theorem of_records {q : Fragment} {records : List Row} {qs : List Fragment}
    (h : Runs answer (Session.records q) records qs) :
    ∃ rows, answer q = .ok rows ∧ records = rows.records ∧ qs = [q] := by
  obtain ⟨rows, first, later, hasked, hdone, rfl⟩ := of_bind h
  obtain ⟨hrecords, rfl⟩ := of_done hdone
  obtain ⟨given, rest, hq, hgiven, rfl⟩ := of_ask hasked
  obtain ⟨rfl, rfl⟩ := of_done hgiven
  exact ⟨_, hq, hrecords, rfl⟩

/-- What needs no query asks none. -/
theorem lift {x : Outcome α} {a : α} (h : x = .ok a) :
    Runs answer (Session.ofOutcome x) a [] := by
  rw [h]
  rfl

/-- A result of an outcome goes on without a query. -/
theorem lift_bind {x : Outcome α} {f : α → Session β} {a : α} {b : β} {rs : List Fragment}
    (h : x = .ok a) (hf : Runs answer (f a) b rs) :
    Runs answer (Session.ofOutcome x >>= f) b rs :=
  (lift h).bind hf

theorem rows {q : Fragment} {r : Rows} (h : answer q = .ok r) :
    Runs answer (Session.rows q) r [q] :=
  ask h (done r)

theorem records {q : Fragment} {r : Rows} (h : answer q = .ok r) :
    Runs answer (Session.records q) r.records [q] :=
  (rows h).bind (done _)

theorem scalar {q : Fragment} {r : Rows} {v : Value} (h : answer q = .ok r)
    (hv : r.scalar = .ok v) : Runs answer (Session.scalar q) v [q] :=
  (rows h).bind (lift hv)

theorem count {q : Fragment} {r : Rows} {v : Value} {n : Int} (h : answer q = .ok r)
    (hv : r.scalar = .ok v) (hn : v.toCount = .ok n) : Runs answer (Session.count q) n [q] :=
  (scalar h hv).bind (lift hn)

/-- Checks that nothing fails ask no query. -/
theorem checks (p : α → Bool) {x : α → Outcome β} {xs : List α} (h : ∀ a ∈ xs, ∃ b, x a = .ok b) :
    Runs answer (xs.forM fun a => if p a then discard (Session.ofOutcome (x a)) else pure ())
      PUnit.unit [] := by
  induction xs with
  | nil => exact done _
  | cons a xs ih =>
    obtain ⟨⟨b, hb⟩, hxs⟩ := List.forall_mem_cons.1 h
    have hone : Runs answer (if p a then discard (Session.ofOutcome (x a)) else pure ())
        PUnit.unit [] := by
      rw [hb]
      cases p a with
      | true => rfl
      | false => rfl
    exact hone.bind (ih hxs)

end Runs

/-! ## Beginnings -/

/-- On the channel the first session asks the queries and goes on as the second. -/
def Leads (answer : Fragment → Reply) (s : Session α) (queries : List Fragment) (t : Session α) :
    Prop :=
  s.against answer = ((t.against answer).1, queries ++ (t.against answer).2)

namespace Leads

variable {answer : Fragment → Reply}

theorem refl (s : Session α) : Leads answer s [] s := rfl

theorem runs {s t : Session α} {a : α} {qs rs : List Fragment} (h : Leads answer s qs t)
    (ht : Runs answer t a rs) : Runs answer s a (qs ++ rs) := by
  unfold Runs
  rw [h, ht]

/-- Where the second fails at once, the first does after the queries. -/
theorem fails {s : Session α} {e : Failure} {qs : List Fragment}
    (h : Leads answer s qs (.fail e)) : s.against answer = (.error e, qs) :=
  h.trans (Prod.ext rfl (List.append_nil qs))

end Leads

theorem Runs.leads {answer : Fragment → Reply} {s : Session α} {f : α → Session β} {a : α}
    {t : Session β} {qs rs : List Fragment} (hs : Runs answer s a qs)
    (hf : Leads answer (f a) rs t) : Leads answer (s >>= f) (qs ++ rs) t := by
  unfold Leads
  rw [hs.against_bind f, hf, List.append_assoc]

/-! ## What a session may ask -/

namespace Session

variable {Q : Fragment → Prop} {P : α → Prop} {R : β → Prop}

/-- Every query of the session has the one property and every result the other, whatever the channel
answers. -/
def Within (Q : Fragment → Prop) (P : α → Prop) : Session α → Prop
  | .done a => P a
  | .fail _ => True
  | .ask q next => Q q ∧ ∀ rows, (next rows).Within Q P

namespace Within

theorem bind {s : Session α} {f : α → Session β} (hs : s.Within Q P)
    (hf : ∀ a, P a → (f a).Within Q R) : (s >>= f).Within Q R := by
  show (s.bind f).Within Q R
  induction s with
  | done a => exact hf a hs
  | fail e => exact trivial
  | ask q next ih => exact ⟨hs.1, fun rows => ih rows (hs.2 rows)⟩

theorem lift {x : Outcome α} (h : Outcome.Yields (fun _ => True) P x) :
    (ofOutcome x).Within Q P := by
  cases h with
  | ok ha => exact ha
  | error _ => exact trivial

theorem forM {f : α → Session PUnit} (h : ∀ a, (f a).Within Q fun _ => True) (xs : List α) :
    (xs.forM f).Within Q fun _ => True := by
  induction xs with
  | nil => exact trivial
  | cons x xs ih => exact (h x).bind fun _ _ => ih

/-- Checks ask nothing. -/
theorem checks (p : α → Bool) (x : α → Outcome β) (xs : List α) :
    (xs.forM fun a => if p a then discard (ofOutcome (x a)) else pure ()).Within Q
      fun _ => True := by
  refine forM (fun a => ?_) xs
  cases p a with
  | false => exact trivial
  | true =>
    cases x a with
    | ok b => exact trivial
    | error e => exact trivial

theorem records {q : Fragment} (h : Q q) : (records q).Within Q fun _ => True :=
  ⟨h, fun _ => trivial⟩

theorem of_runs {s : Session α} (h : s.Within Q P) {answer : Fragment → Reply} {a : α}
    {qs : List Fragment} (hs : Runs answer s a qs) : P a := by
  induction s generalizing qs with
  | done c =>
    obtain ⟨rfl, -⟩ := Runs.of_done hs
    exact h
  | fail e => simp [Runs, against] at hs
  | ask q next ih =>
    obtain ⟨rows, later, -, hnext, -⟩ := Runs.of_ask hs
    exact ih rows (h.2 rows) hnext

/-- Channels that agree on what the session may ask give the same outcome and queries. -/
theorem against_eq {s : Session α} (h : s.Within Q P) {a₁ a₂ : Fragment → Reply}
    (hagree : ∀ q, Q q → a₁ q = a₂ q) : s.against a₁ = s.against a₂ := by
  induction s with
  | done a => rfl
  | fail e => rfl
  | ask q next ih =>
    simp only [against, hagree q h.1]
    cases a₂ q with
    | error detail => rfl
    | ok rows => simp only [ih rows (h.2 rows)]

end Within

end Session

/-! ## How a session may fail -/

namespace Session

variable {E : Failure → Prop} {Q : Fragment → Prop} {P : α → Prop} {R : β → Prop}

/-- Every failure of the session itself, every query and every result has its property, whatever the
channel answers. -/
inductive Yields (E : Failure → Prop) (Q : Fragment → Prop) (P : α → Prop) : Session α → Prop
  | done {a : α} (h : P a) : Yields E Q P (.done a)
  | fail {e : Failure} (h : E e) : Yields E Q P (.fail e)
  | ask {q : Fragment} {next : Rows → Session α} (hq : Q q)
      (hnext : ∀ rows, Yields E Q P (next rows)) : Yields E Q P (.ask q next)

namespace Yields

theorem bind {s : Session α} {f : α → Session β} (hs : s.Yields E Q P)
    (hf : ∀ a, P a → (f a).Yields E Q R) : (s >>= f).Yields E Q R := by
  show (s.bind f).Yields E Q R
  induction hs with
  | done h => exact hf _ h
  | fail h => exact .fail h
  | ask hq _ ih => exact .ask hq ih

theorem lift {x : Outcome α} (h : Outcome.Yields E P x) : (ofOutcome x).Yields E Q P := by
  cases h with
  | ok ha => exact .done ha
  | error he => exact .fail he

theorem records {q : Fragment} (h : Q q) : (records q).Yields E Q fun _ => True :=
  .ask h fun _ => .done trivial

theorem mono {E' : Failure → Prop} {Q' : Fragment → Prop} {P' : α → Prop} {s : Session α}
    (h : s.Yields E Q P) (hE : ∀ e, E e → E' e) (hQ : ∀ q, Q q → Q' q) (hP : ∀ a, P a → P' a) :
    s.Yields E' Q' P' := by
  induction h with
  | done h => exact .done (hP _ h)
  | fail h => exact .fail (hE _ h)
  | ask hq _ ih => exact .ask (hQ _ hq) ih

theorem any (s : Session α) : s.Yields (fun _ => True) (fun _ => True) fun _ => True := by
  induction s with
  | done a => exact .done trivial
  | fail e => exact .fail trivial
  | ask q next ih => exact .ask trivial ih

theorem replay_ok {s : Session α} (h : s.Yields E Q P) {replies : List Reply} {a : α}
    {qs : List Fragment} (hs : s.replay replies = (.ok a, qs)) : P a := by
  induction h generalizing replies qs with
  | done h => exact Except.ok.inj (congrArg Prod.fst hs) ▸ h
  | fail h => exact nomatch congrArg Prod.fst hs
  | ask _ _ ih =>
    obtain ⟨rows, later, -, hnext, -⟩ := of_replay_ask hs
    exact ih rows hnext

/-- A failure is one of the session or one of the channel. -/
theorem replay_error {s : Session α} (h : s.Yields E Q P) {replies : List Reply} {e : Failure}
    (he : (s.replay replies).1 = .error e) : E e ∨ ∃ detail sql, e = .channel detail sql := by
  induction h generalizing replies with
  | done h => cases he
  | fail h =>
    obtain rfl := Except.error.inj he
    exact .inl h
  | @ask q next hq _ ih =>
    simp only [replay] at he
    cases hreply : replies.headD exhausted with
    | error detail =>
      rw [hreply] at he
      exact .inr ⟨detail, q.sql, (Except.error.inj he).symm⟩
    | ok rows =>
      rw [hreply] at he
      exact ih rows he

theorem replay_queries {s : Session α} (h : s.Yields E Q P) (replies : List Reply) :
    ∀ q ∈ (s.replay replies).2, Q q := by
  induction h generalizing replies with
  | done h => exact List.forall_mem_nil _
  | fail h => exact List.forall_mem_nil _
  | ask hq _ ih =>
    simp only [replay]
    cases replies.headD exhausted with
    | error detail => exact List.forall_mem_singleton.2 hq
    | ok rows => exact List.forall_mem_cons.2 ⟨hq, ih rows replies.tail⟩

end Yields

end Session

/-! ## Rows of one column -/

/-- The rows of one column. -/
def Rows.ofColumn (column : String) (values : List Value) : Rows :=
  ⟨[column], values.map fun v => [v]⟩

theorem Rows.records_ofColumn (column : String) (values : List Value) :
    (Rows.ofColumn column values).records = values.map fun v => [(column, v)] := by
  simp only [Rows.records, Rows.ofColumn, List.map_map]
  rfl

/-- The values of a column come back from its rows. -/
theorem columnOf_ofColumn (column : String) (values : List Value) :
    columnOf column (Rows.ofColumn column values).records = .ok values := by
  have hget : ∀ v ∈ values, Row.get column [(column, v)] = .ok (id v) := fun v _ => by
    simp [Row.get, valueOf?]
  rw [Rows.records_ofColumn, columnOf, Outcome.mapM_map_eq hget, List.map_id]

/-- One value in one row is the scalar of its rows. -/
theorem Rows.scalar_ofColumn (column : String) (v : Value) :
    (Rows.ofColumn column [v]).scalar = .ok v := by
  simp [Rows.scalar, Rows.ofColumn, Rows.records, namedValues, setNamed, valueOf?]

/-- A whole number counts as itself. -/
theorem Value.toCount_int (n : Int) : (Value.int n).toCount = .ok n := by
  unfold Value.toCount
  by_cases h : n = 0
  · rw [h]
    rfl
  · have htruthy : (Value.int n).truthy = true := bne_iff_ne.2 h
    rw [if_pos htruthy]
    rfl

end Crosstab
