import AuditReport.Note
import Mathlib.Data.List.Forall2

/-!
# Outcomes of noted computations

Leaving the notes aside, a noted computation goes on with the outcome of its first part. A list of
computations succeeds exactly if each of them does, and then gives their values in order. A computation
whose parts have faults of one kind only has no other faults.
-/
namespace AuditReport

/-- Lists made item by item of related lists are together the same up to order. -/
theorem flatMap_perm_of_forall₂ {α β γ : Type} {R : α → β → Prop} {as : List α} {bs : List β}
    (h : List.Forall₂ R as bs) {u : β → List γ} {v : α → List γ}
    (huv : ∀ a ∈ as, ∀ b, R a b → (u b).Perm (v a)) : (bs.flatMap u).Perm (as.flatMap v) := by
  induction h with
  | nil => exact List.Perm.nil
  | cons hab _ ih =>
    have hrest := ih fun a ha => huv a (List.mem_cons_of_mem _ ha)
    rw [List.flatMap_cons, List.flatMap_cons]
    exact (huv _ List.mem_cons_self _ hab).append hrest

theorem exists_right_of_forall₂ {α β : Type} {R : α → β → Prop} {as : List α} {bs : List β}
    (h : List.Forall₂ R as bs) {a : α} (ha : a ∈ as) : ∃ b ∈ bs, R a b := by
  induction h with
  | nil => cases ha
  | cons hab _ ih =>
    rcases List.mem_cons.mp ha with rfl | ha
    · exact ⟨_, List.mem_cons_self, hab⟩
    · obtain ⟨b, hb, hab⟩ := ih ha
      exact ⟨b, List.mem_cons_of_mem _ hb, hab⟩

section FirstFault

variable {α β : Type} {f : α → Except Fault β}

def Reached (f : α → Except Fault β) (as : List α) (a : α) : Prop :=
  ∃ before after, as = before ++ a :: after ∧ ∀ b ∈ before, ∃ c, f b = .ok c

theorem Reached.mem {as : List α} {a : α} (h : Reached f as a) : a ∈ as := by
  obtain ⟨before, after, rfl, _⟩ := h
  simp

theorem reached_cons_iff {x : α} {as : List α} {a : α} :
    Reached f (x :: as) a ↔ a = x ∨ (∃ c, f x = .ok c) ∧ Reached f as a := by
  constructor
  · rintro ⟨before, after, hsplit, hbefore⟩
    cases before with
    | nil =>
      cases hsplit
      exact Or.inl rfl
    | cons b before =>
      cases hsplit
      obtain ⟨hx, hbefore⟩ := List.forall_mem_cons.mp hbefore
      exact Or.inr ⟨hx, before, after, rfl, hbefore⟩
  · rintro (rfl | ⟨hx, before, after, rfl, hbefore⟩)
    · exact ⟨[], as, rfl, List.forall_mem_nil _⟩
    · exact ⟨x :: before, after, rfl, List.forall_mem_cons.mpr ⟨hx, hbefore⟩⟩

/-- The first item that has a fault decides on the whole list. -/
theorem mapM_eq_error_iff {as : List α} {e : Fault} :
    as.mapM f = .error e ↔ ∃ a, Reached f as a ∧ f a = .error e := by
  induction as with
  | nil => simp [Reached, pure, Except.pure]
  | cons x as ih =>
    have hcons : (x :: as).mapM f = .error e ↔
        f x = .error e ∨ (∃ c, f x = .ok c) ∧ as.mapM f = .error e := by
      rw [List.mapM_cons]
      cases f x with
      | error d => simp [bind, Except.bind]
      | ok c => cases as.mapM f <;> simp [bind, Except.bind, pure, Except.pure]
    rw [hcons, ih]
    simp only [reached_cons_iff]
    constructor
    · rintro (hx | ⟨hx, a, ha, he⟩)
      · exact ⟨x, Or.inl rfl, hx⟩
      · exact ⟨a, Or.inr ⟨hx, ha⟩, he⟩
    · rintro ⟨a, rfl | ⟨hx, ha⟩, he⟩
      · exact Or.inl he
      · exact Or.inr ⟨hx, a, ha, he⟩

end FirstFault

theorem exists_left_of_forall₂ {α β : Type} {R : α → β → Prop} {as : List α} {bs : List β}
    (h : List.Forall₂ R as bs) {b : β} (hb : b ∈ bs) : ∃ a ∈ as, R a b :=
  exists_right_of_forall₂ h.flip hb

namespace Noted

variable {α β γ : Type}

@[simp] theorem outcome_pure (a : α) : (pure a : Noted α).outcome = .ok a := rfl

@[simp] theorem outcome_lift (x : Except Fault α) : (liftM x : Noted α).outcome = x := rfl

/-- A value that needs no work is handed on. -/
theorem lift_ok_bind (a : α) (f : α → Noted β) :
    (liftM (.ok a : Except Fault α) : Noted α) >>= f = f a := rfl

@[simp] theorem outcome_bind (x : Noted α) (f : α → Noted β) :
    (x >>= f).outcome = x.outcome >>= fun a => (f a).outcome := by
  change (Noted.bind x f).outcome = _
  unfold Noted.bind
  cases x.outcome <;> rfl

theorem bind_eq_ok_iff {x : Except Fault α} {f : α → Except Fault β} {b : β} :
    x >>= f = .ok b ↔ ∃ a, x = .ok a ∧ f a = .ok b := by
  constructor
  · intro h
    cases x with
    | error e => cases h
    | ok a => exact ⟨a, rfl, h⟩
  · rintro ⟨a, rfl, h⟩
    exact h

theorem outcome_bind_eq_ok_iff {x : Noted α} {f : α → Noted β} {b : β} :
    (x >>= f).outcome = .ok b ↔ ∃ a, x.outcome = .ok a ∧ (f a).outcome = .ok b := by
  rw [outcome_bind, bind_eq_ok_iff]

theorem toOption_join_eq_some_iff {x : Except Fault (Option α)} {a : α} :
    x.toOption.join = some a ↔ x = .ok (some a) := by
  cases x with
  | error e => simp [Except.toOption]
  | ok o => simp [Except.toOption]

theorem outcome_each_eq_ok_iff {f : α → Noted β} {as : List α} {bs : List β} :
    (each f as).outcome = .ok bs ↔ List.Forall₂ (fun a b => (f a).outcome = .ok b) as bs := by
  induction as generalizing bs with
  | nil =>
    rw [List.forall₂_nil_left_iff, each, outcome_pure, Except.ok.injEq]
    exact eq_comm
  | cons a as ih =>
    simp only [each, outcome_bind_eq_ok_iff, outcome_pure, Except.ok.injEq]
    constructor
    · rintro ⟨b, hb, cs, hcs, rfl⟩
      exact List.Forall₂.cons hb (ih.mp hcs)
    · intro h
      cases h with
      | cons hb hbs => exact ⟨_, hb, _, ih.mpr hbs, rfl⟩

theorem bind_eq_error_iff {x : Except Fault α} {f : α → Except Fault β} {e : Fault} :
    x >>= f = .error e ↔ x = .error e ∨ ∃ a, x = .ok a ∧ f a = .error e := by
  cases x with
  | error d => simp [bind, Except.bind]
  | ok a => simp [bind, Except.bind]

theorem outcome_bind_eq_error_iff {x : Noted α} {f : α → Noted β} {e : Fault} :
    (x >>= f).outcome = .error e ↔
      x.outcome = .error e ∨ ∃ a, x.outcome = .ok a ∧ (f a).outcome = .error e := by
  rw [outcome_bind, bind_eq_error_iff]

/-- What cannot fail adds no fault. -/
theorem outcome_bind_ok_eq_error_iff {x : Noted α} {f : α → Noted β} {e : Fault}
    (hf : ∀ a, ∃ b, (f a).outcome = .ok b) : (x >>= f).outcome = .error e ↔ x.outcome = .error e := by
  rw [outcome_bind_eq_error_iff, or_iff_left]
  rintro ⟨a, _, ha⟩
  obtain ⟨b, hb⟩ := hf a
  cases hb.symm.trans ha

theorem outcome_each (f : α → Noted β) (as : List α) :
    (each f as).outcome = as.mapM fun a => (f a).outcome := by
  induction as with
  | nil => rfl
  | cons a as ih =>
    simp only [each, outcome_bind, outcome_pure, ih, List.mapM_cons]
    rfl

/-- The fault of a list of computations is that of the first that has one. -/
theorem outcome_each_eq_error_iff {f : α → Noted β} {as : List α} {e : Fault} :
    (each f as).outcome = .error e ↔
      ∃ a, Reached (fun a => (f a).outcome) as a ∧ (f a).outcome = .error e := by
  rw [outcome_each, mapM_eq_error_iff]

theorem exists_of_outcome_each_eq_error {f : α → Noted β} {as : List α} {e : Fault}
    (h : (each f as).outcome = .error e) : ∃ a ∈ as, (f a).outcome = .error e := by
  obtain ⟨a, ha, he⟩ := outcome_each_eq_error_iff.mp h
  exact ⟨a, ha.mem, he⟩

theorem exists_outcome_each_eq_error {f : α → Noted β} {as : List α} {a : α} (ha : a ∈ as) {e : Fault}
    (h : (f a).outcome = .error e) : ∃ d, (each f as).outcome = .error d := by
  cases heach : (each f as).outcome with
  | error d => exact ⟨d, rfl⟩
  | ok bs =>
    obtain ⟨b, _, hb⟩ := exists_right_of_forall₂ (outcome_each_eq_ok_iff.mp heach) ha
    rw [h] at hb
    cases hb

theorem outcome_bind_map {x : Noted α} {f g : α → Noted β} {h : β → β}
    (hfg : ∀ a, (f a).outcome = (g a).outcome.map h) :
    (x >>= f).outcome = (x >>= g).outcome.map h := by
  rw [outcome_bind, outcome_bind]
  cases x.outcome with
  | error e => rfl
  | ok a => exact hfg a

/-- What is done to every value afterwards is done to the list of values. -/
theorem outcome_each_map {f g : α → Noted β} {h : β → β}
    (hfg : ∀ a, (f a).outcome = (g a).outcome.map h) (as : List α) :
    (each f as).outcome = (each g as).outcome.map (List.map h) := by
  induction as with
  | nil => rfl
  | cons a as ih =>
    simp only [each, outcome_bind, outcome_pure, hfg a, ih]
    cases (g a).outcome with
    | error e => rfl
    | ok b => cases (each g as).outcome <;> rfl

/-- What is made of every value can be made of the items instead. -/
theorem filterMap_each {f : α → Noted β} {as : List α} {bs : List β}
    (h : (each f as).outcome = .ok bs) {u : β → Option γ} {v : α → Option γ}
    (huv : ∀ a ∈ as, ∀ b, (f a).outcome = .ok b → u b = v a) : bs.filterMap u = as.filterMap v := by
  rw [outcome_each_eq_ok_iff] at h
  induction h with
  | nil => rfl
  | cons hfa _ ih =>
    have hrest := ih fun a ha => huv a (List.mem_cons_of_mem _ ha)
    rw [List.filterMap_cons, List.filterMap_cons, huv _ List.mem_cons_self _ hfa, hrest]

end Noted

section Faults

variable {α β : Type}

def FaultsIn (P : Fault → Prop) (x : Except Fault α) : Prop :=
  ∀ e, x = .error e → P e

namespace FaultsIn

variable {P : Fault → Prop}

theorem ok (a : α) : FaultsIn P (.ok a) :=
  nofun

theorem error {e : Fault} (h : P e) : FaultsIn P (.error e : Except Fault α) := by
  intro f hf
  cases hf
  exact h

theorem bind {x : Except Fault α} {f : α → Except Fault β} (hx : FaultsIn P x)
    (hf : ∀ a, x = .ok a → FaultsIn P (f a)) : FaultsIn P (x >>= f) := by
  cases x with
  | error e => exact error (hx e rfl)
  | ok a => exact hf a rfl

theorem map {x : Except Fault α} (hx : FaultsIn P x) (f : α → β) : FaultsIn P (x.map f) := by
  cases x with
  | error e => exact error (hx e rfl)
  | ok a => exact ok (f a)

theorem outcome_bind {x : Noted α} {f : α → Noted β} (hx : FaultsIn P x.outcome)
    (hf : ∀ a, x.outcome = .ok a → FaultsIn P (f a).outcome) : FaultsIn P (x >>= f).outcome := by
  rw [Noted.outcome_bind]
  exact hx.bind hf

theorem outcome_each {f : α → Noted β} {as : List α} (h : ∀ a ∈ as, FaultsIn P (f a).outcome) :
    FaultsIn P (Noted.each f as).outcome := by
  intro e he
  obtain ⟨a, ha, hae⟩ := Noted.exists_of_outcome_each_eq_error he
  exact h a ha e hae

theorem outcome_any {f : α → Noted Bool} {as : List α} (h : ∀ a ∈ as, FaultsIn P (f a).outcome) :
    FaultsIn P (Noted.any f as).outcome := by
  induction as with
  | nil => exact ok false
  | cons a as ih =>
    apply outcome_bind (h a List.mem_cons_self)
    intro b _
    cases b with
    | true => exact ok true
    | false => exact ih fun c hc => h c (List.mem_cons_of_mem a hc)

end FaultsIn

def HasDefect (x : Except Fault α) : Prop :=
  ∃ d, x = .error (.defect d)

theorem hasDefect_bind_iff {x : Except Fault α} {f : α → Except Fault β} :
    HasDefect (x >>= f) ↔ HasDefect x ∨ ∃ a, x = .ok a ∧ HasDefect (f a) := by
  cases x <;> simp [HasDefect, Bind.bind, Except.bind]

theorem hasDefect_error_iff {e : Fault} :
    HasDefect (.error e : Except Fault α) ↔ ∃ d, e = .defect d := by
  simp [HasDefect]

theorem not_hasDefect_ok (a : α) : ¬ HasDefect (.ok a : Except Fault α) := by
  simp [HasDefect]

end Faults
end AuditReport
