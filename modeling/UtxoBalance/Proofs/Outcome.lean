import Mathlib

/-!
# Outcomes

An operation gives a value or an error. When one operation follows another, both have to
give a value. In a traversal of a list every element has to, and else the first that does
not is the one whose error ends the traversal.

## Main definitions

- `FirstIn` — an element of a list, and what is known of those before it

## Main statements

- `bind_eq_ok_iff` — one operation after another
- `mapM_eq_ok_iff`, `mapM_eq_error_iff` — what a traversal comes to
- `mapM_of_mapM` — a traversal of what a traversal gave
-/

namespace UtxoBalance

variable {α β ε : Type}

theorem bind_eq_ok_iff {first : Except ε α} {next : α → Except ε β} {b : β} :
    first >>= next = .ok b ↔ ∃ a, first = .ok a ∧ next a = .ok b := by
  cases first with
  | error failure => simp [bind, Except.bind]
  | ok a => simp [bind, Except.bind]

theorem bind_eq_error_iff {first : Except ε α} {next : α → Except ε β} {e : ε} :
    first >>= next = .error e ↔ first = .error e ∨ ∃ a, first = .ok a ∧ next a = .error e := by
  cases first with
  | error failure => simp [bind, Except.bind]
  | ok a => simp [bind, Except.bind]

/-- What one operation after another gives, by their values alone. -/
theorem exists_of_toOption_bind {first : Except ε α} {next : α → Except ε β} {b : β}
    (h : (first.toOption.bind fun a => (next a).toOption) = some b) :
    ∃ a, first = .ok a ∧ next a = .ok b := by
  cases first with
  | error e => cases h
  | ok a =>
    change (next a).toOption = some b at h
    cases hnext : next a with
    | error e =>
      rw [hnext] at h
      cases h
    | ok c =>
      rw [hnext] at h
      cases h
      exact ⟨a, rfl, hnext⟩

theorem map_eq_ok_iff {f : α → β} {outcome : Except ε α} {b : β} :
    f <$> outcome = .ok b ↔ ∃ a, outcome = .ok a ∧ f a = b := by
  cases outcome with
  | error e => simp [Functor.map, Except.map]
  | ok a => simp [Functor.map, Except.map]

theorem map_eq_error_iff {f : α → β} {outcome : Except ε α} {e : ε} :
    f <$> outcome = .error e ↔ outcome = .error e := by
  cases outcome with
  | error other => simp [Functor.map, Except.map]
  | ok a => simp [Functor.map, Except.map]

theorem mapError_eq_ok_iff {δ : Type} {f : ε → δ} {outcome : Except ε α} {a : α} :
    outcome.mapError f = .ok a ↔ outcome = .ok a := by
  cases outcome with
  | error e => simp [Except.mapError]
  | ok b => simp [Except.mapError]

theorem mapError_eq_error_iff {δ : Type} {f : ε → δ} {outcome : Except ε α} {e : δ} :
    outcome.mapError f = .error e ↔ ∃ fault, outcome = .error fault ∧ f fault = e := by
  cases outcome with
  | error fault => simp [Except.mapError]
  | ok a => simp [Except.mapError]

/-! ## Traversals -/

/-- Whether some element of a list is as asked, and all elements before it are as asked of
    those. -/
def FirstIn (Before At : α → Prop) (items : List α) : Prop :=
  ∃ before item after, items = before ++ item :: after ∧ (∀ other ∈ before, Before other) ∧
    At item

theorem not_firstIn_nil {Before At : α → Prop} : ¬FirstIn Before At [] := by
  rintro ⟨before, item, after, heq, -⟩
  exact List.append_ne_nil_of_right_ne_nil before (List.cons_ne_nil item after) heq.symm

theorem firstIn_cons_iff {Before At : α → Prop} {item : α} {rest : List α} :
    FirstIn Before At (item :: rest) ↔ At item ∨ Before item ∧ FirstIn Before At rest := by
  constructor
  · rintro ⟨before, other, after, heq, hbefore, hother⟩
    cases before with
    | nil =>
      cases heq
      exact .inl hother
    | cons first more =>
      cases heq
      obtain ⟨hfirst, hmore⟩ := List.forall_mem_cons.1 hbefore
      exact .inr ⟨hfirst, more, other, after, rfl, hmore, hother⟩
  · rintro (hitem | ⟨hitem, before, other, after, rfl, hbefore, hother⟩)
    · exact ⟨[], item, rest, rfl, by simp, hitem⟩
    · exact ⟨item :: before, other, after, rfl, List.forall_mem_cons.2 ⟨hitem, hbefore⟩, hother⟩

theorem FirstIn.exists_mem {Before At : α → Prop} {items : List α}
    (h : FirstIn Before At items) : ∃ item ∈ items, At item := by
  obtain ⟨before, item, after, rfl, -, hitem⟩ := h
  exact ⟨item, by simp, hitem⟩

theorem mapM_eq_ok_iff {f : α → Except ε β} {items : List α} {values : List β} :
    items.mapM f = .ok values ↔
      List.Forall₂ (fun item value => f item = .ok value) items values := by
  induction items generalizing values with
  | nil =>
    rw [List.forall₂_nil_left_iff]
    exact ⟨fun h => by cases h; rfl, fun h => by rw [h]; rfl⟩
  | cons item rest ih =>
    rw [List.mapM_cons, bind_eq_ok_iff, List.forall₂_cons_left_iff]
    simp only [bind_eq_ok_iff, ih]
    constructor
    · rintro ⟨value, hvalue, more, hmore, ⟨⟩⟩
      exact ⟨value, more, hvalue, hmore, rfl⟩
    · rintro ⟨value, more, hvalue, hmore, rfl⟩
      exact ⟨value, hvalue, more, hmore, rfl⟩

/-- The error of a traversal is that of the first element that gives one. -/
theorem mapM_eq_error_iff {f : α → Except ε β} {items : List α} {e : ε} :
    items.mapM f = .error e ↔
      FirstIn (fun item => ∃ value, f item = .ok value) (fun item => f item = .error e) items := by
  induction items with
  | nil => exact ⟨nofun, fun h => absurd h not_firstIn_nil⟩
  | cons item rest ih =>
    rw [List.mapM_cons, bind_eq_error_iff, firstIn_cons_iff, ← ih]
    refine or_congr_right ?_
    constructor
    · rintro ⟨value, hvalue, hrest⟩
      rcases bind_eq_error_iff.1 hrest with hmore | ⟨more, -, ⟨⟩⟩
      exact ⟨⟨value, hvalue⟩, hmore⟩
    · rintro ⟨⟨value, hvalue⟩, hrest⟩
      exact ⟨value, hvalue, bind_eq_error_iff.2 (.inl hrest)⟩

theorem exists_mapM_eq_ok_iff {f : α → Except ε β} {items : List α} :
    (∃ values, items.mapM f = .ok values) ↔ ∀ item ∈ items, ∃ value, f item = .ok value := by
  constructor
  · rintro ⟨values, hvalues⟩
    rw [mapM_eq_ok_iff] at hvalues
    induction hvalues with
    | nil => simp
    | cons hfirst _ ih => exact List.forall_mem_cons.2 ⟨⟨_, hfirst⟩, ih⟩
  · intro h
    cases hvalues : items.mapM f with
    | ok values => exact ⟨values, rfl⟩
    | error e =>
      obtain ⟨item, hitem, herror⟩ := (mapM_eq_error_iff.1 hvalues).exists_mem
      obtain ⟨value, hvalue⟩ := h item hitem
      rw [herror] at hvalue
      cases hvalue

/-- A traversal that leaves each of the values that it can give as it is also leaves the list of
    them as it is. -/
theorem mapM_of_mapM {f : α → Except ε α}
    (hf : ∀ item value, f item = .ok value → f value = .ok value) {items values : List α}
    (h : items.mapM f = .ok values) : values.mapM f = .ok values := by
  rw [mapM_eq_ok_iff] at h
  induction h with
  | nil => rfl
  | cons hfirst _ ih =>
    rw [List.mapM_cons, hf _ _ hfirst, ih]
    rfl

/-- A traversal in which each element succeeds under a condition of its own, and all fail
    in one way. -/
theorem mapM_eq_ite {f : α → Except ε β} {p : α → Bool} {g : α → β} {e : ε}
    {values : List α} (h : ∀ a ∈ values, f a = if p a then .ok (g a) else .error e) :
    values.mapM f = if values.all p then .ok (values.map g) else .error e := by
  induction values with
  | nil => rfl
  | cons a rest ih =>
    obtain ⟨ha, hrest⟩ := List.forall_mem_cons.1 h
    rw [List.mapM_cons, ha, ih hrest]
    cases hp : p a with
    | false => simp [hp, bind, Except.bind]
    | true =>
      cases hall : rest.all p with
      | false => simp [hp, hall, bind, Except.bind]
      | true => simp [hp, hall, bind, Except.bind, pure, Except.pure]

end UtxoBalance
