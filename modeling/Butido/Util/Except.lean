import Mathlib.Data.List.Forall2

/-!
# `mapM` in `Except`

`collect::<Result<Vec<_>>>()` over a list of fallible calls is `List.mapM` in `Except`: it
succeeds iff every call does, and then yields their results in order (`mapM_eq_ok_iff`); it
fails with the error of one of the calls (`mapM_eq_error`).
-/

namespace Butido

section MapM

variable {α β ε : Type} {f : α → Except ε β}

/-- The bind of one step of `mapM` in `Except`. -/
private theorem cons_bind_eq_ok {fx : Except ε β} {fxs : Except ε (List β)} {ys : List β} :
    (do let b ← fx; let bs ← fxs; pure (b :: bs)) = .ok ys ↔
      ∃ b bs, fx = .ok b ∧ fxs = .ok bs ∧ ys = b :: bs := by
  cases fx <;> cases fxs <;> simp [bind, Except.bind, pure, Except.pure, eq_comm]

/-- One bind of a successful `Except` computation, peeled. -/
theorem bind_eq_ok {x : Except ε α} {g : α → Except ε β} {b : β} :
    x >>= g = .ok b ↔ ∃ a, x = .ok a ∧ g a = .ok b := by
  cases x <;> simp [bind, Except.bind]

/-- `mapError` keeps a success. -/
theorem mapError_eq_ok {ε' : Type} {x : Except ε α} {h : ε → ε'} {a : α} :
    x.mapError h = .ok a ↔ x = .ok a := by
  cases x <;> simp [Except.mapError]

/-- `mapM` succeeds with `ys` iff `f` maps the inputs to `ys` one by one. -/
theorem mapM_eq_ok_iff : ∀ {xs : List α} {ys : List β},
    xs.mapM f = .ok ys ↔ List.Forall₂ (fun x y => f x = .ok y) xs ys
  | [], ys => by rw [List.mapM_nil]; cases ys <;> simp [pure, Except.pure]
  | x :: xs, ys => by
    rw [List.mapM_cons, cons_bind_eq_ok]
    cases ys with
    | nil => simp
    | cons y ys =>
      rw [List.forall₂_cons, ← mapM_eq_ok_iff]
      constructor
      · rintro ⟨b, bs, hb, hbs, h⟩
        obtain ⟨rfl, rfl⟩ := List.cons.inj h
        exact ⟨hb, hbs⟩
      · rintro ⟨hb, hbs⟩
        exact ⟨y, ys, hb, hbs, rfl⟩

/-- Some `ys` relates to `xs` pointwise iff each input relates to some output. -/
theorem exists_forall₂_iff {R : α → β → Prop} :
    ∀ {xs : List α}, (∃ ys, List.Forall₂ R xs ys) ↔ ∀ x ∈ xs, ∃ y, R x y
  | [] => by simp
  | x :: xs => by
    rw [List.forall_mem_cons, ← exists_forall₂_iff]
    constructor
    · rintro ⟨_ | ⟨y, ys⟩, h⟩
      · cases h
      · obtain ⟨hxy, h⟩ := List.forall₂_cons.mp h
        exact ⟨⟨y, hxy⟩, ys, h⟩
    · rintro ⟨⟨y, hxy⟩, ys, h⟩
      exact ⟨y :: ys, .cons hxy h⟩

/-- Pairing each input with the result of its call keeps the inputs, in order. -/
theorem mapM_pair_eq_ok {ε' : Type} {g : α → Except ε β} {h : ε → ε'} {xs : List α}
    {out : List (α × β)}
    (hm : (xs.mapM fun x => do let b ← (g x).mapError h; pure (x, b)) = .ok out) :
    out.map Prod.fst = xs ∧ ∀ p ∈ out, g p.1 = .ok p.2 := by
  have h₂ := mapM_eq_ok_iff.mp hm
  clear hm
  induction h₂ with
  | nil => simp
  | @cons x p xs out hxp _ ih =>
    rcases hg : g x with e | b <;>
      simp only [hg, Except.mapError, bind, Except.bind, pure, Except.pure] at hxp
    · cases hxp
    · cases hxp
      exact ⟨by rw [List.map_cons, ih.1], List.forall_mem_cons.mpr ⟨hg, ih.2⟩⟩

/-- `mapM` succeeds iff every call does. -/
theorem mapM_ok_iff_forall {xs : List α} : (∃ ys, xs.mapM f = .ok ys) ↔ ∀ x ∈ xs, ∃ y, f x = .ok y :=
  (exists_congr fun _ => mapM_eq_ok_iff).trans exists_forall₂_iff

/-- The results of a successful `mapM` are those of its calls, in order. -/
theorem mapM_eq_ok_filterMap {xs : List α} {ys : List β} (h : xs.mapM f = .ok ys) :
    ys = xs.filterMap fun x => (f x).toOption := by
  have h₂ := mapM_eq_ok_iff.mp h
  clear h
  induction h₂ with
  | nil => rfl
  | cons hxy _ ih => simp [List.filterMap_cons, hxy, Except.toOption, ih]

/-- A failed `mapM` fails with the error of one of its calls. -/
theorem mapM_eq_error {e : ε} : ∀ {xs : List α}, xs.mapM f = .error e → ∃ x ∈ xs, f x = .error e
  | [], h => by rw [List.mapM_nil] at h; cases h
  | x :: xs, h => by
    rw [List.mapM_cons] at h
    cases hx : f x with
    | error e' =>
      simp only [hx, bind, Except.bind, Except.error.injEq] at h
      exact ⟨x, List.mem_cons_self _ _, h ▸ hx⟩
    | ok b =>
      cases hxs : xs.mapM f with
      | error e' =>
        simp only [hx, hxs, bind, Except.bind, Except.error.injEq] at h
        obtain ⟨x', hx', he⟩ := mapM_eq_error (h ▸ hxs)
        exact ⟨x', List.mem_cons_of_mem _ hx', he⟩
      | ok bs => simp only [hx, hxs, bind, Except.bind, pure, Except.pure, reduceCtorEq] at h

/-- After a successful `mapM`, a `flatMap` over its results is one over its inputs. -/
theorem mapM_eq_ok_flatMap {γ : Type} {xs : List α} {ys : List β} (h : xs.mapM f = .ok ys)
    (g : β → List γ) : ys.flatMap g = xs.flatMap fun x => ((f x).toOption.map g).getD [] := by
  have h₂ := mapM_eq_ok_iff.mp h
  clear h
  induction h₂ with
  | nil => rfl
  | cons hxy _ ih => simp [hxy, Except.toOption, ih]

/-- `mapM` in `Option` over calls that all return. -/
theorem mapM_option_some {g : α → β} : ∀ xs : List α, xs.mapM (fun x => some (g x)) = some (xs.map g)
  | [] => rfl
  | x :: xs => by rw [List.mapM_cons, mapM_option_some xs]; rfl

end MapM

end Butido
