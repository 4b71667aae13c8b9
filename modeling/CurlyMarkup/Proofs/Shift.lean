import CurlyMarkup.Proofs.Outcomes
import CurlyMarkup.Rule.Progress
set_option autoImplicit false

/-!
What precedes a place. Behind any other text a rule has the outcome that it has without it, and
each place in the outcome has moved by the length of that text.
-/

namespace CurlyMarkup

/-- The place `n` characters further on, in the text `t`. -/
def Cursor.shift (t : Text) (n : Nat) (c : Cursor) : Cursor := place t (n+c.offset)

def Failure.shift (t : Text) (n : Nat) (f : Failure) : Failure :=
  { f with cursor := f.cursor.shift t n }

/-- The result whose places have all moved by `n` and into the text `t`. -/
def Result.shift {α : Type} (t : Text) (n : Nat) : Result α → Result α
  | .ok a c => .ok a (c.shift t n)
  | .fail f => .fail (f.shift t n)
  | .endless => .endless

@[simp] theorem Failure.shift_committed (t : Text) (n : Nat) (f : Failure) :
    (f.shift t n).committed = f.committed := rfl

namespace Cursor

variable {c : Cursor} {s : Text} (p : Text)

theorem shift_offset_eq_iff (c d : Cursor) (t : Text) (n : Nat) :
    (d.shift t n).offset = (c.shift t n).offset ↔ d.offset = c.offset :=
  Nat.add_left_cancel_iff

theorem shift_rest (h : c.text = s) : (c.shift (p ++ s) p.length).rest = c.rest := by
  subst h
  rw [c.rest_eq]
  exact List.drop_length_add_append c.offset

theorem shift_skip (t : Text) (n k : Nat) : (c.skip k).shift t n = (c.shift t n).skip k :=
  eq_of_offset_eq rfl (Nat.add_assoc ..).symm

theorem shift_atEnd (h : c.text = s) : (c.shift (p ++ s) p.length).atEnd = c.atEnd := by
  rw [atEnd, shift_rest p h, atEnd]

theorem shift_startsWith (h : c.text = s) (t : Text) :
    (c.shift (p ++ s) p.length).startsWith t = c.startsWith t := by
  cases t with
  | nil =>
    subst h
    simp [startsWith, shift, place]
  | cons x t => rw [startsWith, shift_rest p h, startsWith]

end Cursor

namespace Result

variable {α β η : Type} {p s : Text}

@[simp] theorem shift_ok (t : Text) (n : Nat) (a : α) (c : Cursor) :
    (ok a c).shift t n = ok a (c.shift t n) := rfl

@[simp] theorem shift_fail (t : Text) (n : Nat) (f : Failure) :
    (fail f : Result α).shift t n = fail (f.shift t n) := rfl

@[simp] theorem shift_endless (t : Text) (n : Nat) :
    (endless : Result α).shift t n = endless := rfl

@[simp] theorem shift_map (f : α → β) (t : Text) (n : Nat) (r : Result α) :
    (r.map f).shift t n = (r.shift t n).map f := by
  cases r <;> rfl

/-- The step made at `c` comes out alike behind the text `p`. -/
def ShiftsAt (p : Text) (step : Cursor → Result α) (c : Cursor) : Prop :=
  step (c.shift (p ++ c.text) p.length) = (step c).shift (p ++ c.text) p.length

namespace ShiftsAt

variable {step : Cursor → Result α} {c : Cursor}

theorem map (f : α → β) (h : ShiftsAt p step c) : ShiftsAt p (fun c => (step c).map f) c := by
  rw [ShiftsAt, h, shift_map]

theorem mapFailure {φ : Failure → Failure} (h : ShiftsAt p step c)
    (hφ : ∀ f t n, φ (f.shift t n) = (φ f).shift t n) :
    ShiftsAt p (fun c => (step c).mapFailure φ) c := by
  rw [ShiftsAt, h]
  cases step c with
  | ok | endless => rfl
  | fail f => exact congrArg fail (hφ f _ _)

theorem bind {k : α → Cursor → Result β} (h : ShiftsAt p step c) (hs : (step c).LeadsFrom c)
    (hk : ∀ a d, ShiftsAt p (k a) d) : ShiftsAt p (fun c => (step c).bind k) c := by
  rw [ShiftsAt, h]
  cases hr : step c with
  | ok a d =>
    have hd := (hs a d hr).text_eq
    have hkd := hk a d
    rw [ShiftsAt, hd] at hkd
    exact hkd
  | fail | endless => rfl

theorem recover {other : Cursor → Result α} (h : ShiftsAt p step c) (ho : ShiftsAt p other c) :
    ShiftsAt p (fun c => (step c).recover fun _ => other c) c := by
  rw [ShiftsAt, h, ho]
  cases step c with
  | ok | endless => rfl
  | fail f => cases hc : f.committed <;> simp [hc]

theorem many {step : Cursor → Result α} (h : ∀ c, ShiftsAt p step c)
    (hs : ∀ c, (step c).LeadsFrom c) (bound : Text) (c : Cursor) :
    ShiftsAt p (many step bound) c := by
  rw [ShiftsAt]
  fun_induction Result.many step bound c with
  | case3 c a d hd hne x bound ih =>
    rw [Result.many, h, hd, ← (hs c a d hd).text_eq]
    simp [Cursor.shift_offset_eq_iff, hne, ih]
  | case1 | case2 | case4 | case5 | case6 =>
    rw [Result.many.eq_def, h]
    simp [*, Cursor.shift_offset_eq_iff]

theorem separated {item : Cursor → Result α} {separator : Cursor → Result β}
    (h : ∀ c, ShiftsAt p item c) (hi : ∀ c, (item c).LeadsFrom c)
    (k : ∀ c, ShiftsAt p separator c) (hs : ∀ c, (separator c).LeadsFrom c) (bound : Text)
    (c : Cursor) : ShiftsAt p (separated item separator bound) c := by
  have behind {c d : Cursor} {b : β} (hd : separator c = .ok b d) :
      item (d.shift (p ++ c.text) p.length) = (item d).shift (p ++ c.text) p.length := by
    rw [← (hs c b d hd).text_eq]
    exact h d
  rw [ShiftsAt]
  fun_induction Result.separated item separator bound c with
  | case2 c b d hd a e he x bound ih =>
    rw [(hi d a e he).text_eq, (hs c b d hd).text_eq] at ih
    rw [Result.separated, k, hd, shift_ok]
    simp only [behind hd, he, shift_ok, shift_map, ih]
  | case1 c b d hd | case3 _ c b d hd | case4 _ c b d hd | case5 _ c b d hd =>
    rw [Result.separated.eq_def, k, hd, shift_ok]
    simp [behind hd, *]
  | case6 | case7 | case8 =>
    rw [Result.separated.eq_def, k]
    simp [*]

theorem nested {turn : Cursor → Result (Turn η β)} (h : ∀ c, ShiftsAt p turn c)
    (ht : ∀ c, (turn c).LeadsFrom c) (build : η → List β → β) (bound : Text) (head : η)
    (items : List β) (outer : List (η × List β)) (c : Cursor) :
    ShiftsAt p (nested turn build bound head items outer) c := by
  rw [ShiftsAt]
  fun_induction Result.nested turn build bound head items outer c with
  | case3 _ _ c d hd _ _ _ _ _ ih | case5 _ _ _ c _ d hd _ _ ih | case7 _ _ _ c _ d hd _ _ ih =>
    rw [(ht c _ d hd).text_eq] at ih
    rw [Result.nested, h, hd, shift_ok]
    exact ih
  | case1 | case2 | case4 | case6 | case8 | case9 =>
    rw [Result.nested.eq_def, h]
    simp [*]

/-- A repetition takes its bound from the text that is left. -/
theorem bounded {rounds : Text → Cursor → Result α} (h : ∀ bound c, ShiftsAt p (rounds bound) c)
    (c : Cursor) : ShiftsAt p (fun c => rounds c.rest c) c := by
  have hc := h c.rest c
  rw [ShiftsAt] at hc ⊢
  rw [Cursor.shift_rest p rfl, hc]

end ShiftsAt

end Result

theorem Rule.shiftsAt {α : Type} (r : Rule α) (p : Text) (c : Cursor) :
    Result.ShiftsAt p r.run c := by
  induction r generalizing c with
  | succeed | refuse => rfl
  | literal t expected =>
    rw [Result.ShiftsAt, run_literal, run_literal, Cursor.shift_startsWith p rfl]
    split
    · rw [Result.shift_ok, Cursor.shift_skip]
    · rfl
  | takeWhile q =>
    rw [Result.ShiftsAt, run_takeWhile, run_takeWhile, Cursor.shift_rest p rfl, Result.shift_ok,
      Cursor.shift_skip]
  | takeWhile1 q expected =>
    rw [Result.ShiftsAt, run_takeWhile1, run_takeWhile1, Cursor.shift_rest p rfl]
    split
    · rfl
    · rw [Result.shift_ok, Cursor.shift_skip]
  | endOfText expected =>
    rw [Result.ShiftsAt, run_endOfText, run_endOfText, Cursor.shift_atEnd p rfl]
    split <;> rfl
  | unescape normal mark table k =>
    rw [Result.ShiftsAt, run_unescape, run_unescape, Cursor.shift_rest p rfl]
    split
    · rw [Result.shift_fail, Failure.shift, Cursor.shift_skip]
    · rw [Result.shift_ok, Cursor.shift_skip]
  | pair r s ihr ihs => exact .bind (ihr c) (r.leadsFrom c) fun a d => (ihs d).map (a, ·)
  | orElse r s ihr ihs => exact .recover (ihr c) (ihs c)
  | relabel expected r ih => exact .recover (ih c) rfl
  | optional r ih => exact .recover ((ih c).map some) rfl
  | many r ih => exact .bounded (fun bound => .many ih r.leadsFrom bound) c
  | separated r s ihr ihs =>
    have rounds := Result.ShiftsAt.bounded (.separated ihr r.leadsFrom ihs s.leadsFrom)
    rw [Result.ShiftsAt, run_separated, run_separated, ihr]
    cases hr : r.run c with
    | ok a d =>
      have hd := rounds d
      rw [Result.ShiftsAt, (r.leadsFrom c a d hr).text_eq] at hd
      simp only [Result.shift_ok, Result.shift_map, hd]
    | fail f => cases hf : f.committed <;> simp [hf]
    | endless => rfl
  | map f r ih => exact (ih c).map f
  | commit r ih => exact (ih c).mapFailure fun _ _ _ => rfl
  | blame k r ih => exact (ih c).mapFailure fun _ _ _ => rfl
  | nested opening turn build iho iht =>
    exact .bind (iho c) (opening.leadsFrom c) fun h d =>
      .bounded (fun bound => .nested iht turn.leadsFrom build bound h [] []) d

/-- A rule looks at nothing to the left of its place. Behind the text `p`, its outcome is the one
that it has in `s` alone, with the same value or the same expectation, construct and commitment;
only the place in it has moved by the length of `p`. -/
theorem Rule.run_behind {α : Type} (r : Rule α) (p s : Text) (i : Nat) :
    r.run (.place (p ++ s) (p.length+i)) =
      (r.run (.place s i)).shift (p ++ s) p.length :=
  r.shiftsAt p (.place s i)

end CurlyMarkup
