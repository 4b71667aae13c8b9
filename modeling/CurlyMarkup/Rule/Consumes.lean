import CurlyMarkup.Rule.Progress
set_option autoImplicit false

namespace CurlyMarkup

/-- The rule consumes something wherever it succeeds. -/
def Rule.Consumes {α : Type} (r : Rule α) : Prop :=
  ∀ c a d, r.run c = .ok a d → d.rest.length < c.rest.length

namespace Rule

variable {α β : Type}

theorem Consumes.literal (x : Char) (t u : Text) : (literal (x :: t) u).Consumes := by
  intro c a d h
  simp only [run_literal] at h
  split at h <;> simp only [Result.ok.injEq, reduceCtorEq] at h
  case isTrue hs =>
    have : c.rest ≠ [] := fun e => by simp [Cursor.startsWith, e] at hs
    have := List.length_pos_iff.2 this
    rw [← h.2]
    simp only [Cursor.skip, List.length_drop, List.length_cons]
    omega

theorem Consumes.takeWhile1 (p : Char → Bool) (u : Text) : (takeWhile1 p u).Consumes := by
  intro c a d h
  simp only [run_takeWhile1] at h
  split at h <;> simp only [Result.ok.injEq, reduceCtorEq] at h
  case isFalse hs =>
    have hne : c.rest.takeWhile p ≠ [] := by simpa using hs
    have := List.length_pos_iff.2 hne
    have := (List.takeWhile_sublist p (l := c.rest)).length_le
    rw [← h.2]
    simp only [Cursor.skip, List.length_drop]
    omega

theorem Consumes.map {r : Rule α} (f : α → β) (h : r.Consumes) : (r.map f).Consumes := by
  intro c b d e
  simp only [run_map] at e
  cases hr : r.run c <;> simp only [hr, Result.map, Result.ok.injEq, reduceCtorEq] at e
  exact h c _ d (by rw [hr, e.2])

theorem pair_eq_ok {r : Rule α} {s : Rule β} {c e : Cursor} {p : α × β}
    (h : (pair r s).run c = .ok p e) :
    ∃ d, r.run c = .ok p.1 d ∧ s.run d = .ok p.2 e := by
  simp only [run_pair] at h
  cases hr : r.run c <;> simp only [hr, Result.bind, reduceCtorEq] at h
  case ok a d =>
    cases hs : s.run d <;> simp only [hs, Result.map, Result.ok.injEq, reduceCtorEq] at h
    obtain ⟨rfl, rfl⟩ := h
    exact ⟨d, rfl, hs⟩

theorem Consumes.pair_left {r : Rule α} {s : Rule β} (h : r.Consumes) : (pair r s).Consumes := by
  intro c p e he
  obtain ⟨d, hr, hs⟩ := pair_eq_ok he
  exact Nat.lt_of_le_of_lt (s.leadsFrom d _ _ hs).length_le (h c _ d hr)

theorem Consumes.pair_right {r : Rule α} {s : Rule β} (h : s.Consumes) :
    (pair r s).Consumes := by
  intro c p e he
  obtain ⟨d, hr, hs⟩ := pair_eq_ok he
  exact Nat.lt_of_lt_of_le (h d _ e hs) (r.leadsFrom c _ _ hr).length_le

theorem Consumes.preceded_left {r : Rule α} {s : Rule β} (h : r.Consumes) :
    (preceded r s).Consumes := .map _ (.pair_left h)

theorem Consumes.preceded_right {r : Rule α} {s : Rule β} (h : s.Consumes) :
    (preceded r s).Consumes := .map _ (.pair_right h)

theorem Consumes.orElse {r s : Rule α} (h : r.Consumes) (k : s.Consumes) :
    (orElse r s).Consumes := by
  intro c a d e
  simp only [run_orElse] at e
  cases hr : r.run c with
  | ok b f =>
    rw [hr] at e
    exact h c a d (hr.trans e)
  | fail f =>
    simp only [hr, Result.recover] at e
    split at e
    · simp at e
    · exact k c a d e
  | endless => simp [hr, Result.recover] at e

theorem Consumes.relabel {r : Rule α} (t : Text) (h : r.Consumes) : (relabel t r).Consumes := by
  intro c a d e
  simp only [run_relabel] at e
  cases hr : r.run c with
  | ok b f =>
    rw [hr] at e
    exact h c a d (hr.trans e)
  | fail f =>
    simp only [hr, Result.recover] at e
    split at e <;> simp at e
  | endless => simp [hr, Result.recover] at e

theorem mapFailure_eq_ok {r : Result α} {f : Failure → Failure} {a : α} {d : Cursor}
    (h : r.mapFailure f = .ok a d) : r = .ok a d := by
  cases r <;> simp_all [Result.mapFailure]

theorem Consumes.commit {r : Rule α} (h : r.Consumes) : r.commit.Consumes :=
  fun c a d e => h c a d (mapFailure_eq_ok e)

theorem Consumes.blame {r : Rule α} (k : Construct) (h : r.Consumes) : (r.blame k).Consumes :=
  fun c a d e => h c a d (mapFailure_eq_ok e)

end Rule

end CurlyMarkup
