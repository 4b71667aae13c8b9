import CurlyMarkup.Rule.Run
set_option autoImplicit false

namespace CurlyMarkup

namespace Result

variable {α β η : Type}

@[simp] theorem map_ok (f : α → β) (a : α) (c : Cursor) : (ok a c).map f = ok (f a) c := rfl

@[simp] theorem map_fail (f : α → β) (e : Failure) : (fail e).map f = fail e := rfl

@[simp] theorem map_endless (f : α → β) : (endless : Result α).map f = endless := rfl

@[simp] theorem bind_ok (f : α → Cursor → Result β) (a : α) (c : Cursor) :
    (ok a c).bind f = f a c := rfl

@[simp] theorem bind_fail (f : α → Cursor → Result β) (e : Failure) :
    (fail e).bind f = fail e := rfl

@[simp] theorem bind_endless (f : α → Cursor → Result β) :
    (endless : Result α).bind f = endless := rfl

@[simp] theorem recover_ok (f : Failure → Result α) (a : α) (c : Cursor) :
    (ok a c).recover f = ok a c := rfl

@[simp] theorem recover_fail (f : Failure → Result α) (e : Failure) :
    (fail e).recover f = if e.committed then fail e else f e := rfl

@[simp] theorem recover_endless (f : Failure → Result α) : endless.recover f = endless := rfl

@[simp] theorem mapFailure_ok (f : Failure → Failure) (a : α) (c : Cursor) :
    (ok a c).mapFailure f = ok a c := rfl

@[simp] theorem mapFailure_fail (f : Failure → Failure) (e : Failure) :
    (fail e : Result α).mapFailure f = fail (f e) := rfl

@[simp] theorem mapFailure_endless (f : Failure → Failure) :
    (endless : Result α).mapFailure f = endless := rfl

@[simp] theorem map_map {γ : Type} (f : α → β) (g : β → γ) (r : Result α) :
    (r.map f).map g = r.map (g ∘ f) := by
  cases r <;> rfl

@[simp] theorem map_id (r : Result α) : r.map id = r := by
  cases r <;> rfl

theorem bind_assoc {γ : Type} (r : Result α) (f : α → Cursor → Result β)
    (g : β → Cursor → Result γ) : (r.bind f).bind g = r.bind fun a c => (f a c).bind g := by
  cases r <;> rfl

theorem map_eq_bind (f : α → β) (r : Result α) : r.map f = r.bind fun a c => ok (f a) c := by
  cases r <;> rfl

theorem map_eq_fail {f : α → β} {r : Result α} {e : Failure} :
    r.map f = fail e ↔ r = fail e := by
  cases r <;> simp

theorem map_eq_ok {f : α → β} {r : Result α} {b : β} {c : Cursor} :
    r.map f = ok b c ↔ ∃ a, r = ok a c ∧ f a = b := by
  cases r with
  | ok a d =>
    rw [map_ok]
    constructor
    · rintro h
      cases h
      exact ⟨a, rfl, rfl⟩
    · rintro ⟨_, h, rfl⟩
      cases h
      rfl
  | fail e => simp
  | endless => simp

/-- A failure passed over leaves what there has been before it. -/
theorem passOver_eq_ok {f : Failure} {a b : α} {c d : Cursor} :
    (if f.committed then fail f else ok a c) = ok b d ↔ f.committed = false ∧ a = b ∧ c = d := by
  cases f.committed <;> simp

theorem bind_eq_fail {r : Result α} {f : α → Cursor → Result β} {e : Failure}
    (h : r.bind f = fail e) : r = fail e ∨ ∃ a c, r = ok a c ∧ f a c = fail e := by
  cases r with
  | ok a c => exact .inr ⟨a, c, rfl, h⟩
  | fail d =>
    cases h
    exact .inl rfl
  | endless => simp at h

theorem recover_eq_fail {r : Result α} {f : Failure → Result α} {e : Failure}
    (h : r.recover f = fail e) : r = fail e ∨ ∃ d, f d = fail e := by
  cases r with
  | ok => simp at h
  | fail d =>
    rw [recover_fail] at h
    split at h
    · exact .inl h
    · exact .inr ⟨d, h⟩
  | endless => simp at h

theorem mapFailure_eq_fail {r : Result α} {f : Failure → Failure} {e : Failure} :
    r.mapFailure f = fail e ↔ ∃ d, r = fail d ∧ f d = e := by
  cases r <;> simp

end Result

namespace Rule

variable {c : Cursor} {f : Failure}

theorem literal_eq_fail {t expected : Text} (h : (literal t expected).run c = .fail f) :
    f = c.missing expected := by
  rw [run_literal] at h
  split at h
  · cases h
  · cases h
    rfl

theorem takeWhile1_eq_fail {p : Char → Bool} {expected : Text}
    (h : (takeWhile1 p expected).run c = .fail f) : f = c.missing expected := by
  rw [run_takeWhile1] at h
  split at h
  · cases h
    rfl
  · cases h

theorem endOfText_eq_fail {expected : Text} (h : (endOfText expected).run c = .fail f) :
    f = c.missing expected := by
  rw [run_endOfText] at h
  split at h
  · cases h
  · cases h
    rfl

end Rule

end CurlyMarkup
