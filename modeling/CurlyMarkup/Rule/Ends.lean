import CurlyMarkup.Rule.Consumes
set_option autoImplicit false

namespace CurlyMarkup

/-- The rule comes to an end wherever it is run. -/
def Rule.Ends {α : Type} (r : Rule α) : Prop := ∀ c, r.run c ≠ .endless

theorem Result.many_ne_endless {α : Type} {step : Cursor → Result α}
    (h : ∀ c, (step c).LeadsFrom c) (k : ∀ c, step c ≠ .endless) (bound : Text) (c : Cursor)
    (hb : c.rest.length ≤ bound.length) : Result.many step bound c ≠ .endless := by
  fun_induction Result.many step bound c with
  | case1 => simp
  | case2 c a d hd hne =>
    have := (h c a d hd).length_lt hne
    have : c.rest.length ≤ 0 := hb
    omega
  | case3 c a d hd hne x bound ih =>
    have := (h c a d hd).length_lt hne
    have := ih (by simp at hb; omega)
    cases hm : Result.many step bound d <;> simp_all [Result.map]
  | case4 => simp
  | case5 => simp
  | case6 bound c hc => exact absurd hc (k c)

theorem Result.separated_ne_endless {α β : Type} {item : Cursor → Result α}
    {separator : Cursor → Result β} (h : ∀ c a d, item c = .ok a d → d.rest.length < c.rest.length)
    (hs : ∀ c, (separator c).LeadsFrom c) (k : ∀ c, item c ≠ .endless)
    (ks : ∀ c, separator c ≠ .endless) (bound : Text) (c : Cursor)
    (hb : c.rest.length ≤ bound.length) :
    Result.separated item separator bound c ≠ .endless := by
  fun_induction Result.separated item separator bound c with
  | case1 c b d hd a e he =>
    have := (hs c b d hd).length_le
    have := h d a e he
    have : c.rest.length ≤ 0 := hb
    omega
  | case2 c b d hd a e he x bound ih =>
    have := (hs c b d hd).length_le
    have := h d a e he
    have := ih (by simp at hb; omega)
    cases hm : Result.separated item separator bound e <;> simp_all [Result.map]
  | case5 _ c b d hd hi => exact absurd hi (k d)
  | case8 _ c hc => exact absurd hc (ks c)
  | _ => simp

theorem Result.nested_ne_endless {η β : Type} {turn : Cursor → Result (Turn η β)}
    {build : η → List β → β} (h : ∀ c a d, turn c = .ok a d → d.rest.length < c.rest.length)
    (k : ∀ c, turn c ≠ .endless) (bound : Text) (head : η) (items : List β)
    (outer : List (η × List β)) (c : Cursor) (hb : c.rest.length ≤ bound.length) :
    Result.nested turn build bound head items outer c ≠ .endless := by
  fun_induction Result.nested turn build bound head items outer c with
  | case1 => simp
  | case2 _ _ c d hd | case4 _ _ _ c _ d hd | case6 _ _ _ c _ d hd =>
    have := h c _ d hd
    have : c.rest.length ≤ 0 := hb
    omega
  | case3 _ _ c d hd _ _ _ _ _ ih | case5 _ _ _ c _ d hd _ _ ih | case7 _ _ _ c _ d hd _ _ ih =>
    have := h c _ d hd
    exact ih (by simp at hb; omega)
  | case8 => simp
  | case9 _ _ _ _ c hc => exact absurd hc (k c)

namespace Rule

variable {α β γ : Type}

theorem Ends.succeed (a : α) : (succeed a).Ends := by intro c; simp [run_succeed]

theorem Ends.refuse (t : Text) : (refuse t : Rule α).Ends := by intro c; simp [run_refuse]

theorem Ends.literal (t u : Text) : (literal t u).Ends := by
  intro c; simp only [run_literal]; split <;> simp

theorem Ends.takeWhile (p : Char → Bool) : (takeWhile p).Ends := by
  intro c; simp [run_takeWhile]

theorem Ends.takeWhile1 (p : Char → Bool) (t : Text) : (takeWhile1 p t).Ends := by
  intro c; simp only [run_takeWhile1]; split <;> simp

theorem Ends.endOfText (t : Text) : (endOfText t).Ends := by
  intro c; simp only [run_endOfText]; split <;> simp

theorem Ends.unescape (p : Char → Bool) (m : Char) (t : EscapeTable) (k : Construct) :
    (unescape p m t k).Ends := by
  intro c; simp only [run_unescape]; split <;> simp

theorem Ends.map {r : Rule α} (f : α → β) (h : r.Ends) : (r.map f).Ends := by
  intro c
  have := h c
  simp only [run_map]
  cases hr : r.run c <;> simp_all [Result.map]

theorem Ends.pair {r : Rule α} {s : Rule β} (h : r.Ends) (k : s.Ends) : (pair r s).Ends := by
  intro c
  have := h c
  simp only [run_pair]
  cases hr : r.run c with
  | ok a d =>
    have := k d
    cases hs : s.run d <;> simp_all [Result.bind, Result.map]
  | fail => simp [Result.bind]
  | endless => exact absurd hr this

theorem Ends.preceded {r : Rule α} {s : Rule β} (h : r.Ends) (k : s.Ends) :
    (preceded r s).Ends := .map _ (.pair h k)

theorem Ends.terminated {r : Rule α} {s : Rule β} (h : r.Ends) (k : s.Ends) :
    (terminated r s).Ends := .map _ (.pair h k)

theorem Ends.delimited {r : Rule α} {s : Rule β} {t : Rule γ} (h : r.Ends) (k : s.Ends)
    (l : t.Ends) : (delimited r s t).Ends := .preceded h (.terminated k l)

theorem recover_ne_endless {r : Result α} {f : Failure → Result α} (h : r ≠ .endless)
    (k : ∀ e, f e ≠ .endless) : r.recover f ≠ .endless := by
  cases r with
  | ok => simp [Result.recover]
  | fail e =>
    simp only [Result.recover]
    split
    · simp
    · exact k e
  | endless => exact absurd rfl h

theorem Ends.orElse {r s : Rule α} (h : r.Ends) (k : s.Ends) : (orElse r s).Ends :=
  fun c => recover_ne_endless (h c) fun _ => k c

theorem Ends.relabel {r : Rule α} (t : Text) (h : r.Ends) : (relabel t r).Ends :=
  fun c => recover_ne_endless (h c) fun _ => by simp

theorem Ends.optional {r : Rule α} (h : r.Ends) : (optional r).Ends :=
  fun c => recover_ne_endless (Ends.map some h c) fun _ => by simp

theorem Ends.many {r : Rule α} (h : r.Ends) : (many r).Ends :=
  fun c => Result.many_ne_endless r.leadsFrom h c.rest c (Nat.le_refl _)

theorem Ends.separated {r : Rule α} {s : Rule β} (h : r.Ends) (hc : r.Consumes) (k : s.Ends) :
    (separated r s).Ends := by
  intro c
  simp only [run_separated]
  cases hr : r.run c with
  | ok a d =>
    have := Result.separated_ne_endless hc s.leadsFrom h k d.rest d (Nat.le_refl _)
    cases hs : Result.separated r.run s.run d.rest d <;> simp_all [Result.map]
  | fail e => simp only; split <;> simp
  | endless => exact absurd hr (h c)

theorem mapFailure_ne_endless {r : Result α} (f : Failure → Failure) (h : r ≠ .endless) :
    r.mapFailure f ≠ .endless := by
  cases r <;> simp_all [Result.mapFailure]

theorem Ends.commit {r : Rule α} (h : r.Ends) : r.commit.Ends :=
  fun c => mapFailure_ne_endless _ (h c)

theorem Ends.blame {r : Rule α} (k : Construct) (h : r.Ends) : (r.blame k).Ends :=
  fun c => mapFailure_ne_endless _ (h c)

theorem Ends.nested {r : Rule α} {s : Rule (Turn α β)} (build : α → List β → β) (h : r.Ends)
    (k : s.Ends) (hs : s.Consumes) : (nested r s build).Ends := by
  intro c
  simp only [run_nested]
  cases hr : r.run c with
  | ok a d => exact Result.nested_ne_endless hs k d.rest a [] [] d (Nat.le_refl _)
  | fail => simp [Result.bind]
  | endless => exact absurd hr (h c)

end Rule

end CurlyMarkup
