import CurlyMarkup.Proofs.Outcomes
import CurlyMarkup.Rule.Ends
set_option autoImplicit false

namespace CurlyMarkup

namespace Result

variable {α β η : Type}

/-- A bound that is longer than something has a first character to give. -/
theorem bound_cons {m n : Nat} {bound : Text} (h : m < n) (hb : n ≤ bound.length) :
    ∃ x rest, bound = x :: rest ∧ m ≤ rest.length := by
  cases bound with
  | nil =>
    simp only [List.length_nil] at hb
    omega
  | cons x rest =>
    simp only [List.length_cons] at hb
    exact ⟨x, rest, rfl, by omega⟩

theorem many_bound {step : Cursor → Result α} (h : ∀ c, (step c).LeadsFrom c) (bound bound' : Text)
    (c : Cursor) (hb : c.rest.length ≤ bound.length) (hb' : c.rest.length ≤ bound'.length) :
    many step bound c = many step bound' c := by
  fun_induction many step bound c generalizing bound' with
  | case2 c a d hd hne =>
    obtain ⟨x, u, hu, -⟩ := bound_cons ((h c a d hd).length_lt hne) hb
    cases hu
  | case3 c a d hd hne x bound ih =>
    have hlt := (h c a d hd).length_lt hne
    obtain ⟨y, u, rfl, hu⟩ := bound_cons hlt hb'
    simp only [List.length_cons] at hb
    rw [many.eq_def step (y :: u) c, hd]
    simp only [hne, ↓reduceIte]
    rw [ih u (by omega) hu]
  | case1 | case4 | case5 | case6 =>
    rw [many.eq_def step bound']
    simp [*]

theorem separated_bound {item : Cursor → Result α} {separator : Cursor → Result β}
    (h : ∀ c a d, item c = .ok a d → d.rest.length < c.rest.length)
    (hs : ∀ c, (separator c).LeadsFrom c) (bound bound' : Text) (c : Cursor)
    (hb : c.rest.length ≤ bound.length) (hb' : c.rest.length ≤ bound'.length) :
    separated item separator bound c = separated item separator bound' c := by
  fun_induction separated item separator bound c generalizing bound' with
  | case1 c b d hd a e he =>
    have hlt := Nat.lt_of_lt_of_le (h d a e he) (hs c b d hd).length_le
    obtain ⟨x, u, hu, -⟩ := bound_cons hlt hb
    cases hu
  | case2 c b d hd a e he x bound ih =>
    have hlt := Nat.lt_of_lt_of_le (h d a e he) (hs c b d hd).length_le
    obtain ⟨y, u, rfl, hu⟩ := bound_cons hlt hb'
    simp only [List.length_cons] at hb
    rw [separated.eq_def item separator (y :: u) c]
    simp only [hd, he]
    rw [ih u (by omega) hu]
  | case3 | case4 | case5 | case6 | case7 | case8 =>
    rw [separated.eq_def item separator bound']
    simp [*]

theorem nested_bound {turn : Cursor → Result (Turn η β)} {build : η → List β → β}
    (h : ∀ c a d, turn c = .ok a d → d.rest.length < c.rest.length) (bound bound' : Text)
    (head : η) (items : List β) (outer : List (η × List β)) (c : Cursor)
    (hb : c.rest.length ≤ bound.length) (hb' : c.rest.length ≤ bound'.length) :
    nested turn build bound head items outer c = nested turn build bound' head items outer c := by
  fun_induction nested turn build bound head items outer c generalizing bound' with
  | case2 _ _ c d hd | case4 _ _ _ c _ d hd | case6 _ _ _ c _ d hd =>
    obtain ⟨x, u, hu, -⟩ := bound_cons (h c _ d hd) hb
    cases hu
  | case3 _ _ c d hd _ _ _ _ _ ih | case5 _ _ _ c _ d hd _ _ ih | case7 _ _ _ c _ d hd _ _ ih =>
    have hlt := h c _ d hd
    obtain ⟨y, u, rfl, hu⟩ := bound_cons hlt hb'
    simp only [List.length_cons] at hb
    rw [nested.eq_def turn build (y :: u)]
    simp only [hd]
    rw [ih u (by omega) hu]
  | case1 | case8 | case9 =>
    rw [nested.eq_def turn build bound']
    simp [*]

end Result

namespace Rule

variable {α : Type}

theorem Consumes.offset_ne {r : Rule α} {c d : Cursor} {a : α} (h : r.Consumes)
    (hr : r.run c = .ok a d) : d.offset ≠ c.offset := by
  intro ho
  have hlt := h c a d hr
  rcases r.leadsFrom c a d hr with rfl | ⟨ht, -⟩
  · omega
  · rw [Cursor.eq_of_offset_eq ht ho] at hlt
    omega

theorem run_many_eq (r : Rule α) (c : Cursor) :
    (many r).run c =
      match r.run c with
      | .ok a d => if d.offset = c.offset then .ok [] c else ((many r).run d).map (a :: ·)
      | .fail e => if e.committed then .fail e else .ok [] c
      | .endless => .endless := by
  rw [run_many, Result.many.eq_def]
  cases hr : r.run c with
  | ok a d =>
    simp only
    split
    · rfl
    · next hne =>
      obtain ⟨x, u, hc, hu⟩ :=
        Result.bound_cons ((r.leadsFrom c a d hr).length_lt hne) (Nat.le_refl _)
      rw [hc, run_many, Result.many_bound r.leadsFrom d.rest u d (Nat.le_refl _) hu]
  | fail e => rfl
  | endless => rfl

end Rule

namespace Result

variable {α β η : Type}

/-- A repetition ends at an uncommitted failure, so none comes out of it. -/
theorem many_committed {step : Cursor → Result α} {bound : Text} {c : Cursor} {f : Failure}
    (h : many step bound c = .fail f) : f.committed = true := by
  fun_induction many step bound c with
  | case3 c a d hd hne x bound ih =>
    cases hm : many step bound d with
    | ok => simp [hm] at h
    | fail e =>
      rw [hm, map_fail, fail.injEq] at h
      exact ih (by rw [hm, h])
    | endless => simp [hm] at h
  | case4 bound c e he hc =>
    cases h
    exact hc
  | case1 | case2 | case5 | case6 => simp at h

/-- A repetition fails where one of its rounds does, and that is not before it. -/
theorem many_eq_fail {step : Cursor → Result α} (h : ∀ c, (step c).LeadsFrom c) {bound : Text}
    {c : Cursor} {f : Failure} (hf : many step bound c = .fail f) :
    ∃ d, c.LeadsTo d ∧ step d = .fail f := by
  fun_induction many step bound c with
  | case3 c a d hd hne x bound ih =>
    obtain ⟨e, hde, he⟩ := ih (map_eq_fail.1 hf)
    exact ⟨e, (h c a d hd).trans hde, he⟩
  | case4 bound c e he hc =>
    cases hf
    exact ⟨c, .refl c, he⟩
  | case1 | case2 | case5 | case6 => simp at hf

theorem separated_eq_fail {item : Cursor → Result α} {separator : Cursor → Result β}
    (h : ∀ c, (item c).LeadsFrom c) (hs : ∀ c, (separator c).LeadsFrom c) {bound : Text}
    {c : Cursor} {f : Failure} (hf : separated item separator bound c = .fail f) :
    ∃ d, c.LeadsTo d ∧ (item d = .fail f ∨ separator d = .fail f) := by
  fun_induction separated item separator bound c with
  | case2 c b d hd a e he x bound ih =>
    obtain ⟨g, heg, hg⟩ := ih (map_eq_fail.1 hf)
    exact ⟨g, ((hs c b d hd).trans (h d a e he)).trans heg, hg⟩
  | case3 bound c b d hd e he hc =>
    cases hf
    exact ⟨d, hs c b d hd, .inl he⟩
  | case6 bound c e he hc =>
    cases hf
    exact ⟨c, .refl c, .inr he⟩
  | case1 | case4 | case5 | case7 | case8 => simp at hf

theorem nested_eq_fail {turn : Cursor → Result (Turn η β)} (h : ∀ c, (turn c).LeadsFrom c)
    {build : η → List β → β} {bound : Text} {head : η} {items : List β}
    {outer : List (η × List β)} {c : Cursor} {f : Failure}
    (hf : nested turn build bound head items outer c = .fail f) :
    ∃ d, c.LeadsTo d ∧ turn d = .fail f := by
  fun_induction nested turn build bound head items outer c with
  | case3 _ _ c d hd _ _ _ _ _ ih | case5 _ _ _ c _ d hd _ _ ih | case7 _ _ _ c _ d hd _ _ ih =>
    obtain ⟨e, hde, he⟩ := ih hf
    exact ⟨e, (h c _ d hd).trans hde, he⟩
  | case8 _ _ _ _ c e he =>
    cases hf
    exact ⟨c, .refl c, he⟩
  | case1 | case2 | case4 | case6 | case9 => simp at hf

theorem separated_eq {item : Cursor → Result α} {separator : Cursor → Result β}
    (h : ∀ c a d, item c = .ok a d → d.rest.length < c.rest.length)
    (hs : ∀ c, (separator c).LeadsFrom c) (c : Cursor) :
    separated item separator c.rest c =
      match separator c with
      | .ok _ d =>
        match item d with
        | .ok a e => (separated item separator e.rest e).map (a :: ·)
        | .fail e => if e.committed then .fail e else .ok [] c
        | .endless => .endless
      | .fail e => if e.committed then .fail e else .ok [] c
      | .endless => .endless := by
  rw [separated.eq_def]
  cases hd : separator c with
  | ok b d =>
    cases he : item d with
    | ok a e =>
      have hlt := Nat.lt_of_lt_of_le (h d a e he) (hs c b d hd).length_le
      obtain ⟨x, u, hc, hu⟩ := bound_cons hlt (Nat.le_refl _)
      simp only [he, hc]
      rw [separated_bound h hs u e.rest e hu (Nat.le_refl _)]
    | fail e => simp only [he]
    | endless => simp only [he]
  | fail e => rfl
  | endless => rfl

theorem nested_eq {turn : Cursor → Result (Turn η β)} {build : η → List β → β}
    (h : ∀ c a d, turn c = .ok a d → d.rest.length < c.rest.length) (head : η) (items : List β)
    (outer : List (η × List β)) (c : Cursor) :
    nested turn build c.rest head items outer c =
      (turn c).bind fun t d =>
        match t, outer with
        | .closed, [] => .ok (head, items.reverse) d
        | .closed, (h, is) :: outer =>
          nested turn build d.rest h (build head items.reverse :: is) outer d
        | .leaf x, outer => nested turn build d.rest head (x :: items) outer d
        | .opened h, outer => nested turn build d.rest h [] ((head, items) :: outer) d := by
  rw [nested.eq_def]
  cases ht : turn c with
  | ok t d =>
    obtain ⟨x, u, hc, hu⟩ := bound_cons (h c t d ht) (Nat.le_refl _)
    have more : ∀ head items outer, nested turn build u head items outer d =
        nested turn build d.rest head items outer d := fun _ _ _ =>
      nested_bound h u d.rest _ _ _ d hu (Nat.le_refl _)
    simp only [bind_ok, hc]
    cases t with
    | closed =>
      cases outer with
      | nil => rfl
      | cons => exact more _ _ _
    | leaf x => exact more _ _ _
    | opened h => exact more _ _ _
  | fail e => rfl
  | endless => rfl

end Result

end CurlyMarkup
