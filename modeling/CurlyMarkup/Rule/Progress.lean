import CurlyMarkup.Rule.Run
set_option autoImplicit false

namespace CurlyMarkup

/-- The cursor stands still or has moved on in the same text. -/
def Cursor.LeadsTo (c d : Cursor) : Prop :=
  d = c ∨ d.text = c.text ∧ d.rest.length < c.rest.length

namespace Cursor.LeadsTo

theorem refl (c : Cursor) : c.LeadsTo c := .inl rfl

theorem trans {c d e : Cursor} (h : c.LeadsTo d) (k : d.LeadsTo e) : c.LeadsTo e := by
  rcases h with rfl | ⟨ht, hl⟩
  · exact k
  · rcases k with rfl | ⟨ht', hl'⟩
    · exact .inr ⟨ht, hl⟩
    · exact .inr ⟨ht'.trans ht, Nat.lt_trans hl' hl⟩

theorem text_eq {c d : Cursor} (h : c.LeadsTo d) : d.text = c.text := by
  rcases h with rfl | ⟨ht, -⟩
  · rfl
  · exact ht

theorem length_le {c d : Cursor} (h : c.LeadsTo d) : d.rest.length ≤ c.rest.length := by
  rcases h with rfl | ⟨_, hl⟩
  · exact Nat.le_refl _
  · exact Nat.le_of_lt hl

theorem length_lt {c d : Cursor} (h : c.LeadsTo d) (ne : d.offset ≠ c.offset) :
    d.rest.length < c.rest.length := by
  rcases h with rfl | ⟨_, hl⟩
  · exact absurd rfl ne
  · exact hl

theorem skip (c : Cursor) (n : Nat) (h : c.rest = [] → n = 0) : c.LeadsTo (c.skip n) := by
  cases n with
  | zero => exact .inl (Cursor.eq_of_offset_eq rfl rfl)
  | succ n =>
    refine .inr ⟨rfl, ?_⟩
    have : c.rest ≠ [] := fun e => absurd (h e) (by simp)
    have := List.length_pos_iff.2 this
    simp only [Cursor.skip, List.length_drop]
    omega

end Cursor.LeadsTo

theorem length_unescape_nil (table : EscapeTable) (normal : Char → Bool) (mark : Char) :
    (table.unescape normal mark []).length = 0 := rfl

/-- Where a result succeeds, its cursor is reached from `c`. -/
def Result.LeadsFrom {α : Type} (c : Cursor) (r : Result α) : Prop :=
  ∀ a d, r = .ok a d → c.LeadsTo d

namespace Result.LeadsFrom

theorem map {α β : Type} {c : Cursor} {r : Result α} (f : α → β) (h : r.LeadsFrom c) :
    (r.map f).LeadsFrom c := by
  intro b d e
  cases r <;> simp only [Result.map, Result.ok.injEq, reduceCtorEq] at e
  exact h _ _ (by rw [e.2])

theorem bind {α β : Type} {c : Cursor} {r : Result α} {f : α → Cursor → Result β}
    (h : r.LeadsFrom c) (k : ∀ a d, (f a d).LeadsFrom d) : (r.bind f).LeadsFrom c := by
  intro b e he
  cases r with
  | ok a d => exact (h a d rfl).trans (k a d b e he)
  | fail f => simp [Result.bind] at he
  | endless => simp [Result.bind] at he

theorem recover {α : Type} {c : Cursor} {r : Result α} {f : Failure → Result α}
    (h : r.LeadsFrom c) (k : ∀ e, (f e).LeadsFrom c) : (r.recover f).LeadsFrom c := by
  cases r with
  | ok a d => exact h
  | fail e =>
    simp only [Result.recover]
    split
    · intro _ _ he; simp at he
    · exact k e
  | endless => intro _ _ he; simp [Result.recover] at he

theorem mapFailure {α : Type} {c : Cursor} {r : Result α} (f : Failure → Failure)
    (h : r.LeadsFrom c) : (r.mapFailure f).LeadsFrom c := by
  intro a d e
  cases r <;> simp only [Result.mapFailure, reduceCtorEq] at e
  exact h _ _ e

theorem fail {α : Type} (c : Cursor) (e : Failure) : (Result.fail e : Result α).LeadsFrom c := by
  intro _ _ h; simp at h

theorem endless {α : Type} (c : Cursor) : (Result.endless : Result α).LeadsFrom c := by
  intro _ _ h; simp at h

theorem ok {α : Type} {c d : Cursor} (a : α) (h : c.LeadsTo d) : (Result.ok a d).LeadsFrom c := by
  intro _ _ e
  cases e
  exact h

theorem many {α : Type} {step : Cursor → Result α} (h : ∀ c, (step c).LeadsFrom c) (bound : Text)
    (c : Cursor) : (Result.many step bound c).LeadsFrom c := by
  fun_induction Result.many step bound c with
  | case1 => exact ok _ (.refl _)
  | case2 => exact endless _
  | case3 c a d hs _ _ _ ih =>
    intro b e he
    exact (h c a d hs).trans (map _ ih b e he)
  | case4 => exact fail _ _
  | case5 => exact ok _ (.refl _)
  | case6 => exact endless _

theorem separated {α β : Type} {item : Cursor → Result α} {separator : Cursor → Result β}
    (h : ∀ c, (item c).LeadsFrom c) (k : ∀ c, (separator c).LeadsFrom c) (bound : Text)
    (c : Cursor) : (Result.separated item separator bound c).LeadsFrom c := by
  fun_induction Result.separated item separator bound c with
  | case1 => exact endless _
  | case2 c b d hd a e he x bound ih =>
    intro l g hg
    exact ((k c b d hd).trans (h d a e he)).trans (map _ ih l g hg)
  | case3 => exact fail _ _
  | case4 => exact ok _ (.refl _)
  | case5 => exact endless _
  | case6 => exact fail _ _
  | case7 => exact ok _ (.refl _)
  | case8 => exact endless _

theorem nested {η β : Type} {turn : Cursor → Result (Turn η β)} {build : η → List β → β}
    (h : ∀ c, (turn c).LeadsFrom c) (bound : Text) (head : η) (items : List β)
    (outer : List (η × List β)) (c : Cursor) :
    (Result.nested turn build bound head items outer c).LeadsFrom c := by
  fun_induction Result.nested turn build bound head items outer c with
  | case1 _ _ _ c d hd => exact ok _ (h c _ d hd)
  | case3 _ _ c d hd _ _ _ _ _ ih =>
    intro b e he
    exact (h c _ d hd).trans (ih b e he)
  | case5 _ _ _ c x d hd _ _ ih =>
    intro b e he
    exact (h c _ d hd).trans (ih b e he)
  | case7 _ _ _ c x d hd _ _ ih =>
    intro b e he
    exact (h c _ d hd).trans (ih b e he)
  | case2 | case4 | case6 | case9 => exact endless _
  | case8 => exact fail _ _

end Result.LeadsFrom

theorem Rule.leadsFrom {α : Type} (r : Rule α) (c : Cursor) : (r.run c).LeadsFrom c := by
  induction r generalizing c with
  | succeed a => exact .ok _ (.refl c)
  | refuse _ => exact .fail _ _
  | literal t _ =>
    simp only [run_literal]
    split
    case isTrue h =>
      refine .ok _ (.skip c _ fun e => ?_)
      cases t with
      | nil => rfl
      | cons x t => simp [Cursor.startsWith, e] at h
    case isFalse => exact .fail _ _
  | takeWhile p => exact .ok _ (.skip c _ fun e => by simp [e])
  | takeWhile1 p _ =>
    simp only [run_takeWhile1]
    split
    · exact .fail _ _
    · exact .ok _ (.skip c _ fun e => by simp [e])
  | endOfText _ =>
    simp only [run_endOfText]
    split
    · exact .ok _ (.refl c)
    · exact .fail _ _
  | unescape normal mark table k =>
    simp only [run_unescape]
    split
    · exact .fail _ _
    · exact .ok _ (.skip c _ fun e => by rw [e, length_unescape_nil])
  | pair r s hr hs => exact .bind (hr c) fun a d => .map _ (hs d)
  | orElse r s hr hs => exact .recover (hr c) fun _ => hs c
  | relabel _ r hr => exact .recover (hr c) fun _ => .fail _ _
  | optional r hr => exact .recover (.map _ (hr c)) fun _ => .ok _ (.refl c)
  | many r hr => exact .many hr _ c
  | separated r s hr hs =>
    simp only [run_separated]
    split
    case h_1 a d hd =>
      intro l e he
      exact (hr c a d hd).trans
        (Result.LeadsFrom.map _ (.separated hr hs d.rest d) l e he)
    case h_2 =>
      split
      · exact .fail _ _
      · exact .ok _ (.refl c)
    case h_3 => exact .endless _
  | map f r hr => exact .map f (hr c)
  | commit r hr => exact .mapFailure _ (hr c)
  | blame k r hr => exact .mapFailure _ (hr c)
  | nested opening turn build ho ht => exact .bind (ho c) fun h d => .nested ht _ _ _ _ d

end CurlyMarkup
