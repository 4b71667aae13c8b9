import CurlyMarkup.Proofs.Rounds
import CurlyMarkup.Reading
set_option autoImplicit false

/-!
Lists with separators. Such a list is one item and then many pairs of a separator and an item, so
what separates is read only together with the item behind it.
-/

namespace CurlyMarkup

namespace Rule

variable {α β : Type} {r : Rule α} {s : Rule β} {c d e : Cursor} {a : α} {as : List α}

/-- The rule fails here and leaves it to others to try something else. -/
def Declines (r : Rule α) (c : Cursor) : Prop := ∃ f, r.run c = .fail f ∧ f.committed = false

/-- Items are read one behind the other, each but the first behind a separator. -/
inductive Listed (r : Rule α) (s : Rule β) : Cursor → List α → Cursor → Prop where
  | none (c : Cursor) : Listed r s c [] c
  | some {c d e : Cursor} {a : α} {as : List α} (first : r.run c = .ok a d)
      (more : Rounds (preceded s r) d as e) : Listed r s c (a :: as) e

/-- A list of these items can stop here: there is no first item, or else no separator with an item
behind it. -/
def StopsAt (r : Rule α) (s : Rule β) (as : List α) (e : Cursor) : Prop :=
  if as.isEmpty then r.Declines e else (preceded s r).Declines e

theorem MovesFrom.offset_ne (h : r.MovesFrom c) (hr : r.run c = .ok a d) :
    d.offset ≠ c.offset := by
  intro ho
  have hlt := length_lt_of_not_stalls h.not_stalls hr
  rw [Cursor.eq_of_offset_eq (r.leadsFrom c a d hr).text_eq ho] at hlt
  omega

theorem Consumes.movesFrom (h : r.Consumes) (c : Cursor) : r.MovesFrom c :=
  fun _ d _ => consumes_iff.1 h d

/-- A rule declines behind another one where that one declines, or leads to where it declines
itself. -/
theorem preceded_declines_iff :
    (preceded s r).Declines e ↔ s.Declines e ∨ ∃ b d, s.run e = .ok b d ∧ r.Declines d := by
  have hrun : (preceded s r).run e =
      ((s.run e).bind fun b d => (r.run d).map (b, ·)).map Prod.snd := rfl
  rw [Declines, Declines, hrun]
  cases hs : s.run e with
  | ok b d =>
    constructor
    · rintro ⟨f, hf, hu⟩
      exact .inr ⟨b, d, rfl, f, Result.map_eq_fail.1 (Result.map_eq_fail.1 hf), hu⟩
    · rintro (⟨f, hf, -⟩ | ⟨b', d', hd, f, hf, hu⟩)
      · cases hf
      · cases hd
        exact ⟨f, Result.map_eq_fail.2 (Result.map_eq_fail.2 hf), hu⟩
  | fail f => simp
  | endless => simp

/-- Where a repetition has declined, no round before that has stalled. -/
theorem Rounds.movesFrom (h : Rounds r c as d) (k : r.Declines d) : r.MovesFrom c := by
  obtain ⟨f, hf, -⟩ := k
  intro bs e hbs hstall
  induction hbs generalizing as with
  | nil c =>
    -- rounds from a place where the rule stalls lead nowhere else
    obtain ⟨b, hb⟩ := hstall
    induction h with
    | nil => simp [hb] at hf
    | cons first _ ih =>
      rw [hb, Result.ok.injEq] at first
      obtain ⟨-, rfl⟩ := first
      exact ih hf hb
  | cons first' _ ih =>
    cases h with
    | nil => simp [hf] at first'
    | cons first more =>
      rw [first, Result.ok.injEq] at first'
      obtain ⟨-, rfl⟩ := first'
      exact ih more hstall

/-- The loop over separators and items is the repetition of their pair, as long as a pair consumes
something. -/
theorem separated_eq_many {bound : Text} (k : (preceded s r).MovesFrom c)
    (hb : c.rest.length ≤ bound.length) :
    Result.separated r.run s.run bound c = (many (preceded s r)).run c := by
  induction hn : c.rest.length using Nat.strongRecOn generalizing c bound with
  | ind n ih =>
    rw [separated_round, run_many_eq]
    cases hr : (preceded s r).run c with
    | ok a d =>
      have hlt := length_lt_of_not_stalls k.not_stalls hr
      have hne := k.offset_ne hr
      obtain ⟨x, u, rfl, hu⟩ := Result.bound_cons hlt hb
      simp only [hne, ↓reduceIte]
      rw [ih _ (by omega) (k.next hr) hu rfl]
    | fail f => rfl
    | endless => rfl

/-- A list is nothing where its first item declines, and otherwise one item and then many pairs. -/
theorem run_separated_eq (h : ∀ a d, r.run c = .ok a d → (preceded s r).MovesFrom d) :
    (separated r s).run c =
      match r.run c with
      | .ok a d => ((many (preceded s r)).run d).map (a :: ·)
      | .fail f => if f.committed then .fail f else .ok [] c
      | .endless => .endless := by
  rw [run_separated]
  cases hr : r.run c with
  | ok a d =>
    simp only
    rw [separated_eq_many (h a d hr) (Nat.le_refl _)]
  | fail f => rfl
  | endless => rfl

/-- Rounds that lead to where the rule declines are those that a repetition makes. -/
theorem Rounds.run_many (h : Rounds r c as d) (k : r.Declines d) : (many r).run c = .ok as d := by
  induction h with
  | nil c =>
    obtain ⟨f, hf, hu⟩ := k
    simp [run_many_eq, hf, hu]
  | @cons c d' e a as first more ih =>
    have hmoves := (Rounds.cons first more).movesFrom k
    have hne := hmoves.offset_ne first
    rw [run_many_eq, first]
    simp only [hne, ↓reduceIte]
    rw [ih k, Result.map_ok]

/-- A repetition that succeeds has made rounds to where the rule declines or stalls. -/
theorem many_eq_ok (h : (many r).run c = .ok as d) :
    Rounds r c as d ∧ (r.Declines d ∨ r.Stalls d) := by
  induction hn : c.rest.length using Nat.strongRecOn generalizing c as with
  | ind n ih =>
    rw [run_many_eq] at h
    cases hr : r.run c with
    | ok a e =>
      rw [hr] at h
      by_cases ho : e.offset = c.offset
      · obtain rfl : e = c := Cursor.eq_of_offset_eq (r.leadsFrom c a e hr).text_eq ho
        simp only [↓reduceIte, Result.ok.injEq] at h
        obtain ⟨rfl, rfl⟩ := h
        exact ⟨.nil e, .inr ⟨a, hr⟩⟩
      · have hlt := (r.leadsFrom c a e hr).length_lt ho
        simp only [ho, ↓reduceIte] at h
        obtain ⟨bs, hbs, rfl⟩ := Result.map_eq_ok.1 h
        obtain ⟨hrounds, hend⟩ := ih _ (by omega) hbs rfl
        exact ⟨.cons hr hrounds, hend⟩
    | fail f =>
      rw [hr] at h
      obtain ⟨hu, rfl, rfl⟩ := Result.passOver_eq_ok.1 h
      exact ⟨.nil c, .inl ⟨f, hr, hu⟩⟩
    | endless => simp [hr] at h

theorem separated_rounds_eq_ok {bound : Text} {c : Cursor} {as : List α}
    (h : Result.separated r.run s.run bound c = .ok as e) :
    Rounds (preceded s r) c as e ∧ (preceded s r).Declines e := by
  rw [separated_round] at h
  cases hr : (preceded s r).run c with
  | ok a d =>
    rw [hr] at h
    cases bound with
    | nil => cases h
    | cons x bound =>
      obtain ⟨bs, hbs, rfl⟩ := Result.map_eq_ok.1 h
      obtain ⟨hrounds, hend⟩ := separated_rounds_eq_ok hbs
      exact ⟨.cons hr hrounds, hend⟩
  | fail f =>
    rw [hr] at h
    obtain ⟨hu, rfl, rfl⟩ := Result.passOver_eq_ok.1 h
    exact ⟨.nil c, f, hr, hu⟩
  | endless => simp [hr] at h

/-- A list is all the items that can be read one behind the other, in their order, and ends with
the last of them. -/
theorem separated_eq_ok_iff :
    (separated r s).run c = .ok as e ↔ Listed r s c as e ∧ StopsAt r s as e := by
  constructor
  · intro h
    rw [run_separated] at h
    cases hr : r.run c with
    | ok a d =>
      simp only [hr] at h
      obtain ⟨bs, hbs, rfl⟩ := Result.map_eq_ok.1 h
      obtain ⟨hrounds, hend⟩ := separated_rounds_eq_ok hbs
      exact ⟨.some hr hrounds, hend⟩
    | fail f =>
      rw [hr] at h
      obtain ⟨hu, rfl, rfl⟩ := Result.passOver_eq_ok.1 h
      exact ⟨.none c, f, hr, hu⟩
    | endless => simp [hr] at h
  · rintro ⟨hlisted, hstop⟩
    cases hlisted with
    | none =>
      obtain ⟨f, hf, hu⟩ : r.Declines c := hstop
      simp [run_separated, hf, hu]
    | some first more =>
      have hend : (preceded s r).Declines e := hstop
      rw [run_separated_ok first, separated_eq_many (more.movesFrom hend) (Nat.le_refl _),
        more.run_many hend, Result.map_ok]

theorem delimited_eq_ok_iff {γ : Type} {opening : Rule β} {closing : Rule γ} :
    (delimited opening r closing).run c = .ok a e ↔ ∃ x d g y, opening.run c = .ok x d ∧
      r.run d = .ok a g ∧ closing.run g = .ok y e := by
  constructor
  · intro h
    obtain ⟨⟨x, _⟩, hopened, rfl⟩ := Result.map_eq_ok.1 h
    obtain ⟨d, hd, hinner⟩ := pair_eq_ok hopened
    obtain ⟨⟨_, y⟩, hclosed, rfl⟩ := Result.map_eq_ok.1 hinner
    obtain ⟨g, hg, hy⟩ := pair_eq_ok hclosed
    exact ⟨x, d, g, y, hd, hg, hy⟩
  · rintro ⟨x, d, g, y, hd, hg, hy⟩
    have hinner : (terminated r closing).run d = .ok a e := by
      rw [terminated, run_map, run_pair, hg, Result.bind_ok, hy]
      rfl
    rw [delimited, preceded, run_map, run_pair, hd, Result.bind_ok, hinner]
    rfl

/-- As long as a separator and an item behind it consume something, a list is nothing if its first
item declines, and otherwise that item and then many pairs of a separator and an item, with the same
outcome in all cases. Its items are those that are read one behind the other, in order, and where a
separator has no item behind it, the list ends before the separator. In a list of attributes the
blanks before the bracket are therefore left to the bracket. -/
theorem separated_item_then_many :
    (∀ (α β : Type) (r : Rule α) (s : Rule β) (c : Cursor),
      ((∀ a d, r.run c = .ok a d → (preceded s r).MovesFrom d) →
        (separated r s).run c =
          match r.run c with
          | .ok a d => ((many (preceded s r)).run d).map (a :: ·)
          | .fail f => if f.committed then .fail f else .ok [] c
          | .endless => .endless) ∧
      (∀ as e, (separated r s).run c = .ok as e ↔ Listed r s c as e ∧ StopsAt r s as e) ∧
      ∀ a as e b d, Listed r s c (a :: as) e → s.run e = .ok b d → r.Declines d →
        (separated r s).run c = .ok (a :: as) e) ∧
    ∀ c as e, Grammar.attributeList.run c = .ok as e ↔ ∃ t d g u, blanks.run c = .ok t d ∧
      Listed Grammar.attributePair (blanks1 "whitespace") d as g ∧
      StopsAt Grammar.attributePair (blanks1 "whitespace") as g ∧
      (pair blanks (literal "]" "attribute or closing bracket ']'")).run g = .ok u e := by
  refine ⟨fun α β r s c => ⟨run_separated_eq, fun _ _ => separated_eq_ok_iff,
    fun a as e b d hlisted hs hr => ?_⟩, fun c as e => ?_⟩
  · have hend : (preceded s r).Declines e := preceded_declines_iff.2 (.inr ⟨b, d, hs, hr⟩)
    exact separated_eq_ok_iff.2 ⟨hlisted, hend⟩
  · simp only [Grammar.attributeList, delimited_eq_ok_iff, separated_eq_ok_iff, and_assoc]

/-- The comma behind the last item is left over, as it is by the repetition of commas and items. -/
theorem separated_item_then_many_dangling :
    (separated (token "x") (token ",")).run (.ofText "x,x,") =
        .ok ["x", "x"] (.place "x,x," 3) ∧
      ((many (preceded (token ",") (token "x"))).run (.place "x,x," 1)).map (("x" : Text) :: ·) =
        (separated (token "x") (token ",")).run (.ofText "x,x,") := by
  have hmoves : (preceded (token ",") (token "x")).Consumes := .preceded_left (.literal _ _ _)
  obtain ⟨unrolls, -, dangling⟩ :=
    separated_item_then_many.1 _ _ (token "x") (token ",") (.ofText "x,x,")
  constructor
  · exact dangling "x" ["x"] (.place "x,x," 3) "," (.place "x,x," 4)
      (.some rfl (.cons rfl (.nil _))) rfl ⟨_, rfl, rfl⟩
  · exact (unrolls fun _ d _ => hmoves.movesFrom d).symm

end Rule

end CurlyMarkup
