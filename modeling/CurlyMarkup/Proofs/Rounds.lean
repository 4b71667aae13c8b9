import CurlyMarkup.Proofs.Repetition
set_option autoImplicit false

/-!
How long repetitions go on, counted in rounds without any bound. One that stops where a round
consumes nothing makes no more rounds than characters are left. One of separators and items does
not look at what it consumes, and goes on for ever where a round consumes nothing.
-/

namespace CurlyMarkup

namespace Rule

variable {α β : Type} {r : Rule α} {c d e : Cursor} {a : α} {as bs : List α}

/-- The rule succeeds again and again, each time where the last time has led. -/
inductive Rounds (r : Rule α) : Cursor → List α → Cursor → Prop where
  | nil (c : Cursor) : Rounds r c [] c
  | cons {c d e : Cursor} {a : α} {as : List α} (first : r.run c = .ok a d)
      (more : Rounds r d as e) : Rounds r c (a :: as) e

/-- The rule succeeds here and consumes nothing. -/
def Stalls (r : Rule α) (c : Cursor) : Prop := ∃ a, r.run c = .ok a c

theorem length_lt_of_not_stalls (h : ¬ r.Stalls c) (hr : r.run c = .ok a d) :
    d.rest.length < c.rest.length := by
  rcases r.leadsFrom c a d hr with rfl | ⟨-, hlt⟩
  · exact absurd ⟨a, hr⟩ h
  · exact hlt

/-- A rule consumes something wherever it succeeds if and only if it stalls nowhere. -/
theorem consumes_iff : r.Consumes ↔ ∀ c, ¬ r.Stalls c := by
  constructor
  · rintro h c ⟨a, hr⟩
    have := h c a c hr
    omega
  · exact fun h c a d hr => length_lt_of_not_stalls (h c) hr

/-- Nowhere on the way of the rule, round by round, does it stall. -/
def MovesFrom (r : Rule α) (c : Cursor) : Prop := ∀ as d, Rounds r c as d → ¬ r.Stalls d

theorem MovesFrom.not_stalls (h : r.MovesFrom c) : ¬ r.Stalls c := h [] c (.nil c)

theorem MovesFrom.next (h : r.MovesFrom c) (hr : r.run c = .ok a d) : r.MovesFrom d :=
  fun _ _ more => h _ _ (.cons hr more)

/-- Each round that moves on uses up a character. -/
theorem Rounds.length_le (h : Rounds r c as d) (k : r.MovesFrom c) :
    as.length+d.rest.length ≤ c.rest.length := by
  induction h with
  | nil => simp
  | cons first _ ih =>
    have hlt := length_lt_of_not_stalls k.not_stalls first
    have hle := ih (k.next first)
    simp only [List.length_cons]
    omega

theorem Rounds.append (h : Rounds r c as d) (k : Rounds r d bs e) : Rounds r c (as ++ bs) e := by
  induction h with
  | nil => exact k
  | cons first _ ih => exact .cons first (ih k)

/-- Where a rule stalls there is no end of rounds. -/
theorem Stalls.rounds (h : r.Stalls c) (n : Nat) : ∃ as, Rounds r c as c ∧ as.length = n := by
  obtain ⟨a, hr⟩ := h
  induction n with
  | zero => exact ⟨[], .nil c, rfl⟩
  | succ n ih =>
    obtain ⟨as, has, hn⟩ := ih
    exact ⟨a :: as, .cons hr has, by simp [hn]⟩

/-- There is no end of rounds if and only if they lead to where the rule stalls. -/
theorem rounds_unbounded_iff (r : Rule α) (c : Cursor) :
    (∀ n, ∃ as d, Rounds r c as d ∧ n ≤ as.length) ↔ ∃ as d, Rounds r c as d ∧ r.Stalls d := by
  constructor
  · intro h
    refine Classical.byContradiction fun hno => ?_
    have hmoves : r.MovesFrom c := fun as d has hd => hno ⟨as, d, has, hd⟩
    obtain ⟨as, d, has, hn⟩ := h (c.rest.length+1)
    have := has.length_le hmoves
    omega
  · rintro ⟨as, d, has, hd⟩ n
    obtain ⟨bs, hbs, hn⟩ := hd.rounds n
    refine ⟨as ++ bs, d, has.append hbs, ?_⟩
    simp only [List.length_append]
    omega

/-- A repetition that leaves its rounds at `d` where the rule fails. What the rounds have given is
kept unless the failure is committed. -/
def Leaves (r : Rule α) (d : Cursor) (as : List α) (result : Result (List α)) : Prop :=
  ∃ f, r.run d = .fail f ∧ result = if f.committed then .fail f else .ok as d

theorem Leaves.cons {result : Result (List α)} (h : r.Leaves d as result) (a : α) :
    r.Leaves d (a :: as) (result.map (a :: ·)) := by
  obtain ⟨f, hf, rfl⟩ := h
  refine ⟨f, hf, ?_⟩
  cases f.committed <;> rfl

theorem Leaves.ne_endless {result : Result (List α)} (h : r.Leaves d as result) :
    result ≠ .endless := by
  obtain ⟨f, -, rfl⟩ := h
  cases f.committed <;> nofun

/-- A repetition leaves its rounds where the rule stalls or fails, and has not stalled before. -/
theorem many_rounds (h : r.Ends) (c : Cursor) :
    ∃ as d, Rounds r c as d ∧ as.length+d.rest.length ≤ c.rest.length ∧
      (r.Stalls d ∧ (many r).run c = .ok as d ∨ r.Leaves d as ((many r).run c)) := by
  induction hn : c.rest.length using Nat.strongRecOn generalizing c with
  | ind n ih =>
    rw [run_many_eq]
    cases hr : r.run c with
    | ok a d =>
      by_cases ho : d.offset = c.offset
      · obtain rfl : d = c := Cursor.eq_of_offset_eq (r.leadsFrom c a d hr).text_eq ho
        exact ⟨[], d, .nil d, by simp [hn], .inl ⟨⟨a, hr⟩, if_pos rfl⟩⟩
      · have hlt := (r.leadsFrom c a d hr).length_lt ho
        obtain ⟨as, e, has, hle, hend⟩ := ih _ (by omega) d rfl
        refine ⟨a :: as, e, .cons hr has, ?_, ?_⟩
        · simp only [List.length_cons]
          omega
        · simp only [ho, ↓reduceIte]
          rcases hend with ⟨hstall, hrun⟩ | hleaves
          · exact .inl ⟨hstall, by rw [hrun, Result.map_ok]⟩
          · exact .inr (hleaves.cons a)
    | fail f => exact ⟨[], c, .nil c, by simp [hn], .inr ⟨f, hr, rfl⟩⟩
    | endless => exact absurd hr (h c)

section

variable {s : Rule β}

/-- The rounds of a list are those of a separator and an item as one rule. -/
theorem separated_round (r : Rule α) (s : Rule β) (bound : Text) (c : Cursor) :
    Result.separated r.run s.run bound c =
      match (preceded s r).run c with
      | .ok a d =>
        match bound with
        | [] => .endless
        | _ :: bound => (Result.separated r.run s.run bound d).map (a :: ·)
      | .fail f => if f.committed then .fail f else .ok [] c
      | .endless => .endless := by
  rw [Result.separated.eq_def, preceded, run_map, run_pair]
  cases hs : s.run c with
  | ok b d =>
    simp only [Result.bind_ok]
    cases r.run d with
    | ok a e => cases bound <;> rfl
    | fail f => rfl
    | endless => rfl
  | fail f => rfl
  | endless => rfl

/-- No bound is enough for rounds that come to where they stall. -/
theorem separated_stalls (h : Rounds (preceded s r) c as d) (k : (preceded s r).Stalls d)
    (bound : Text) : Result.separated r.run s.run bound c = .endless := by
  induction h generalizing bound with
  | nil c =>
    obtain ⟨a, ha⟩ := k
    induction bound with
    | nil => rw [separated_round, ha]
    | cons x bound ih => simp only [separated_round, ha, ih, Result.map_endless]
  | cons first _ ih =>
    cases bound with
    | nil => rw [separated_round, first]
    | cons x bound => simp only [separated_round, first, ih k bound, Result.map_endless]

theorem separated_leaves (h : (preceded s r).Ends) (bound : Text) (c : Cursor)
    (k : (preceded s r).MovesFrom c) (hb : c.rest.length ≤ bound.length) :
    ∃ as d, Rounds (preceded s r) c as d ∧
      (preceded s r).Leaves d as (Result.separated r.run s.run bound c) := by
  induction hn : c.rest.length using Nat.strongRecOn generalizing c bound with
  | ind n ih =>
    rw [separated_round]
    cases hr : (preceded s r).run c with
    | ok a d =>
      have hlt := length_lt_of_not_stalls k.not_stalls hr
      obtain ⟨x, u, rfl, hu⟩ := Result.bound_cons hlt hb
      obtain ⟨as, e, has, hleaves⟩ := ih _ (by omega) u d (k.next hr) hu rfl
      exact ⟨a :: as, e, .cons hr has, hleaves.cons a⟩
    | fail f => exact ⟨[], c, .nil c, f, hr, rfl⟩
    | endless => exact absurd hr (h c)

theorem run_separated_ok (first : r.run c = .ok a d) : (separated r s).run c =
    (Result.separated r.run s.run d.rest d).map (a :: ·) := by
  rw [run_separated, first]

/-- A list whose first item has been read goes on for ever, or leaves its rounds where a separator
or an item is missing. -/
theorem separated_rounds (hr : r.Ends) (hs : s.Ends) (first : r.run c = .ok a d) :
    (separated r s).run c = .endless ∧ (∃ as e, Rounds (preceded s r) d as e ∧
      (preceded s r).Stalls e) ∨
    (preceded s r).MovesFrom d ∧ ∃ as e, Rounds (preceded s r) d as e ∧
      (preceded s r).Leaves e (a :: as) ((separated r s).run c) := by
  rw [run_separated_ok first]
  by_cases hstall : ∃ as e, Rounds (preceded s r) d as e ∧ (preceded s r).Stalls e
  · obtain ⟨as, e, has, he⟩ := hstall
    refine .inl ⟨?_, as, e, has, he⟩
    rw [separated_stalls has he, Result.map_endless]
  · have hmoves : (preceded s r).MovesFrom d := fun as e has he => hstall ⟨as, e, has, he⟩
    obtain ⟨as, e, has, hleaves⟩ := separated_leaves (.preceded hs hr) d.rest d hmoves (Nat.le_refl _)
    exact .inr ⟨hmoves, as, e, has, hleaves.cons a⟩

theorem separated_endless_iff (hr : r.Ends) (hs : s.Ends) (c : Cursor) :
    (separated r s).run c = .endless ↔ ∃ a d, r.run c = .ok a d ∧
      ∃ as e, Rounds (preceded s r) d as e ∧ (preceded s r).Stalls e := by
  constructor
  · intro h
    cases first : r.run c with
    | ok a d =>
      rcases separated_rounds hr hs first with ⟨-, hstall⟩ | ⟨-, as, e, -, hleaves⟩
      · exact ⟨a, d, rfl, hstall⟩
      · exact absurd h hleaves.ne_endless
    | fail f =>
      rw [run_separated, first] at h
      cases hf : f.committed <;> simp [hf] at h
    | endless => exact absurd first (hr c)
  · rintro ⟨a, d, first, as, e, has, he⟩
    rw [run_separated_ok first, separated_stalls has he, Result.map_endless]

/-- A separator and an item that stall leave the item to stall by itself. -/
theorem Stalls.item (h : (preceded s r).Stalls c) : r.Stalls c := by
  obtain ⟨a, hrun⟩ := h
  rw [preceded, run_map] at hrun
  cases hp : (pair s r).run c with
  | ok p e =>
    rw [hp, Result.map_ok, Result.ok.injEq] at hrun
    obtain ⟨rfl, rfl⟩ := hrun
    obtain ⟨d, hs, hr⟩ := pair_eq_ok hp
    -- the item leads back to where the separator began
    have hle := (r.leadsFrom d _ _ hr).length_le
    rcases s.leadsFrom e _ d hs with rfl | ⟨-, hlt⟩
    · exact ⟨_, hr⟩
    · omega
  | fail => simp [hp] at hrun
  | endless => simp [hp] at hrun

/-- A list comes to an end everywhere if and only if a separator and an item never stall. -/
theorem separated_ends_iff (hr : r.Ends) (hs : s.Ends) :
    (separated r s).Ends ↔ (preceded s r).Consumes := by
  rw [consumes_iff]
  constructor
  · intro h c hstall
    obtain ⟨a, first⟩ := hstall.item
    exact h c ((separated_endless_iff hr hs c).2 ⟨a, c, first, [], c, .nil c, hstall⟩)
  · intro h c hend
    obtain ⟨-, -, -, -, e, -, he⟩ := (separated_endless_iff hr hs c).1 hend
    exact h e he

end

/-- In every list of the rule a separator and an item consume something, and in every tree a
turn. -/
def Moves : {α : Type} → Rule α → Prop
  | _, .pair r s | _, .orElse r s => r.Moves ∧ s.Moves
  | _, .relabel _ r | _, .optional r | _, .many r | _, .map _ r | _, .commit r | _, .blame _ r =>
    r.Moves
  | _, .separated r s => r.Moves ∧ s.Moves ∧ (preceded s r).Consumes
  | _, .nested r t _ => r.Moves ∧ t.Moves ∧ t.Consumes
  | _, .succeed _ | _, .refuse _ | _, .literal _ _ | _, .takeWhile _ | _, .takeWhile1 _ _
  | _, .endOfText _ | _, .unescape _ _ _ _ => True

theorem Moves.ends {α : Type} {q : Rule α} (h : q.Moves) : q.Ends := by
  induction q with
  | succeed => exact .succeed _
  | refuse => exact .refuse _
  | literal => exact .literal _ _
  | takeWhile => exact .takeWhile _
  | takeWhile1 => exact .takeWhile1 _ _
  | endOfText => exact .endOfText _
  | unescape => exact .unescape _ _ _ _
  | pair r s hr hs => exact .pair (hr h.1) (hs h.2)
  | orElse r s hr hs => exact .orElse (hr h.1) (hs h.2)
  | relabel t r hr => exact .relabel t (hr h)
  | optional r hr => exact .optional (hr h)
  | many r hr => exact .many (hr h)
  | separated r s hr hs =>
    obtain ⟨hitem, hseparator, hmoves⟩ := h
    exact (separated_ends_iff (hr hitem) (hs hseparator)).2 hmoves
  | map f r hr => exact .map f (hr h)
  | commit r hr => exact .commit (hr h)
  | blame k r hr => exact .blame k (hr h)
  | nested r t build hr ht =>
    obtain ⟨hhead, hturn, hmoves⟩ := h
    exact .nested build (hr hhead) (ht hturn) hmoves

/-- A repetition ends with its rule, after one round more at most than characters are left. A list
goes on for ever exactly where its rounds come to a separator and an item that consume nothing, so
it ends everywhere if and only if these always consume something; and where all lists are like
that, every rule ends. -/
theorem repetition_rounds {r : Rule α} {s : Rule β} (hr : r.Ends) (hs : s.Ends) :
    (∀ c, ∃ as d, Rounds r c as d ∧ as.length+d.rest.length ≤ c.rest.length ∧
      (r.Stalls d ∧ (many r).run c = .ok as d ∨ r.Leaves d as ((many r).run c))) ∧
    (∀ c, (separated r s).run c = .endless ↔ ∃ a d, r.run c = .ok a d ∧
      ∀ n, ∃ as e, Rounds (preceded s r) d as e ∧ n ≤ as.length) ∧
    (∀ c a d, r.run c = .ok a d → (preceded s r).MovesFrom d →
      ∃ as e, Rounds (preceded s r) d as e ∧ as.length+e.rest.length ≤ d.rest.length ∧
        (preceded s r).Leaves e (a :: as) ((separated r s).run c)) ∧
    ((separated r s).Ends ↔ (preceded s r).Consumes) ∧
    ∀ (γ : Type) (q : Rule γ), q.Moves → q.Ends := by
  refine ⟨many_rounds hr, fun c => ?_, fun c a d first k => ?_, separated_ends_iff hr hs,
    fun _ _ h => h.ends⟩
  · simp only [rounds_unbounded_iff]
    exact separated_endless_iff hr hs c
  · rcases separated_rounds hr hs first with ⟨-, as, e, has, he⟩ | ⟨hmoves, as, e, has, hleaves⟩
    · exact absurd he (k as e has)
    · exact ⟨as, e, has, has.length_le hmoves, hleaves⟩

/-- Commas consume something, even where no blank stands between them. -/
theorem repetition_rounds_comma : (separated (token ",") blanks).Ends := by
  obtain ⟨-, -, -, ends, -⟩ := repetition_rounds (r := token ",") (s := blanks) (.literal _ _)
    (.takeWhile _)
  exact ends.2 (.preceded_right (.literal _ _ _))

/-- A list of nothing between nothing has no end. -/
theorem separated_blanks_endless :
    blanks.Ends ∧ (separated blanks blanks).run (.ofText []) = .endless ∧
      ∀ n, ∃ as e, Rounds (preceded blanks blanks) (.ofText []) as e ∧ n ≤ as.length := by
  have hstall : (preceded blanks blanks).Stalls (.ofText []) := ⟨[], rfl⟩
  exact ⟨.takeWhile _, rfl, (rounds_unbounded_iff _ _).2 ⟨[], _, .nil _, hstall⟩⟩

end Rule

end CurlyMarkup
