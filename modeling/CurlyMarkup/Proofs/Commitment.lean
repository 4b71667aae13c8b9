import CurlyMarkup.Proofs.Repetition
import CurlyMarkup.Rule.Traced
set_option autoImplicit false

/-!
What a committed failure does to a run. Nothing is tried any more once a rule has returned one, and
the whole run fails with it; where a run fails so, some rule on the way has committed the failure.
-/

namespace CurlyMarkup

/-- The failure as it leaves the rules around it, which blame the constructs `around`. -/
def Failure.blamedBy (f : Failure) (around : List Construct) : Failure :=
  { f with construct := f.construct <|> around.head? }

theorem Failure.blamedBy_nil (f : Failure) : f.blamedBy [] = f := by
  simp [blamedBy]

theorem Failure.blamedBy_append (f : Failure) (around : List Construct) (k : Construct) :
    f.blamedBy (around ++ [k]) = (f.blamedBy around).blame k := by
  cases hc : f.construct <;> cases around <;> simp [blamedBy, blame, hc]

theorem Failure.commit_eq {f : Failure} (h : f.committed = true) : f.commit = f := by
  obtain ⟨_, _, _, _⟩ := f
  cases h
  rfl

namespace Traced

variable {α β η : Type}

@[simp] theorem result_bind (t : Traced α) (f : α → Cursor → Traced β) :
    (t.bind f).result = t.result.bind fun a c => (f a c).result := by
  obtain ⟨r, es⟩ := t
  cases r <;> rfl

@[simp] theorem result_recover (t : Traced α) (f : Failure → Traced α) :
    (t.recover f).result = t.result.recover fun e => (f e).result := by
  obtain ⟨r, es⟩ := t
  cases r with
  | fail e => cases he : e.committed <;> simp [recover, andThen, quiet, he]
  | ok | endless => rfl

@[simp] theorem result_map (f : α → β) (t : Traced α) : (t.map f).result = t.result.map f := rfl

theorem result_attempt (stop : Result β) (t : Traced α) (f : α → Cursor → Traced β) :
    (t.attempt stop f).result = match t.result with
      | .ok a c => (f a c).result
      | .fail e => if e.committed then .fail e else stop
      | .endless => .endless := by
  obtain ⟨r, es⟩ := t
  cases r <;> rfl

theorem result_many (step : Cursor → Traced α) (bound : Text) (c : Cursor) :
    (many step bound c).result = Result.many (fun d => (step d).result) bound c := by
  induction bound generalizing c with
  | nil =>
    rw [many, Result.many, result_attempt]
    cases (step c).result <;> simp only
    split <;> rfl
  | cons x bound ih =>
    rw [many, Result.many, result_attempt]
    cases (step c).result <;> simp only
    split
    · rfl
    · rw [result_map, ih]

theorem result_separated (item : Cursor → Traced α) (separator : Cursor → Traced β) (bound : Text)
    (c : Cursor) : (separated item separator bound c).result =
      Result.separated (fun d => (item d).result) (fun d => (separator d).result) bound c := by
  induction bound generalizing c with
  | nil =>
    rw [separated, Result.separated, result_attempt]
    cases (separator c).result with
    | ok b d => exact result_attempt _ (item d) _
    | fail | endless => rfl
  | cons x bound ih =>
    rw [separated, Result.separated, result_attempt]
    cases (separator c).result with
    | ok b d => cases hi : (item d).result <;> simp only [result_attempt, hi, result_map, ih]
    | fail | endless => rfl

theorem result_nested (turn : Cursor → Traced (Turn η β)) (build : η → List β → β) (bound : Text)
    (head : η) (items : List β) (outer : List (η × List β)) (c : Cursor) :
    (nested turn build bound head items outer c).result =
      Result.nested (fun d => (turn d).result) build bound head items outer c := by
  induction bound generalizing head items outer c with
  | nil =>
    rw [nested, Result.nested, result_bind]
    rcases (turn c).result with ⟨_ | _ | _, d⟩ | _ | _ <;> try rfl
    cases outer <;> rfl
  | cons x bound ih =>
    rw [nested, Result.nested, result_bind]
    rcases (turn c).result with ⟨_ | _ | _, d⟩ | _ | _ <;> try rfl
    · exact ih ..
    · exact ih ..
    · cases outer with
      | nil => rfl
      | cons => exact ih ..

end Traced

namespace Rule

theorem result_inside {α : Type} (r : Rule α) (c : Cursor) :
    (r.observe c).result = (r.inside c).result := rfl

/-- The record changes nothing about the result. -/
theorem result_observe {α : Type} (r : Rule α) (c : Cursor) : (r.observe c).result = r.run c := by
  induction r generalizing c with
  | succeed | refuse | literal | takeWhile | takeWhile1 | endOfText | unescape => rfl
  | pair r s ihr ihs =>
    rw [result_inside, inside_pair, Traced.result_bind, ihr, run_pair]
    simp only [Traced.result_map, ihs]
  | orElse r s ihr ihs =>
    rw [result_inside, inside_orElse, Traced.result_recover, ihr, run_orElse]
    simp only [ihs]
  | relabel expected r ih =>
    rw [result_inside, inside_relabel, Traced.result_recover, ih, run_relabel]
    rfl
  | optional r ih =>
    rw [result_inside, inside_optional, Traced.result_recover, Traced.result_map, ih, run_optional]
    rfl
  | many r ih =>
    rw [result_inside, inside_many, Traced.result_many, funext ih, run_many]
  | separated r s ihr ihs =>
    rw [result_inside, inside_separated, Traced.result_attempt, ihr, run_separated]
    cases r.run c with
    | ok a d =>
      have hs := Traced.result_separated r.observe s.observe d.rest d
      rw [funext ihr, funext ihs] at hs
      exact congrArg (Result.map (a :: ·)) hs
    | fail | endless => rfl
  | map f r ih => rw [result_inside, inside_map, Traced.result_map, ih, run_map]
  | commit r ih =>
    rw [result_inside, inside_commit, run_commit, ← ih]
    rfl
  | blame k r ih =>
    rw [result_inside, inside_blame, run_blame, ← ih]
    rfl
  | nested opening turn build iho iht =>
    rw [result_inside, inside_nested, Traced.result_bind, iho, run_nested]
    simp only [Traced.result_nested, funext iht]

/-- The rule itself commits the failure `f` at a place. -/
inductive Commits : {α : Type} → Rule α → Cursor → Failure → Prop where
  | commit {α : Type} {r : Rule α} {c : Cursor} {f : Failure} (failed : r.run c = .fail f)
      (uncommitted : f.committed = false) : Commits r.commit c f.commit
  | unescape {normal : Char → Bool} {mark : Char} {table : EscapeTable} {k : Construct} {c : Cursor}
      {f : Failure} (failed : (unescape normal mark table k).run c = .fail f) :
      Commits (unescape normal mark table k) c f

end Rule

namespace Event

/-- A rule has returned what it gives at that place. -/
def Holds : Event → Prop
  | .tried _ _ => True
  | .returned r c result _ => result = r.run c

/-- A rule has returned a committed failure, which leaves the run as `g`. -/
inductive Aborts : Event → Failure → Prop where
  | mk {α : Type} {r : Rule α} {c : Cursor} {f : Failure} {around : List Construct}
      (committed : f.committed = true) : Aborts (.returned r c (.fail f) around) (f.blamedBy around)

theorem Aborts.committed {e : Event} {g : Failure} (h : e.Aborts g) : g.committed = true := by
  obtain ⟨hf⟩ := h
  exact hf

theorem isTry_within (e : Event) (k : Construct) : (e.within k).isTry = e.isTry := by
  cases e <;> rfl

theorem Holds.within {e : Event} (h : e.Holds) (k : Construct) : (e.within k).Holds := by
  cases e with
  | tried => trivial
  | returned => exact h

theorem aborts_within {e : Event} {k : Construct} {g : Failure} (h : (e.within k).Aborts g) :
    ∃ f, e.Aborts f ∧ g = f.blame k := by
  cases e with
  | tried => cases h
  | returned r c result around =>
    obtain ⟨hf⟩ := h
    exact ⟨_, .mk hf, Failure.blamedBy_append ..⟩

/-- A rule that commits a failure has returned it, and it leaves the run as `g`. -/
inductive Commits : Event → Failure → Prop where
  | mk {α : Type} {r : Rule α} {c : Cursor} {f : Failure} {around : List Construct}
      (commits : r.Commits c f) : Commits (.returned r c (.fail f) around) (f.blamedBy around)

theorem Commits.within {e : Event} {g : Failure} (h : e.Commits g) (k : Construct) :
    (e.within k).Commits (g.blame k) := by
  obtain ⟨hf⟩ := h
  rw [← Failure.blamedBy_append]
  exact .mk hf

end Event

/-- Every rule that is tried returns after all that is tried inside it, and none returns that has
not been tried. -/
inductive Event.Bracketed : List Event → Prop where
  | nil : Bracketed []
  | rule {α : Type} (r : Rule α) (c : Cursor) (result : Result α) (around : List Construct)
      {inside rest : List Event} (within : Bracketed inside) (after : Bracketed rest) :
      Bracketed (.tried r c :: inside ++ .returned r c result around :: rest)

namespace Event.Bracketed

variable {es fs : List Event}

theorem append (h : Bracketed es) (k : Bracketed fs) : Bracketed (es ++ fs) := by
  induction h with
  | nil => exact k
  | rule r c result around within _ _ ih =>
    rw [List.append_assoc, List.cons_append]
    exact .rule r c result around within ih

theorem map_within (h : Bracketed es) (k : Construct) : Bracketed (es.map (·.within k)) := by
  induction h with
  | nil => exact .nil
  | rule r c result around _ _ ihw iha =>
    rw [List.map_append, List.map_cons, List.map_cons]
    exact .rule r c result (around ++ [k]) ihw iha

/-- What has returned is among what has been tried before. -/
theorem tried_before (h : Bracketed es) {α : Type} {r : Rule α} {c : Cursor} {result : Result α}
    {around : List Construct} {before after : List Event}
    (he : es = before ++ .returned r c result around :: after) : .tried r c ∈ before := by
  induction h generalizing before after with
  | nil => simp at he
  | @rule β s d result' around' inside rest _ _ ihw iha =>
    rcases List.append_eq_append_iff.1 he with ⟨mid, rfl, hm⟩ | ⟨mid, hb, hm⟩
    · -- it returns behind the rule at the front, or is that rule
      cases mid with
      | nil =>
        cases hm
        exact List.mem_append_left _ List.mem_cons_self
      | cons e mid =>
        exact List.mem_append_right _ (List.mem_cons_of_mem _ (iha (List.cons.inj hm).2))
    · cases mid with
      | nil =>
        cases hm
        rw [← List.append_nil before, ← hb]
        exact List.mem_cons_self
      | cons e mid =>
        -- it returns inside the rule at the front, whose own try is not a return
        cases before with
        | nil =>
          cases hm
          cases hb
        | cons e' before =>
          cases hm
          exact List.mem_cons_of_mem _ (ihw (List.cons.inj hb).2)

end Event.Bracketed

/-- The first committed failure is the last thing that happens. One that has not been committed on
the way is in `own`. -/
structure Traced.AbortsBut {α : Type} (own : Failure → Prop) (t : Traced α) : Prop where
  bracketed : Event.Bracketed t.events
  told : ∀ e ∈ t.events, e.Holds
  last : t.events.Pairwise fun d e => ∀ g, d.Aborts g → e.isTry = false
  result : ∀ e ∈ t.events, ∀ g, e.Aborts g → t.result = .fail g
  origin : ∀ g, t.result = .fail g → g.committed = true → own g ∨ ∃ e ∈ t.events, e.Commits g

abbrev Traced.Aborts {α : Type} (t : Traced α) : Prop := t.AbortsBut fun _ => False

namespace Traced

variable {α β η : Type} {own : Failure → Prop} {t : Traced α}

theorem Aborts.but (h : t.Aborts) : t.AbortsBut own :=
  ⟨h.bracketed, h.told, h.last, h.result, fun g hg hc => .inr ((h.origin g hg hc).resolve_left id)⟩

theorem AbortsBut.quiet {r : Result α} (h : ∀ g, r = .fail g → g.committed = true → own g) :
    (quiet r).AbortsBut own where
  bracketed := .nil
  told := by simp [Traced.quiet]
  last := .nil
  result := by simp [Traced.quiet]
  origin g hg hc := .inl (h g hg hc)

theorem Aborts.quiet {r : Result α} (h : ∀ g, r = .fail g → g.committed = false) :
    (quiet r).Aborts :=
  AbortsBut.quiet fun g hg hc => by simp [h g hg] at hc

theorem Aborts.quiet_ok (a : α) (c : Cursor) : (Traced.quiet (.ok a c)).Aborts :=
  quiet fun _ h => nomatch h

theorem Aborts.quiet_endless : (Traced.quiet (.endless : Result α)).Aborts :=
  quiet fun _ h => nomatch h

/-- What is done with a result comes after what has led to it. A committed failure has to be passed
on, and nothing can be done after it. -/
theorem Aborts.andThen {f : Result α → Traced β} (h : t.Aborts)
    (pass : ∀ e, t.result = .fail e → e.committed = true → f t.result = Traced.quiet (.fail e))
    (hf : (∀ e, t.result = .fail e → e.committed = false) → (f t.result).Aborts) :
    (t.andThen f).Aborts := by
  by_cases hc : ∃ e, t.result = .fail e ∧ e.committed = true
  · -- passed on, the failure adds no event
    obtain ⟨e, he, hc⟩ := hc
    have hevents : (t.andThen f).events = t.events := by
      rw [Traced.andThen, pass e he hc]
      exact List.append_nil _
    have hresult : (t.andThen f).result = .fail e := by
      rw [Traced.andThen, pass e he hc]
      rfl
    constructor
    case bracketed => rw [hevents]; exact h.bracketed
    case told => rw [hevents]; exact h.told
    case last => rw [hevents]; exact h.last
    case result =>
      rw [hevents, hresult]
      intro d hd g hg
      rw [← Result.fail.inj (he.symm.trans (h.result d hd g hg))]
    case origin =>
      rw [hevents, hresult]
      intro g hg hgc
      cases hg
      exact h.origin e he hgc
  · -- no event so far aborts, since the run would have failed with it
    have passes : ∀ e, t.result = .fail e → e.committed = false :=
      fun e he => Bool.eq_false_iff.2 fun k => hc ⟨e, he, k⟩
    have none : ∀ e ∈ t.events, ∀ g, ¬ e.Aborts g :=
      fun e he g hg => hc ⟨g, h.result e he g hg, hg.committed⟩
    have hf := hf passes
    constructor
    case bracketed => exact h.bracketed.append hf.bracketed
    case told => exact fun e he => (List.mem_append.1 he).elim (h.told e) (hf.told e)
    case last =>
      refine List.pairwise_append.2 ⟨h.last, hf.last, fun d hd e _ g hg => ?_⟩
      exact absurd hg (none d hd g)
    case result =>
      intro e he g hg
      rcases List.mem_append.1 he with he | he
      · exact absurd hg (none e he g)
      · exact hf.result e he g hg
    case origin =>
      intro g hg hgc
      obtain ⟨e, he, hw⟩ := (hf.origin g hg hgc).resolve_left id
      exact .inr ⟨e, List.mem_append_right _ he, hw⟩

theorem Aborts.bind {f : α → Cursor → Traced β} (h : t.Aborts)
    (hf : ∀ a c, (f a c).Aborts) : (t.bind f).Aborts := by
  refine h.andThen (fun e he _ => by rw [he]) fun hopen => ?_
  cases hr : t.result with
  | ok a c => exact hf a c
  | fail e =>
    refine .quiet fun g hg => ?_
    cases hg
    exact hopen e hr
  | endless => exact .quiet_endless

theorem Aborts.recover {f : Failure → Traced α} (h : t.Aborts)
    (hf : ∀ e, (f e).Aborts) : (t.recover f).Aborts := by
  refine h.andThen (fun e he hc => by simp [he, hc]) fun hopen => ?_
  cases hr : t.result with
  | ok a c => exact .quiet_ok a c
  | fail e => simpa [hopen e hr] using hf e
  | endless => exact .quiet_endless

theorem Aborts.attempt {stop : Result β} {f : α → Cursor → Traced β} (h : t.Aborts)
    (hs : ∀ g, stop = .fail g → g.committed = false) (hf : ∀ a c, (f a c).Aborts) :
    (t.attempt stop f).Aborts := by
  refine h.andThen (fun e he hc => by simp [he, hc]) fun hopen => ?_
  cases hr : t.result with
  | ok a c => exact hf a c
  | fail e =>
    refine .quiet fun g hg => ?_
    simp only [hopen e hr, Bool.false_eq_true, ↓reduceIte] at hg
    exact hs g hg
  | endless => exact .quiet_endless

theorem Aborts.map (f : α → β) (h : t.Aborts) : (t.map f).Aborts where
  bracketed := h.bracketed
  told := h.told
  last := h.last
  result e he g hg := by rw [result_map, h.result e he g hg, Result.map_fail]
  origin g hg hc := h.origin g (Result.map_eq_fail.1 hg) hc

theorem Aborts.commit {r : Rule α} {c : Cursor} (h : t.Aborts) (hr : t.result = r.run c) :
    t.commit.AbortsBut (r.commit.Commits c) where
  bracketed := h.bracketed
  told := h.told
  last := h.last
  result e he g hg := by
    rw [Traced.commit, h.result e he g hg, Result.mapFailure_fail, Failure.commit_eq hg.committed]
  origin g hg hc := by
    obtain ⟨f, hf, rfl⟩ := Result.mapFailure_eq_fail.1 hg
    by_cases hfc : f.committed = true
    · rw [Failure.commit_eq hfc]
      exact .inr ((h.origin f hf hfc).resolve_left id)
    · exact .inl (.commit (hr ▸ hf) (by simpa using hfc))

theorem Aborts.blame (h : t.Aborts) (k : Construct) : (t.blame k).Aborts where
  bracketed := h.bracketed.map_within k
  told e he := by
    obtain ⟨d, hd, rfl⟩ := List.mem_map.1 he
    exact (h.told d hd).within k
  last := by
    refine List.pairwise_map.2 (h.last.imp fun hde g hg => ?_)
    obtain ⟨f, hf, -⟩ := Event.aborts_within hg
    rw [Event.isTry_within]
    exact hde f hf
  result e he g hg := by
    obtain ⟨d, hd, rfl⟩ := List.mem_map.1 he
    obtain ⟨f, hf, rfl⟩ := Event.aborts_within hg
    rw [Traced.blame, h.result d hd f hf, Result.mapFailure_fail]
  origin g hg hc := by
    obtain ⟨f, hf, rfl⟩ := Result.mapFailure_eq_fail.1 hg
    obtain ⟨e, he, hw⟩ := (h.origin f hf hc).resolve_left id
    exact .inr ⟨e.within k, List.mem_map.2 ⟨e, he, rfl⟩, hw.within k⟩

/-- What a rule commits itself is committed on the way of every rule around it. -/
theorem AbortsBut.of {r : Rule α} {c : Cursor} (h : t.AbortsBut (r.Commits c))
    (hr : t.result = r.run c) : (Traced.of r c t).Aborts := by
  obtain ⟨result, events⟩ := t
  have split : ∀ e ∈ (Traced.of r c ⟨result, events⟩).events, e = .tried r c ∨ e ∈ events ∨
      e = .returned r c result [] := by
    intro e he
    simpa [Traced.of] using he
  constructor
  case bracketed => exact .rule r c result [] h.bracketed .nil
  case told =>
    intro e he
    rcases split e he with rfl | he | rfl
    · trivial
    · exact h.told e he
    · exact hr
  case last =>
    refine List.pairwise_cons.2 ⟨fun e _ g hg => (nomatch hg), ?_⟩
    refine List.pairwise_append.2 ⟨h.last, List.pairwise_singleton .., fun d _ e he g _ => ?_⟩
    rw [List.mem_singleton.1 he, Event.isTry]
  case result =>
    intro e he g hg
    rcases split e he with rfl | he | rfl
    · cases hg
    · exact h.result e he g hg
    · obtain ⟨_⟩ := hg
      rw [Failure.blamedBy_nil]
      rfl
  case origin =>
    intro g hg hc
    rcases h.origin g hg hc with hown | ⟨e, he, hw⟩
    · obtain rfl : result = .fail g := hg
      have hw : Event.Commits (.returned r c (.fail g) []) (g.blamedBy []) := .mk hown
      rw [Failure.blamedBy_nil] at hw
      exact .inr ⟨_, by simp [Traced.of], hw⟩
    · exact .inr ⟨e, List.mem_cons_of_mem _ (List.mem_append_left _ he), hw⟩

theorem Aborts.many {step : Cursor → Traced α} (h : ∀ c, (step c).Aborts) (bound : Text)
    (c : Cursor) : (many step bound c).Aborts := by
  induction bound generalizing c with
  | nil =>
    rw [Traced.many]
    refine (h c).attempt (fun _ hs => nomatch hs) fun a d => ?_
    split
    · exact .quiet_ok ..
    · exact .quiet_endless
  | cons x bound ih =>
    rw [Traced.many]
    refine (h c).attempt (fun _ hs => nomatch hs) fun a d => ?_
    split
    · exact .quiet_ok ..
    · exact (ih d).map _

theorem Aborts.separated {item : Cursor → Traced α} {separator : Cursor → Traced β}
    (h : ∀ c, (item c).Aborts) (k : ∀ c, (separator c).Aborts) (bound : Text) (c : Cursor) :
    (separated item separator bound c).Aborts := by
  induction bound generalizing c with
  | nil =>
    rw [Traced.separated]
    refine (k c).attempt (fun _ hs => nomatch hs) fun _ d => ?_
    exact (h d).attempt (fun _ hs => nomatch hs) fun a e => .quiet_endless
  | cons x bound ih =>
    rw [Traced.separated]
    refine (k c).attempt (fun _ hs => nomatch hs) fun _ d => ?_
    exact (h d).attempt (fun _ hs => nomatch hs) fun a e => (ih e).map _

theorem Aborts.nested {turn : Cursor → Traced (Turn η β)} (h : ∀ c, (turn c).Aborts)
    (build : η → List β → β) (bound : Text) (head : η) (items : List β)
    (outer : List (η × List β)) (c : Cursor) :
    (nested turn build bound head items outer c).Aborts := by
  induction bound generalizing head items outer c with
  | nil =>
    rw [Traced.nested]
    refine (h c).bind fun t d => ?_
    cases t with
    | closed =>
      cases outer with
      | nil => exact .quiet_ok ..
      | cons => exact .quiet_endless
    | leaf | opened => exact .quiet_endless
  | cons x bound ih =>
    rw [Traced.nested]
    refine (h c).bind fun t d => ?_
    cases t with
    | closed =>
      cases outer with
      | nil => exact .quiet_ok ..
      | cons => exact ih ..
    | leaf | opened => exact ih ..

end Traced

namespace Rule

theorem inside_aborts {α : Type} (r : Rule α) (c : Cursor) :
    (r.inside c).AbortsBut (r.Commits c) := by
  have observed {β : Type} {s : Rule β} (h : ∀ d, (s.inside d).AbortsBut (s.Commits d))
      (d : Cursor) : (s.observe d).Aborts := (h d).of (s.result_observe d)
  induction r generalizing c with
  | succeed | takeWhile => exact (Traced.Aborts.quiet_ok ..).but
  | refuse =>
    refine .quiet fun g hg hc => ?_
    cases hg
    cases hc
  | literal t expected =>
    refine .quiet fun g hg hc => ?_
    rw [literal_eq_fail hg] at hc
    cases hc
  | takeWhile1 p expected =>
    refine .quiet fun g hg hc => ?_
    rw [takeWhile1_eq_fail hg] at hc
    cases hc
  | endOfText expected =>
    refine .quiet fun g hg hc => ?_
    rw [endOfText_eq_fail hg] at hc
    cases hc
  | unescape => exact .quiet fun g hg _ => .unescape hg
  | pair r s ihr ihs => exact ((observed ihr c).bind fun a d => (observed ihs d).map _).but
  | orElse r s ihr ihs => exact ((observed ihr c).recover fun _ => observed ihs c).but
  | relabel expected r ih =>
    refine ((observed ih c).recover fun _ => .quiet fun g hg => ?_).but
    cases hg
    rfl
  | optional r ih => exact (((observed ih c).map some).recover fun _ => .quiet_ok ..).but
  | many r ih => exact (Traced.Aborts.many (observed ih) c.rest c).but
  | separated r s ihr ihs =>
    refine Traced.Aborts.but ((observed ihr c).attempt (fun _ hs => ?_) fun a d => ?_)
    · cases hs
    · exact (Traced.Aborts.separated (observed ihr) (observed ihs) d.rest d).map _
  | map f r ih => exact ((observed ih c).map f).but
  | commit r ih => exact (observed ih c).commit (r.result_observe c)
  | blame k r ih => exact ((observed ih c).blame k).but
  | nested opening turn build iho iht =>
    exact ((observed iho c).bind fun h d => .nested (observed iht) build d.rest h [] [] d).but

/-- A committed failure ends the run: nothing is tried after it, and what fails is the whole rule,
with the same failure but for the construct that is blamed. It comes from a rule that commits. The
record begins with the rule itself and ends when that returns, and between the two every rule that
is tried returns, each after those inside it. -/
theorem run_committed {α : Type} (r : Rule α) (c : Cursor) :
    (r.observe c).result = r.run c ∧
    (∀ e ∈ (r.observe c).events, e.Holds) ∧
    ((r.observe c).events.Pairwise fun d e => ∀ g, d.Aborts g → e.isTry = false) ∧
    (∀ e ∈ (r.observe c).events, ∀ g, e.Aborts g → r.run c = .fail g) ∧
    (∀ g, r.run c = .fail g → g.committed = true → ∃ e ∈ (r.observe c).events, e.Commits g) ∧
    (∃ inside, Event.Bracketed inside ∧
      (r.observe c).events = .tried r c :: inside ++ [.returned r c (r.run c) []]) ∧
    ∀ {β : Type} (s : Rule β) (d : Cursor) (result : Result β) (around : List Construct)
      (before after : List Event),
      (r.observe c).events = before ++ .returned s d result around :: after →
        .tried s d ∈ before := by
  have hr := r.result_observe c
  have inside := r.inside_aborts c
  have h : (r.observe c).Aborts := inside.of hr
  refine ⟨hr, h.told, h.last, fun e he g hg => hr ▸ h.result e he g hg, fun g hg hc => ?_,
    ⟨(r.inside c).events, inside.bracketed, ?_⟩, fun _ _ _ _ _ _ => h.bracketed.tried_before⟩
  · exact (h.origin g (hr.trans hg) hc).resolve_left id
  · rw [← hr]
    rfl

/-- What may be missing is not taken to be missing where its failure is committed; the failure
comes out, blamed on the element around it. -/
theorem run_committed_optional :
    let r : Rule (Option Text) := optional (blame .element (commit (literal "b" "letter")))
    let f : Failure := (Cursor.ofText "a").missing "letter"
    f.commit.construct = none ∧
      r.run (.ofText "a") = .fail (f.commit.blamedBy [.element]) ∧
      (f.commit.blamedBy [.element]).construct = some .element := by
  intro r f
  have he : .returned (commit (literal "b" "letter")) (.ofText "a") (.fail f.commit) [.element] ∈
      (r.observe (.ofText "a")).events :=
    .tail _ (.tail _ (.tail _ (.tail _ (.tail _ (.head _)))))
  obtain ⟨-, -, -, result, -, -, -⟩ := r.run_committed (.ofText "a")
  exact ⟨rfl, result _ he _ (.mk rfl), rfl⟩

end Rule

end CurlyMarkup
