import CurlyMarkup.Proofs.Repetition
import CurlyMarkup.Reading
set_option autoImplicit false

/-!
Elements by recursive descent. The rule for elements keeps the brackets that are open on a stack;
it reads the same as the rule that reads a head, the items inside and the closing brace, where the
items are elements of their own.
-/

namespace CurlyMarkup

/-- The place of the next character that is not blank. -/
def Cursor.skipBlanks (c : Cursor) : Cursor := c.skip (c.rest.takeWhile isBlank).length

theorem Rule.run_preceded_blanks {α : Type} (r : Rule α) (c : Cursor) :
    (preceded blanks r).run c = r.run c.skipBlanks := by
  simp only [preceded, blanks, run_map, run_pair, run_takeWhile, Result.bind_ok, Result.map_map]
  exact Result.map_id _

namespace Grammar

open Rule

/-- The end of an element. Whatever else stands here is blamed on the element. -/
def closing : Rule Text := preceded blanks (commit (blame .element closingBrace))

/-- An element as a head, the items inside, and the closing brace. -/
def elementByDescent : Rule Element :=
  (pair (pair head items) closing).map fun ((h, content), _) => ⟨h, content⟩

/-- The rest of an element whose first items, `seen`, have been read, last first. -/
def contentAfter (seen : List Node) (c : Cursor) : Result (List Node) :=
  ((terminated items closing).run c).map (seen.reverse ++ ·)

/-- What the descents that have not come back yet still read: the innermost element, which holds
`seen`, and then the elements around it. -/
def resume : List (Head × List Node) → Head → List Node → Cursor → Result (Head × List Node)
  | [], h, seen, c => (contentAfter seen c).map (h, ·)
  | (h', seen') :: outer, h, seen, c =>
    (contentAfter seen c).bind fun content d => resume outer h' (.element h content :: seen') d

theorem run_turn (c : Cursor) :
    turn.run c = ((head.run c.skipBlanks).map Turn.opened).recover fun _ =>
      ((string.run c.skipBlanks).map fun t => Turn.leaf (.text t)).recover fun _ =>
        ((commit (blame .element closingBrace)).run c.skipBlanks).map fun _ => Turn.closed := by
  rw [turn, run_preceded_blanks]
  rfl

theorem run_item (c : Cursor) :
    item.run c = (((element.run c.skipBlanks).map Element.toNode).recover fun _ =>
      (string.run c.skipBlanks).map Node.text).recover fun _ =>
        .fail (c.skipBlanks.missing "element or quoted string") := by
  rw [item, run_preceded_blanks]
  rfl

theorem run_element (c : Cursor) :
    element.run c = (head.run c).bind fun h d =>
      (Result.nested turn.run .element d.rest h [] [] d).map fun (h, content) => ⟨h, content⟩ := by
  rw [element, run_map, run_nested]
  cases head.run c <;> rfl

theorem string_consumes : string.Consumes := .preceded_left (.literal _ _ _)

theorem head_consumes : head.Consumes := .map _ (.pair_left (.takeWhile1 _ _))

theorem element_consumes : element.Consumes := by
  intro c e d h
  rw [run_element] at h
  cases hh : head.run c with
  | ok k d' =>
    have hlt := head_consumes c k d' hh
    rw [hh, Result.bind_ok] at h
    have hle := Result.LeadsFrom.map _ (.nested turn.leadsFrom d'.rest k [] [] d') e d h
    exact Nat.lt_of_le_of_lt hle.length_le hlt
  | fail f => simp [hh] at h
  | endless => simp [hh] at h

theorem item_consumes : item.Consumes :=
  .preceded_right <| .relabel _ <| .orElse (.map _ element_consumes) (.map _ string_consumes)

theorem items_cons {c d : Cursor} {n : Node} (h : item.run c = .ok n d) :
    items.run c = (items.run d).map (n :: ·) := by
  rw [items, run_many_eq, h]
  simp only [item_consumes.offset_ne h, ↓reduceIte]

theorem contentAfter_cons {seen : List Node} {c d : Cursor} {n : Node}
    (h : item.run c = .ok n d) : contentAfter seen c = contentAfter (n :: seen) d := by
  simp only [contentAfter, terminated, run_map, run_pair, items_cons h]
  cases items.run d with
  | ok content e => cases h : closing.run e <;> simp [h]
  | fail f => simp
  | endless => simp

theorem contentAfter_nil {seen : List Node} {c : Cursor} {f : Failure} (h : item.run c = .fail f)
    (hf : f.committed = false) :
    contentAfter seen c = (closing.run c).map fun _ => seen.reverse := by
  have hi : items.run c = .ok [] c := by
    rw [items, run_many_eq, h]
    simp only [hf, Bool.false_eq_true, ↓reduceIte]
  simp only [contentAfter, terminated, run_map, run_pair, hi, Result.bind_ok, Result.map_map]
  cases closing.run c <;> simp

theorem contentAfter_fail {seen : List Node} {c : Cursor} {f : Failure} (h : item.run c = .fail f)
    (hf : f.committed = true) : contentAfter seen c = .fail f := by
  simp only [contentAfter, terminated, run_map, run_pair, items, run_many_eq, h]
  simp [hf]

theorem closing_ends : closing.Ends := .preceded blanks_ends (.commit (.blame _ (.literal _ _)))

theorem item_ends : item.Ends :=
  .preceded blanks_ends <| .relabel _ <| .orElse (.map _ element_ends) (.map _ string_ends)

theorem items_ends : items.Ends := .many item_ends

theorem contentAfter_ne_endless (seen : List Node) (c : Cursor) :
    contentAfter seen c ≠ .endless :=
  Ends.map (seen.reverse ++ ·) (.terminated items_ends closing_ends) c

theorem commit_committed {α : Type} {r : Rule α} {c : Cursor} {f : Failure}
    (h : r.commit.run c = .fail f) : f.committed = true := by
  rw [run_commit] at h
  cases hr : r.run c with
  | ok a d => simp [hr] at h
  | endless => simp [hr] at h
  | fail e =>
    simp only [hr, Result.mapFailure_fail, Result.fail.injEq] at h
    rw [← h]
    rfl

/-- What is mandatory inside an element fails for good. -/
theorem contentAfter_committed {seen : List Node} {c : Cursor} {f : Failure}
    (h : contentAfter seen c = .fail f) : f.committed = true := by
  simp only [contentAfter, terminated, run_map, run_pair] at h
  cases hi : items.run c with
  | ok content d =>
    cases hk : closing.run d with
    | ok t e => simp [hi, hk] at h
    | fail g =>
      simp only [hi, hk, Result.bind_ok, Result.map_fail, Result.fail.injEq] at h
      rw [closing, run_preceded_blanks] at hk
      rw [← h]
      exact commit_committed hk
    | endless => exact absurd hk (closing_ends d)
  | fail g =>
    simp only [hi, Result.bind_fail, Result.map_fail, Result.fail.injEq] at h
    rw [← h]
    exact Result.many_committed hi
  | endless => exact absurd hi (items_ends c)

/-- A turn inside an element is a step of the descent. -/
theorem contentAfter_eq (seen : List Node) (c : Cursor)
    (ih : ∀ h d, turn.run c = .ok (.opened h) d →
      Result.nested turn.run .element d.rest h [] [] d = (contentAfter [] d).map (h, ·)) :
    contentAfter seen c = (turn.run c).bind fun t d =>
      match t with
      | .closed => .ok seen.reverse d
      | .leaf n => contentAfter (n :: seen) d
      | .opened h => (contentAfter [] d).bind fun content e =>
        contentAfter (.element h content :: seen) e := by
  cases hh : head.run c.skipBlanks with
  | ok h d =>
    have ht : turn.run c = .ok (.opened h) d := by simp [run_turn, hh]
    have he : element.run c.skipBlanks =
        (contentAfter [] d).map fun content => ⟨h, content⟩ := by
      rw [run_element, hh, Result.bind_ok, ih h d ht, Result.map_map]
      rfl
    simp only [ht, Result.bind_ok]
    cases hc : contentAfter [] d with
    | ok content e =>
      have hi : item.run c = .ok (.element h content) e := by
        simp [run_item, he, hc, Element.toNode]
      simp [contentAfter_cons hi]
    | fail f =>
      have hf := contentAfter_committed hc
      have hi : item.run c = .fail f := by simp [run_item, he, hc, hf]
      simp [contentAfter_fail hi hf]
    | endless => exact absurd hc (contentAfter_ne_endless [] d)
  | fail f =>
    have he : element.run c.skipBlanks = .fail f := by rw [run_element, hh, Result.bind_fail]
    cases hf : f.committed with
    | true =>
      have ht : turn.run c = .fail f := by simp [run_turn, hh, hf]
      have hi : item.run c = .fail f := by simp [run_item, he, hf]
      simp [ht, contentAfter_fail hi hf]
    | false =>
      cases hs : string.run c.skipBlanks with
      | ok t d =>
        have ht : turn.run c = .ok (.leaf (.text t)) d := by simp [run_turn, hh, hf, hs]
        have hi : item.run c = .ok (.text t) d := by simp [run_item, he, hf, hs]
        simp [ht, contentAfter_cons hi]
      | fail g =>
        cases hg : g.committed with
        | true =>
          have ht : turn.run c = .fail g := by simp [run_turn, hh, hf, hs, hg]
          have hi : item.run c = .fail g := by simp [run_item, he, hf, hs, hg]
          simp [ht, contentAfter_fail hi hg]
        | false =>
          have ht : turn.run c = (closing.run c).map fun _ => .closed := by
            simp [run_turn, hh, hf, hs, hg, closing, run_preceded_blanks]
          have hi : item.run c = .fail (c.skipBlanks.missing "element or quoted string") := by
            simp [run_item, he, hf, hs, hg]
          rw [contentAfter_nil hi rfl, ht]
          cases closing.run c <;> rfl
      | endless => exact absurd hs (string_ends _)
  | endless => exact absurd hh (head_ends _)

/-- The turns inside the open elements read what the descents into these elements still read. -/
theorem nested_eq_resume (outer : List (Head × List Node)) (h : Head) (seen : List Node)
    (c : Cursor) :
    Result.nested turn.run .element c.rest h seen outer c = resume outer h seen c := by
  induction hn : c.rest.length using Nat.strongRecOn generalizing outer h seen c with
  | ind n ih =>
    -- every turn consumes something, so the claim holds wherever one leads to
    have after : ∀ {t d}, turn.run c = .ok t d → ∀ outer h seen,
        Result.nested turn.run .element d.rest h seen outer d = resume outer h seen d :=
      fun ht outer h seen => ih _ (hn ▸ turn_consumes c _ _ ht) outer h seen _ rfl
    have hc := contentAfter_eq seen c fun h d ht => after ht [] h []
    rw [Result.nested_eq turn_consumes]
    cases ht : turn.run c with
    | ok t d =>
      rw [ht, Result.bind_ok] at hc
      cases t with
      | closed =>
        cases outer with
        | nil => simp [resume, hc]
        | cons p outer =>
          obtain ⟨h', seen'⟩ := p
          simp [resume, hc, after ht]
      | leaf x =>
        rw [Result.bind_ok]
        cases outer <;> simp [resume, hc, after ht]
      | opened k =>
        rw [Result.bind_ok]
        cases outer <;> simp [resume, hc, after ht, Result.map_eq_bind, Result.bind_assoc]
    | fail f =>
      rw [ht, Result.bind_fail] at hc
      cases outer <;> simp [resume, hc]
    | endless => exact absurd ht (turn_ends c)

theorem run_element_content (c : Cursor) :
    element.run c = (head.run c).bind fun h d =>
      (contentAfter [] d).map fun content => ⟨h, content⟩ := by
  rw [run_element]
  cases head.run c with
  | ok h d =>
    simp only [Result.bind_ok, nested_eq_resume, resume, Result.map_map]
    rfl
  | fail f => rfl
  | endless => rfl

theorem run_elementByDescent (c : Cursor) :
    elementByDescent.run c = (head.run c).bind fun h d =>
      (contentAfter [] d).map fun content => ⟨h, content⟩ := by
  simp only [elementByDescent, contentAfter, terminated, run_map, run_pair]
  cases head.run c with
  | ok h d =>
    cases hi : items.run d with
    | ok content e => cases hk : closing.run e <;> simp [hi, hk]
    | fail f => simp [hi]
    | endless => simp [hi]
  | fail f => rfl
  | endless => rfl

/-- Wherever an element is read, the stack of open elements gives what the descent gives: the same
tree and place, or the same failure. -/
theorem element_eq_descent (c : Cursor) : element.run c = elementByDescent.run c :=
  (run_element_content c).trans (run_elementByDescent c).symm

end Grammar

end CurlyMarkup
