import CurlyMarkup.Proofs.EscapedRuns
import CurlyMarkup.Proofs.Failures
import CurlyMarkup.Proofs.SeparatedLists
set_option autoImplicit false

namespace CurlyMarkup

/-- The place is in the text or at its end. -/
def Cursor.Inside (c : Cursor) : Prop := c.offset ≤ c.text.length

theorem Cursor.Inside.skip {c : Cursor} {n : Nat} (h : c.Inside) (hn : n ≤ c.rest.length) :
    (c.skip n).Inside := by
  rw [c.rest_eq, List.length_drop] at hn
  have hle : c.offset ≤ c.text.length := h
  show c.offset+n ≤ c.text.length
  omega

theorem EscapeTable.SingleKeyed.length_unescape_le {table : EscapeTable} (hk : table.SingleKeyed)
    (normal : Char → Bool) (mark : Char) (t : Text) :
    (table.unescape normal mark t).length ≤ t.length := by
  obtain ⟨us, s, hus, rfl, hs⟩ := exists_row table normal mark t
  rw [hus.unescape, hk.unescape_stops hs, List.length_append]
  exact Nat.add_le_add_left (Nat.zero_le _) _

namespace Result

variable {α β η : Type}

/-- The place of a success or of a failure. -/
def cursor? : Result α → Option Cursor
  | .ok _ c => some c
  | .fail f => some f.cursor
  | .endless => none

/-- The result has no place outside the text. -/
def Inside (r : Result α) : Prop := ∀ d ∈ r.cursor?, d.Inside

namespace Inside

theorem ok (a : α) {c : Cursor} (h : c.Inside) : (Result.ok a c).Inside := by
  intro d hd
  cases hd
  exact h

theorem fail {f : Failure} (h : f.cursor.Inside) : (Result.fail f : Result α).Inside := by
  intro d hd
  cases hd
  exact h

theorem endless : (Result.endless : Result α).Inside := by
  intro d hd
  cases hd

theorem of_ok {r : Result α} {a : α} {c : Cursor} (h : r.Inside) (hr : r = .ok a c) : c.Inside :=
  h c (by rw [hr]; rfl)

theorem of_fail {r : Result α} {f : Failure} (h : r.Inside) (hr : r = .fail f) : f.cursor.Inside :=
  h f.cursor (by rw [hr]; rfl)

theorem map {r : Result α} (f : α → β) (h : r.Inside) : (r.map f).Inside := by
  cases r <;> exact h

theorem mapFailure {r : Result α} {φ : Failure → Failure} (h : r.Inside)
    (hφ : ∀ f, (φ f).cursor = f.cursor) : (r.mapFailure φ).Inside := by
  cases r with
  | ok | endless => exact h
  | fail f => exact fail (hφ f ▸ h.of_fail rfl)

theorem bind {r : Result α} {k : α → Cursor → Result β} (h : r.Inside)
    (hk : ∀ a d, d.Inside → (k a d).Inside) : (r.bind k).Inside := by
  cases r with
  | ok a d => exact hk a d (h.of_ok rfl)
  | fail | endless => exact h

theorem recover {r : Result α} {k : Failure → Result α} (h : r.Inside)
    (hk : ∀ f, (k f).Inside) : (r.recover k).Inside := by
  cases r with
  | ok | endless => exact h
  | fail f =>
    rw [recover_fail]
    split
    · exact h
    · exact hk f

/-- A repetition comes to this where a round fails. -/
theorem passOver {f : Failure} {c : Cursor} (hf : f.cursor.Inside) (hc : c.Inside) (a : α) :
    (if f.committed then Result.fail f else .ok a c).Inside := by
  split
  · exact fail hf
  · exact ok a hc

theorem many {step : Cursor → Result α} (h : ∀ c, c.Inside → (step c).Inside) (bound : Text)
    (c : Cursor) (hc : c.Inside) : (many step bound c).Inside := by
  fun_induction Result.many step bound c with
  | case1 | case5 => exact ok _ hc
  | case3 c a d hd _ _ _ ih => exact map _ (ih ((h c hc).of_ok hd))
  | case4 _ c f hf => exact fail ((h c hc).of_fail hf)
  | case2 | case6 => exact endless

theorem separated {item : Cursor → Result α} {separator : Cursor → Result β}
    (h : ∀ c, c.Inside → (item c).Inside) (k : ∀ c, c.Inside → (separator c).Inside)
    (bound : Text) (c : Cursor) (hc : c.Inside) :
    (separated item separator bound c).Inside := by
  fun_induction Result.separated item separator bound c with
  | case2 c b d hd a e he x bound ih => exact map _ (ih ((h d ((k c hc).of_ok hd)).of_ok he))
  | case3 _ c b d hd f hf => exact fail ((h d ((k c hc).of_ok hd)).of_fail hf)
  | case6 _ c f hf => exact fail ((k c hc).of_fail hf)
  | case4 | case7 => exact ok _ hc
  | case1 | case5 | case8 => exact endless

theorem nested {turn : Cursor → Result (Turn η β)} (h : ∀ c, c.Inside → (turn c).Inside)
    (build : η → List β → β) (bound : Text) (head : η) (items : List β)
    (outer : List (η × List β)) (c : Cursor) (hc : c.Inside) :
    (nested turn build bound head items outer c).Inside := by
  fun_induction Result.nested turn build bound head items outer c with
  | case1 _ _ _ c d hd => exact ok _ ((h c hc).of_ok hd)
  | case3 _ _ c d hd _ _ _ _ _ ih | case5 _ _ _ c _ d hd _ _ ih | case7 _ _ _ c _ d hd _ _ ih =>
    exact ih ((h c hc).of_ok hd)
  | case8 _ _ _ _ c f hf => exact fail ((h c hc).of_fail hf)
  | case2 | case4 | case6 | case9 => exact endless

end Inside

end Result

namespace Rule

variable {α β : Type}

/-- Every escape in the rule is named by one character. -/
def singleKeyed : {α : Type} → Rule α → Bool
  | _, .unescape _ _ table _ => decide table.SingleKeyed
  | _, .pair r s | _, .separated r s => r.singleKeyed && s.singleKeyed
  | _, .orElse r s => r.singleKeyed && s.singleKeyed
  | _, .nested opening turn _ => opening.singleKeyed && turn.singleKeyed
  | _, .relabel _ r | _, .optional r | _, .many r | _, .map _ r | _, .commit r | _, .blame _ r =>
    r.singleKeyed
  | _, .succeed _ | _, .refuse _ | _, .literal _ _ | _, .takeWhile _ | _, .takeWhile1 _ _
  | _, .endOfText _ => true

theorem inside_of_startsWith {c : Cursor} {t : Text} (hc : c.Inside) (h : c.startsWith t = true) :
    (c.skip t.length).Inside := by
  cases t with
  | nil => exact hc.skip (Nat.zero_le _)
  | cons x t => exact hc.skip (List.isPrefixOf_iff_prefix.1 h).length_le

/-- From a place in the text a rule leads nowhere else, whether it succeeds or fails. Only escapes
without a name would lead beyond the end. -/
theorem inside_run {r : Rule α} (h : r.singleKeyed = true) {c : Cursor} (hc : c.Inside) :
    (r.run c).Inside := by
  induction r generalizing c with
  | succeed a => exact .ok a hc
  | refuse t => exact .fail hc
  | literal t u =>
    rw [run_literal]
    split
    case isTrue hs => exact .ok t (inside_of_startsWith hc hs)
    case isFalse => exact .fail hc
  | takeWhile p => exact .ok _ (hc.skip (List.takeWhile_prefix p).length_le)
  | takeWhile1 p t =>
    rw [run_takeWhile1]
    split
    · exact .fail hc
    · exact .ok _ (hc.skip (List.takeWhile_prefix p).length_le)
  | endOfText t =>
    rw [run_endOfText]
    split
    · exact .ok () hc
    · exact .fail hc
  | unescape normal mark table k =>
    have hskip := hc.skip ((of_decide_eq_true h).length_unescape_le normal mark c.rest)
    rw [run_unescape]
    split
    · exact .fail hskip
    · exact .ok _ hskip
  | pair r s ihr ihs =>
    obtain ⟨hr, hs⟩ := Bool.and_eq_true_iff.1 h
    exact .bind (ihr hr hc) fun a d hd => .map _ (ihs hs hd)
  | orElse r s ihr ihs =>
    obtain ⟨hr, hs⟩ := Bool.and_eq_true_iff.1 h
    exact .recover (ihr hr hc) fun _ => ihs hs hc
  | relabel t r ih => exact .recover (ih h hc) fun _ => .fail hc
  | optional r ih => exact .recover (.map _ (ih h hc)) fun _ => .ok none hc
  | many r ih => exact .many (fun _ hd => ih h hd) c.rest c hc
  | separated r s ihr ihs =>
    obtain ⟨hr, hs⟩ := Bool.and_eq_true_iff.1 h
    rw [run_separated]
    cases hrun : r.run c with
    | ok a d =>
      have hd := (ihr hr hc).of_ok hrun
      exact .map _ (.separated (fun _ he => ihr hr he) (fun _ he => ihs hs he) d.rest d hd)
    | fail f => exact .passOver ((ihr hr hc).of_fail hrun) hc _
    | endless => exact .endless
  | map f r ih => exact .map f (ih h hc)
  | commit r ih => exact .mapFailure (ih h hc) fun _ => rfl
  | blame k r ih => exact .mapFailure (ih h hc) fun _ => rfl
  | nested opening turn build iho iht =>
    obtain ⟨ho, ht⟩ := Bool.and_eq_true_iff.1 h
    exact .bind (iho ho hc) fun head d hd =>
      .nested (fun _ he => iht ht he) build d.rest head [] [] d hd

/-- A rule never leads back or into another text. -/
theorem leadsTo_of_mem_cursor? (r : Rule α) {c d : Cursor} (h : d ∈ (r.run c).cursor?) :
    c.LeadsTo d := by
  cases hr : r.run c with
  | ok a e =>
    rw [hr] at h
    cases h
    exact r.leadsFrom c a d hr
  | fail f =>
    rw [hr] at h
    cases h
    exact (r.fails_of_run hr).leadsTo
  | endless =>
    rw [hr] at h
    cases h

theorem optional_eq_none_iff {r : Rule α} {c d : Cursor} :
    (optional r).run c = .ok none d ↔ r.Declines c ∧ d = c := by
  rw [run_optional]
  cases hr : r.run c with
  | ok a e => simp [Declines, hr]
  | fail f =>
    cases hu : f.committed with
    | false => simpa [Declines, hr, hu] using eq_comm
    | true => simp [Declines, hr, hu]
  | endless => simp [Declines, hr]

/-- The rule keeps all that it reads, and `leaves` puts the texts in a value of it one behind the
other. -/
inductive Keeps : {α : Type} → Rule α → (α → Text) → Prop where
  | literal (t u : Text) : Keeps (literal t u) id
  | takeWhile (p : Char → Bool) : Keeps (takeWhile p) id
  | takeWhile1 (p : Char → Bool) (t : Text) : Keeps (takeWhile1 p t) id
  | pair {α β : Type} {r : Rule α} {s : Rule β} {f : α → Text} {g : β → Text} (hr : Keeps r f)
      (hs : Keeps s g) : Keeps (pair r s) fun (a, b) => f a ++ g b
  | sequence {α : Type} {rs : List (Rule α)} {f : α → Text} (h : ∀ r ∈ rs, Keeps r f) :
      Keeps (sequence rs) (List.flatMap f)
  | many {α : Type} {r : Rule α} {f : α → Text} (h : Keeps r f) : Keeps (many r) (List.flatMap f)

theorem Rounds.reads {r : Rule α} {f : α → Text} {c d : Cursor} {as : List α}
    (h : Rounds r c as d) (hr : ∀ c a d, r.run c = .ok a d → c.Reads (f a) d) :
    c.Reads (as.flatMap f) d := by
  induction h with
  | nil c => exact .refl c
  | cons first _ ih => exact (hr _ _ _ first).trans ih

theorem sequence_reads {rs : List (Rule α)} {f : α → Text} {c d : Cursor} {as : List α}
    (h : ∀ r ∈ rs, ∀ c a d, r.run c = .ok a d → c.Reads (f a) d)
    (hr : (sequence rs).run c = .ok as d) : c.Reads (as.flatMap f) d := by
  induction rs generalizing c as with
  | nil =>
    cases hr
    exact .refl _
  | cons r rs ih =>
    obtain ⟨hfirst, hmore⟩ := List.forall_mem_cons.1 h
    obtain ⟨⟨a, as⟩, hp, rfl⟩ := Result.map_eq_ok.1 hr
    obtain ⟨e, ha, has⟩ := pair_eq_ok hp
    exact (hfirst c a e ha).trans (ih hmore has)

/-- What stands in the value of a rule that keeps all it reads is what it has read. -/
theorem Keeps.reads {r : Rule α} {f : α → Text} (h : r.Keeps f) {c d : Cursor} {a : α}
    (hr : r.run c = .ok a d) : c.Reads (f a) d := by
  induction h generalizing c d with
  | literal t u =>
    rw [run_literal] at hr
    split at hr
    case isTrue hs =>
      cases hr
      cases t with
      | nil => exact ⟨rfl, rfl⟩
      | cons x t =>
        obtain ⟨u, hu⟩ := List.isPrefixOf_iff_prefix.1 hs
        exact .of_rest hu.symm
    case isFalse => cases hr
  | takeWhile p =>
    cases hr
    exact Cursor.reads_takeWhile p _
  | takeWhile1 p t =>
    rw [run_takeWhile1] at hr
    split at hr
    · cases hr
    · cases hr
      exact Cursor.reads_takeWhile p _
  | pair _ _ ihr ihs =>
    obtain ⟨e, ha, hb⟩ := pair_eq_ok hr
    exact (ihr ha).trans (ihs hb)
  | sequence _ ih => exact sequence_reads (fun r hm _ _ _ => ih r hm) hr
  | many _ ih => exact (many_eq_ok hr).1.reads fun _ _ _ => ih

end Rule

/-- The text between two places, cut out of the whole. -/
theorem Cursor.Reads.eq_slice {c d : Cursor} {s : Text} (h : c.Reads s d) :
    s = c.text.slice c.offset d.offset := by
  rw [Text.slice, h.offset, ← List.take_drop, ← c.rest_eq, h.rest_eq, List.take_left]

namespace Grammar

theorem document_singleKeyed : document.singleKeyed = true := by decide

theorem items_singleKeyed : items.singleKeyed = true := by decide

end Grammar

namespace Rule

/-- From a place in the text, and with escapes that are named by single characters, a rule comes to
a place in the same text that is not before it, with a success as with a failure; all rules of
documents and of their content are like that. Repetitions, lists and optional parts end where they
have been before the attempt that failed. And in the value of a rule that keeps all it reads there
stands the text between the two places. -/
theorem cursor_bounds :
    (∀ (α : Type) (r : Rule α), r.singleKeyed = true → ∀ c : Cursor, c.offset ≤ c.text.length →
      ∀ d ∈ (r.run c).cursor?,
        d.text = c.text ∧ c.offset ≤ d.offset ∧ d.offset ≤ c.text.length) ∧
    (Grammar.document.singleKeyed = true ∧ Grammar.items.singleKeyed = true) ∧
    (∀ (α β : Type) (r : Rule α) (s : Rule β) (c : Cursor),
      (∀ d, (optional r).run c = .ok none d ↔ r.Declines c ∧ d = c) ∧
      (∀ as d, r.Declines d → ((many r).run c = .ok as d ↔ Rounds r c as d)) ∧
      ∀ as d, (separated r s).run c = .ok as d ↔ Listed r s c as d ∧ StopsAt r s as d) ∧
    ∀ (α : Type) (r : Rule α) (leaves : α → Text), r.Keeps leaves →
      ∀ c a d, r.run c = .ok a d → leaves a = c.text.slice c.offset d.offset := by
  refine ⟨fun α r h c hc d hd => ?_, ⟨Grammar.document_singleKeyed, Grammar.items_singleKeyed⟩,
    fun α β r s c => ⟨fun d => optional_eq_none_iff, fun as d hr =>
      ⟨fun hm => (many_eq_ok hm).1, fun hm => hm.run_many hr⟩, fun as d => separated_eq_ok_iff⟩,
    fun α r leaves hkeeps c a d hr => (hkeeps.reads hr).eq_slice⟩
  have hleads := r.leadsTo_of_mem_cursor? hd
  have hinside : d.Inside := inside_run h hc d hd
  rw [Cursor.Inside, hleads.text_eq] at hinside
  exact ⟨hleads.text_eq, hleads.offset_le, hinside⟩

/-- Where the body of an element is missing the document fails within its text. Letters are repeated
up to another one; and what a blank and two letters are read into has these three characters. -/
theorem cursor_bounds_element :
    (∃ f, Grammar.document.run (.ofText "!doctype \x7b\"\"\x7d a") = .fail f ∧
      f.cursor.offset ≤ ("!doctype \x7b\"\"\x7d a" : Text).length) ∧
    (many (token "x")).run (.ofText "xxy") = .ok ["x", "x"] (.place "xxy" 2) ∧
    (pair blanks (many (token "x"))).run (.ofText " xxy") =
      .ok (" ", ["x", "x"]) (.place " xxy" 3) ∧
    (" " : Text) ++ (["x", "x"] : List Text).flatMap id = Text.slice " xxy" 0 3 := by
  obtain ⟨bounds, ⟨document, -⟩, givesBack, keeps⟩ := cursor_bounds
  refine ⟨⟨_, rfl, ?_⟩, ?_, rfl, ?_⟩
  · exact (bounds _ _ document (.ofText "!doctype \x7b\"\"\x7d a") (Nat.zero_le _) _ rfl).2.2
  · obtain ⟨-, repeats, -⟩ := givesBack _ _ (token "x") blanks (.ofText "xxy")
    exact (repeats ["x", "x"] (.place "xxy" 2) ⟨_, rfl, rfl⟩).2 (.cons rfl (.cons rfl (.nil _)))
  · exact keeps _ (pair blanks (many (token "x"))) _
      (.pair (.takeWhile _) (.many (.literal _ _))) (.ofText " xxy") (" ", ["x", "x"]) _ rfl

end Rule

end CurlyMarkup
