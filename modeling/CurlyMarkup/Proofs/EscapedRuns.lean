import CurlyMarkup.Grammar
import CurlyMarkup.Proofs.Outcomes
import CurlyMarkup.Proofs.Reads
set_option autoImplicit false

/-!
Runs of plain and escaped characters. Such a run is the longest row of units, each of them a
character that stands for itself or an escape, and what it holds is what the units stand for. A loop
that copies whole slices of the text between the escapes comes to the same.
-/

namespace CurlyMarkup

/-- A character that stands for itself, or an escape and what it stands for. -/
inductive EscapeUnit where
  | plain (x : Char)
  | escape (key : Char) (value : Text)

namespace EscapeUnit

def source (mark : Char) : EscapeUnit → Text
  | .plain x => [x]
  | .escape key _ => [mark, key]

def value : EscapeUnit → Text
  | .plain x => [x]
  | .escape _ value => value

end EscapeUnit

/-- The characters from `i` up to but without `j`. -/
def Text.slice (t : Text) (i j : Nat) : Text := (t.take j).drop i

theorem Text.slice_self (t : Text) (i : Nat) : t.slice i i = [] := by
  simp only [slice, List.drop_eq_nil_iff, List.length_take]
  omega

theorem Text.slice_succ {t : Text} {i j : Nat} (hi : i ≤ j) (hj : j < t.length) :
    t.slice i (j+1) = t.slice i j ++ [t[j]] := by
  have hlen : i ≤ (t.take j).length := by
    rw [List.length_take]
    omega
  rw [slice, slice, ← List.take_append_getElem hj, List.drop_append_of_le_length hlen]

theorem Unescaped.cons_cons (v w : Text) (m n : Nat) (u : Unescaped) :
    (u.cons w n).cons v m = u.cons (v ++ w) (m+n) := by
  simp [cons, Nat.add_assoc]

namespace EscapeTable

/-- Each escape is named by one character. -/
def SingleKeyed (table : EscapeTable) : Prop := ∀ e ∈ table, e.1.length = 1

instance (table : EscapeTable) : Decidable table.SingleKeyed :=
  inferInstanceAs (Decidable (∀ e ∈ table, e.1.length = 1))

/-- No escape is named by the end of the text. -/
theorem SingleKeyed.lookup_nil {table : EscapeTable} (h : table.SingleKeyed) :
    table.lookup [] = none := by
  rw [List.lookup_eq_none_iff]
  intro e he
  have hlen := h e he
  cases hk : e.1 with
  | nil => simp [hk] at hlen
  | cons => rfl

variable (table : EscapeTable) (normal : Char → Bool) (mark : Char)

/-- The units that there are: the mark never stands for itself, even if it is among the `normal`
characters. -/
def Admits : EscapeUnit → Prop
  | .plain x => x ≠ mark ∧ normal x = true
  | .escape key value => table.lookup [key] = some value

def Row (us : List EscapeUnit) : Prop := ∀ u ∈ us, table.Admits normal mark u

/-- No unit begins the text. -/
def Stops (t : Text) : Prop := ∀ u, table.Admits normal mark u → ¬ u.source mark <+: t

/-- A row of units between two places that is as long as it can be. -/
structure LongestRow (c : Cursor) (us : List EscapeUnit) (d : Cursor) : Prop where
  row : table.Row normal mark us
  reads : c.Reads (us.flatMap (·.source mark)) d
  longest : ∀ vs, table.Row normal mark vs → vs.flatMap (·.source mark) <+: c.rest → vs <+: us

/-- The reading of a run as a loop over the whole text. What stands from `start` up to `position` is
plain and has not been copied yet. Ends with the place of an unknown escape, or with what the run
holds and where it ends. -/
def slices (text : Text) (parts : List Text) (start position : Nat) : Except Nat (Text × Nat) :=
  if h : position < text.length then
    if text[position] = mark then
      match table.lookup (text.slice (position+1) (position+2)) with
      | none => .error position
      | some value =>
        slices text (parts ++ [text.slice start position, value]) (position+2) (position+2)
    else if normal text[position] then slices text parts start (position+1)
    else .ok ((parts ++ [text.slice start position]).flatten, position)
  else .ok ((parts ++ [text.slice start position]).flatten, position)
termination_by text.length-position

variable {table normal mark}

theorem unescape_cons (x : Char) (t : Text) :
    table.unescape normal mark (x :: t) =
      if x = mark then
        match table.lookup (t.take 1) with
        | some v => (table.unescape normal mark (t.drop 1)).cons v 2
        | none => ⟨[], 0, true⟩
      else if normal x then (table.unescape normal mark t).cons [x] 1
      else ⟨[], 0, false⟩ := by
  cases t with
  | nil =>
    by_cases hx : x = mark
    · cases hv : table.lookup [] <;> simp [unescape, hx, hv, Unescaped.cons]
    · cases hn : normal x <;> simp [unescape, hx, hn, Unescaped.cons]
  | cons y t => rfl

/-- Two units that begin the same text are the same. -/
theorem Admits.unique {u v : EscapeUnit} (hu : table.Admits normal mark u)
    (hv : table.Admits normal mark v) {s t : Text} (h : u.source mark ++ s = v.source mark ++ t) :
    u = v ∧ s = t := by
  cases u with
  | plain x =>
    cases v with
    | plain y =>
      obtain ⟨rfl, rfl⟩ := List.cons.inj h
      exact ⟨rfl, rfl⟩
    | escape key value => exact absurd (List.cons.inj h).1 hu.1
  | escape key value =>
    cases v with
    | plain y => exact absurd (List.cons.inj h).1.symm hv.1
    | escape key' value' =>
      obtain ⟨rfl, rfl⟩ := List.cons.inj (List.cons.inj h).2
      have hvalue : table.lookup [key] = some value := hu
      rw [hv, Option.some.injEq] at hvalue
      exact ⟨by rw [hvalue], rfl⟩

/-- Where no unit begins any more, every other row has ended as well. -/
theorem Row.prefix_of_stops {us vs : List EscapeUnit} {t : Text} (hu : table.Row normal mark us)
    (hv : table.Row normal mark vs) (ht : table.Stops normal mark t)
    (h : vs.flatMap (·.source mark) <+: us.flatMap (·.source mark) ++ t) : vs <+: us := by
  induction vs generalizing us with
  | nil => exact List.nil_prefix
  | cons v vs ih =>
    obtain ⟨hv, hvs⟩ := List.forall_mem_cons.1 hv
    obtain ⟨s, hs⟩ := h
    cases us with
    | nil =>
      refine absurd ⟨vs.flatMap (·.source mark) ++ s, ?_⟩ (ht v hv)
      simpa using hs
    | cons u us =>
      obtain ⟨hu, hus⟩ := List.forall_mem_cons.1 hu
      simp only [List.flatMap_cons, List.append_assoc] at hs
      obtain ⟨rfl, hrest⟩ := hv.unique hu hs
      exact List.cons_prefix_cons.2 ⟨rfl, ih hus hvs ⟨s, hrest⟩⟩

/-- Every text begins with a row that nothing extends. -/
theorem exists_row (table : EscapeTable) (normal : Char → Bool) (mark : Char) (t : Text) :
    ∃ us s, table.Row normal mark us ∧ t = us.flatMap (·.source mark) ++ s ∧
      table.Stops normal mark s := by
  induction hn : t.length using Nat.strongRecOn generalizing t with
  | ind n ih =>
    by_cases h : ∃ u, table.Admits normal mark u ∧ u.source mark <+: t
    · obtain ⟨u, hu, t', rfl⟩ := h
      have hlt : t'.length < n := by
        cases u <;> simp [EscapeUnit.source] at hn <;> omega
      obtain ⟨us, s, hus, rfl, hs⟩ := ih _ hlt t' rfl
      refine ⟨u :: us, s, List.forall_mem_cons.2 ⟨hu, hus⟩, ?_, hs⟩
      rw [List.flatMap_cons, List.append_assoc]
    · refine ⟨[], t, fun _ h => absurd h List.not_mem_nil, rfl, fun u hu ht => h ⟨u, hu, ht⟩⟩

theorem Admits.unescape {u : EscapeUnit} (hu : table.Admits normal mark u) (t : Text) :
    table.unescape normal mark (u.source mark ++ t) =
      (table.unescape normal mark t).cons u.value (u.source mark).length := by
  cases u with
  | plain x =>
    obtain ⟨hx, hn⟩ := hu
    exact (unescape_cons x t).trans (by simp [hx, hn, EscapeUnit.source, EscapeUnit.value])
  | escape key value =>
    have hkey : table.lookup [key] = some value := hu
    exact (unescape_cons mark (key :: t)).trans
      (by simp [hkey, EscapeUnit.source, EscapeUnit.value])

/-- A row at the beginning is read unit by unit. -/
theorem Row.unescape {us : List EscapeUnit} (hu : table.Row normal mark us) (t : Text) :
    table.unescape normal mark (us.flatMap (·.source mark) ++ t) =
      (table.unescape normal mark t).cons (us.flatMap (·.value))
        (us.flatMap (·.source mark)).length := by
  induction us with
  | nil => simp [Unescaped.cons]
  | cons u us ih =>
    obtain ⟨hu, hus⟩ := List.forall_mem_cons.1 hu
    rw [List.flatMap_cons, List.append_assoc, hu.unescape, ih hus, Unescaped.cons_cons,
      List.flatMap_cons, List.length_append]

/-- Where no unit begins nothing is read, and a mark breaks the run off. -/
theorem SingleKeyed.unescape_stops (hk : table.SingleKeyed) {t : Text}
    (h : table.Stops normal mark t) :
    table.unescape normal mark t = ⟨[], 0, t.head? = some mark⟩ := by
  cases t with
  | nil => simp [unescape]
  | cons x t =>
    rw [unescape_cons, List.head?_cons]
    by_cases hx : x = mark
    · subst hx
      have hnone : table.lookup (t.take 1) = none := by
        cases t with
        | nil => exact hk.lookup_nil
        | cons key t =>
          rw [Option.eq_none_iff_forall_not_mem]
          exact fun value hv => h (.escape key value) hv ⟨t, rfl⟩
      simp [hnone]
    · have hn : normal x = false := by
        rw [← Bool.not_eq_true]
        exact fun hn => h (.plain x) ⟨hx, hn⟩ ⟨t, rfl⟩
      simp [hx, hn]

theorem Stops.peek {c : Cursor} (h : table.Stops normal mark c.rest) {x : Char}
    (hx : c.peek = some x) (hm : x ≠ mark) : normal x = false := by
  obtain ⟨t, ht⟩ := Cursor.peek_eq_some.1 hx
  rw [← Bool.not_eq_true]
  exact fun hn => h (.plain x) ⟨hm, hn⟩ ⟨t, ht.symm⟩

/-- What the loop comes to from any state, in which the slice from `start` to `position` is still
to be copied. -/
theorem slices_eq (text : Text) (parts : List Text) (start position : Nat)
    (h : start ≤ position) :
    table.slices normal mark text parts start position =
      let u := table.unescape normal mark (text.drop position)
      if u.broken then .error (position+u.length)
      else .ok (parts.flatten ++ text.slice start position ++ u.value, position+u.length) := by
  -- the character behind the mark, as a slice of the text and as what is left of it
  have key (p : Nat) : text.slice (p+1) (p+2) = (text.drop (p+1)).take 1 := by
    rw [Text.slice, List.take_drop]
  fun_induction slices table normal mark text parts start position with
  | case1 parts start position hlt hmark hnone =>
    rw [key] at hnone
    rw [List.drop_eq_getElem_cons hlt, unescape_cons, if_pos hmark, hnone]
    rfl
  | case2 parts start position hlt hmark value hvalue ih =>
    rw [key] at hvalue
    rw [ih (Nat.le_refl _), List.drop_eq_getElem_cons hlt, unescape_cons, if_pos hmark, hvalue,
      List.drop_drop]
    simp [Unescaped.cons, Text.slice_self, Nat.add_assoc]
  | case3 parts start position hlt hmark hn ih =>
    rw [ih (by omega), List.drop_eq_getElem_cons hlt, unescape_cons, if_neg hmark, if_pos hn,
      Text.slice_succ h hlt]
    simp only [Unescaped.cons, Nat.add_assoc, List.append_assoc]
  | case4 parts start position hlt hmark hn =>
    rw [List.drop_eq_getElem_cons hlt, unescape_cons, if_neg hmark, if_neg hn]
    simp
  | case5 parts start position hle =>
    rw [List.drop_eq_nil_of_le (by omega)]
    simp [unescape]

end EscapeTable

namespace Rule

open EscapeTable

variable {table : EscapeTable} {normal : Char → Bool} {mark : Char} {k : Construct} {c : Cursor}

/-- A run is the longest row of units, and fails at a mark behind it. -/
theorem run_unescape_row (hk : table.SingleKeyed) (normal : Char → Bool) (mark : Char)
    (k : Construct) (c : Cursor) :
    ∃ us d, table.LongestRow normal mark c us d ∧ table.Stops normal mark d.rest ∧
      (unescape normal mark table k).run c =
        if d.peek = some mark then .fail ⟨d, table.expected mark, some k, true⟩
        else .ok (us.flatMap (·.value)) d := by
  obtain ⟨us, s, hus, hc, hs⟩ := exists_row table normal mark c.rest
  have hreads : c.Reads (us.flatMap (·.source mark)) (c.skip (us.flatMap (·.source mark)).length) :=
    .of_rest hc
  have hrest : (c.skip (us.flatMap (·.source mark)).length).rest = s := Cursor.Reads.rest_skip hc
  refine ⟨us, _, ⟨hus, hreads, fun vs hvs h => ?_⟩, by rwa [hrest], ?_⟩
  · rw [hc] at h
    exact hus.prefix_of_stops hvs hs h
  · rw [run_unescape, hc, hus.unescape, hk.unescape_stops hs, Cursor.peek, hrest]
    simp [Unescaped.cons]

/-- The loop over slices is the same rule. -/
theorem run_unescape_slices (normal : Char → Bool) (mark : Char) (table : EscapeTable)
    (k : Construct) (c : Cursor) :
    (unescape normal mark table k).run c =
      match table.slices normal mark c.text [] c.offset c.offset with
      | .error i => .fail ⟨.place c.text i, table.expected mark, some k, true⟩
      | .ok (v, i) => .ok v (.place c.text i) := by
  have hplace (n : Nat) : c.skip n = .place c.text (c.offset+n) := Cursor.eq_of_offset_eq rfl rfl
  rw [run_unescape, slices_eq _ _ _ _ (Nat.le_refl _), ← c.rest_eq, hplace]
  split <;> simp [Text.slice_self, *]

/-- A run that goes to the end of a text is a row that makes up the text. -/
theorem row_of_run (hk : table.SingleKeyed) {t v : Text} {d : Cursor}
    (h : (unescape normal mark table k).run (.ofText t) = .ok v d) (hd : d.atEnd = true) :
    ∃ us, table.Row normal mark us ∧ t = us.flatMap (·.source mark) ∧ v = us.flatMap (·.value) := by
  obtain ⟨us, e, ⟨hus, hreads, -⟩, -, hrun⟩ :=
    run_unescape_row hk normal mark k (.ofText t)
  rw [h] at hrun
  split at hrun
  · cases hrun
  · cases hrun
    have hrest := hreads.rest_eq
    rw [List.isEmpty_iff.1 hd, List.append_nil] at hrest
    exact ⟨us, hus, hrest, rfl⟩

/-- A row up to the end of the text is read as a whole. -/
theorem run_unescape_of_row {us : List EscapeUnit} (hus : table.Row normal mark us)
    (hc : c.rest = us.flatMap (·.source mark)) :
    (unescape normal mark table k).run c =
      .ok (us.flatMap (·.value)) (c.skip (us.flatMap (·.source mark)).length) := by
  have hrow := hus.unescape []
  rw [List.append_nil, ← hc] at hrow
  rw [run_unescape, hrow, hc]
  simp [EscapeTable.unescape, Unescaped.cons]

/-- A run of plain and escaped characters is the longest row of units. A mark behind it is an
unknown escape, and the failure stands exactly there; without one the run ends where the text does
or a character is not plain, and holds what its units stand for. The loop that copies slices between
the escapes does the same. So two runs that are complete hold together what each of them holds. -/
theorem run_unescape_units (hk : table.SingleKeyed) (normal : Char → Bool) (mark : Char)
    (k : Construct) (c : Cursor) :
    (∃ us d, table.LongestRow normal mark c us d ∧
      (d.peek = some mark → (unescape normal mark table k).run c =
        .fail ⟨d, table.expected mark, some k, true⟩) ∧
      (d.peek ≠ some mark → (unescape normal mark table k).run c = .ok (us.flatMap (·.value)) d ∧
        ∀ x, d.peek = some x → normal x = false)) ∧
    ((unescape normal mark table k).run c =
      match table.slices normal mark c.text [] c.offset c.offset with
      | .error i => .fail ⟨.place c.text i, table.expected mark, some k, true⟩
      | .ok (v, i) => .ok v (.place c.text i)) ∧
    ∀ t u v w d e, (unescape normal mark table k).run (.ofText t) = .ok v d → d.atEnd = true →
      (unescape normal mark table k).run (.ofText u) = .ok w e → e.atEnd = true →
      c.rest = t ++ u →
        (unescape normal mark table k).run c = .ok (v ++ w) (c.skip (t ++ u).length) := by
  refine ⟨?_, run_unescape_slices normal mark table k c, fun t u v w d e ht hd hu he hc => ?_⟩
  · obtain ⟨us, d, hrow, hstops, hrun⟩ := run_unescape_row hk normal mark k c
    refine ⟨us, d, hrow, fun hp => by rw [hrun, if_pos hp], fun hp => ⟨by rw [hrun, if_neg hp], ?_⟩⟩
    exact fun x hx => hstops.peek hx fun hm => hp (hm ▸ hx)
  · obtain ⟨us, hus, rfl, rfl⟩ := row_of_run hk ht hd
    obtain ⟨vs, hvs, rfl, rfl⟩ := row_of_run hk hu he
    have hrow : table.Row normal mark (us ++ vs) := List.forall_mem_append.2 ⟨hus, hvs⟩
    rw [← List.flatMap_append] at hc
    rw [run_unescape_of_row hrow hc, List.flatMap_append, List.flatMap_append]

/-- A line feed and a backslash, each behind the other's text. -/
theorem run_unescape_units_string :
    Grammar.stringBody.run (.ofText "a\\n\\\\b") = .ok "a\n\\b" (.place "a\\n\\\\b" 6) := by
  have hk : stringEscapes.SingleKeyed := by decide
  obtain ⟨-, -, happend⟩ := run_unescape_units hk isStringChar '\\' .string
    (.ofText "a\\n\\\\b")
  exact happend "a\\n" "\\\\b" "a\n" "\\b" _ _ rfl rfl rfl rfl rfl

end Rule

end CurlyMarkup
