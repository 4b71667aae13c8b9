import CurlyMarkup.Rule.Basic
set_option autoImplicit false

/-!
Running a rule. Repetitions take their bound from the text that is left: every round but the
last consumes a character, so a repetition that outlasts the text never ends.
-/

namespace CurlyMarkup

def Result.map {α β : Type} (f : α → β) : Result α → Result β
  | .ok a c => .ok (f a) c
  | .fail e => .fail e
  | .endless => .endless

def Result.bind {α β : Type} (r : Result α) (f : α → Cursor → Result β) : Result β :=
  match r with
  | .ok a c => f a c
  | .fail e => .fail e
  | .endless => .endless

/-- Gives an uncommitted failure to `f`. -/
def Result.recover {α : Type} (r : Result α) (f : Failure → Result α) : Result α :=
  match r with
  | .ok a c => .ok a c
  | .fail e => if e.committed then .fail e else f e
  | .endless => .endless

def Result.mapFailure {α : Type} (f : Failure → Failure) : Result α → Result α
  | .ok a c => .ok a c
  | .fail e => .fail (f e)
  | .endless => .endless

/-- What a run of plain and escaped characters holds, how far it reaches, and whether an unknown
escape broke it off there. -/
structure Unescaped where
  value : Text
  length : Nat
  broken : Bool
  deriving DecidableEq, Repr

def Unescaped.cons (value : Text) (length : Nat) (u : Unescaped) : Unescaped :=
  ⟨value ++ u.value, length+u.length, u.broken⟩

def EscapeTable.unescape (table : EscapeTable) (normal : Char → Bool) (mark : Char) :
    Text → Unescaped
  | [] => ⟨[], 0, false⟩
  | [c] =>
    if c = mark then
      match table.lookup [] with
      | some v => ⟨v, 2, false⟩
      | none => ⟨[], 0, true⟩
    else if normal c then ⟨[c], 1, false⟩
    else ⟨[], 0, false⟩
  | c :: d :: t =>
    if c = mark then
      match table.lookup [d] with
      | some v => (table.unescape normal mark t).cons v 2
      | none => ⟨[], 0, true⟩
    else if normal c then (table.unescape normal mark (d :: t)).cons [c] 1
    else ⟨[], 0, false⟩

def EscapeTable.expected (table : EscapeTable) (mark : Char) : Text :=
  ("escape sequence (one of " : Text) ++
    (", " : Text).intercalate (table.map fun e => Text.quoted (mark :: e.1)) ++ (")" : Text)

/-- Rounds of `step` up to the first uncommitted failure, or to one that consumes nothing. -/
def Result.many {α : Type} (step : Cursor → Result α) (bound : Text) (c : Cursor) :
    Result (List α) :=
  match step c with
  | .ok a d =>
    if d.offset = c.offset then .ok [] c
    else match bound with
      | [] => .endless
      | _ :: bound => (many step bound d).map (a :: ·)
  | .fail e => if e.committed then .fail e else .ok [] c
  | .endless => .endless

/-- Rounds of a separator and an item up to the first uncommitted failure of either. -/
def Result.separated {α β : Type} (item : Cursor → Result α) (separator : Cursor → Result β)
    (bound : Text) (c : Cursor) : Result (List α) :=
  match separator c with
  | .ok _ d =>
    match item d with
    | .ok a d =>
      match bound with
      | [] => .endless
      | _ :: bound => (separated item separator bound d).map (a :: ·)
    | .fail e => if e.committed then .fail e else .ok [] c
    | .endless => .endless
  | .fail e => if e.committed then .fail e else .ok [] c
  | .endless => .endless

/-- Turns inside the bracket of `head`, which holds `items`, last first; `outer` has the heads
and items of the brackets around it, innermost first. -/
def Result.nested {η β : Type} (turn : Cursor → Result (Turn η β)) (build : η → List β → β)
    (bound : Text) (head : η) (items : List β) (outer : List (η × List β)) (c : Cursor) :
    Result (η × List β) :=
  match turn c with
  | .ok .closed d =>
    match outer, bound with
    | [], _ => .ok (head, items.reverse) d
    | _ :: _, [] => .endless
    | (h, is) :: outer, _ :: bound =>
      nested turn build bound h (build head items.reverse :: is) outer d
  | .ok (.leaf x) d =>
    match bound with
    | [] => .endless
    | _ :: bound => nested turn build bound head (x :: items) outer d
  | .ok (.opened h) d =>
    match bound with
    | [] => .endless
    | _ :: bound => nested turn build bound h [] ((head, items) :: outer) d
  | .fail e => .fail e
  | .endless => .endless

def Rule.run : {α : Type} → Rule α → Cursor → Result α
  | _, .succeed a, c => .ok a c
  | _, .refuse expected, c => .fail (c.missing expected)
  | _, .literal t expected, c =>
    if c.startsWith t then .ok t (c.skip t.length) else .fail (c.missing expected)
  | _, .takeWhile p, c =>
    let t := c.rest.takeWhile p
    .ok t (c.skip t.length)
  | _, .takeWhile1 p expected, c =>
    let t := c.rest.takeWhile p
    if t.isEmpty then .fail (c.missing expected) else .ok t (c.skip t.length)
  | _, .endOfText expected, c => if c.atEnd then .ok () c else .fail (c.missing expected)
  | _, .unescape normal mark table k, c =>
    let u := table.unescape normal mark c.rest
    if u.broken then .fail ⟨c.skip u.length, table.expected mark, some k, true⟩
    else .ok u.value (c.skip u.length)
  | _, .pair r s, c => (r.run c).bind fun a d => (s.run d).map (a, ·)
  | _, .orElse r s, c => (r.run c).recover fun _ => s.run c
  | _, .relabel expected r, c => (r.run c).recover fun _ => .fail (c.missing expected)
  | _, .optional r, c => ((r.run c).map some).recover fun _ => .ok none c
  | _, .many r, c => Result.many r.run c.rest c
  | _, .separated r s, c =>
    match r.run c with
    | .ok a d => (Result.separated r.run s.run d.rest d).map (a :: ·)
    | .fail e => if e.committed then .fail e else .ok [] c
    | .endless => .endless
  | _, .map f r, c => (r.run c).map f
  | _, .commit r, c => (r.run c).mapFailure Failure.commit
  | _, .blame k r, c => (r.run c).mapFailure (·.blame k)
  | _, .nested opening turn build, c =>
    (opening.run c).bind fun h d => Result.nested turn.run build d.rest h [] [] d

namespace Rule

variable {α β η : Type} (c : Cursor)

theorem run_succeed (a : α) : (succeed a).run c = .ok a c := rfl

theorem run_refuse (expected : Text) :
    (refuse expected : Rule α).run c = .fail (c.missing expected) := rfl

theorem run_literal (t expected : Text) :
    (literal t expected).run c =
      if c.startsWith t then .ok t (c.skip t.length) else .fail (c.missing expected) := rfl

theorem run_takeWhile (p : Char → Bool) :
    (takeWhile p).run c = .ok (c.rest.takeWhile p) (c.skip (c.rest.takeWhile p).length) := rfl

theorem run_takeWhile1 (p : Char → Bool) (expected : Text) :
    (takeWhile1 p expected).run c =
      if (c.rest.takeWhile p).isEmpty then .fail (c.missing expected)
      else .ok (c.rest.takeWhile p) (c.skip (c.rest.takeWhile p).length) := rfl

theorem run_endOfText (expected : Text) :
    (endOfText expected).run c = if c.atEnd then .ok () c else .fail (c.missing expected) := rfl

theorem run_unescape (normal : Char → Bool) (mark : Char) (table : EscapeTable) (k : Construct) :
    (unescape normal mark table k).run c =
      if (table.unescape normal mark c.rest).broken then
        .fail ⟨c.skip (table.unescape normal mark c.rest).length, table.expected mark, some k, true⟩
      else
        .ok (table.unescape normal mark c.rest).value
          (c.skip (table.unescape normal mark c.rest).length) := rfl

theorem run_pair (r : Rule α) (s : Rule β) :
    (pair r s).run c = (r.run c).bind fun a d => (s.run d).map (a, ·) := rfl

theorem run_orElse (r s : Rule α) :
    (orElse r s).run c = (r.run c).recover fun _ => s.run c := rfl

theorem run_relabel (expected : Text) (r : Rule α) :
    (relabel expected r).run c = (r.run c).recover fun _ => .fail (c.missing expected) := rfl

theorem run_optional (r : Rule α) :
    (optional r).run c = ((r.run c).map some).recover fun _ => .ok none c := rfl

theorem run_many (r : Rule α) : (many r).run c = Result.many r.run c.rest c := rfl

theorem run_separated (r : Rule α) (s : Rule β) :
    (separated r s).run c =
      match r.run c with
      | .ok a d => (Result.separated r.run s.run d.rest d).map (a :: ·)
      | .fail e => if e.committed then .fail e else .ok [] c
      | .endless => .endless := rfl

theorem run_map (f : α → β) (r : Rule α) : (r.map f).run c = (r.run c).map f := rfl

theorem run_commit (r : Rule α) : r.commit.run c = (r.run c).mapFailure Failure.commit := rfl

theorem run_blame (k : Construct) (r : Rule α) :
    (r.blame k).run c = (r.run c).mapFailure (·.blame k) := rfl

theorem run_nested (opening : Rule η) (turn : Rule (Turn η β)) (build : η → List β → β) :
    (nested opening turn build).run c =
      (opening.run c).bind fun h d => Result.nested turn.run build d.rest h [] [] d := rfl

end Rule

namespace Rule

/-- A text that is announced in its quoted form. -/
def token (t : Text) : Rule Text := literal t t.quoted

/-- A text that is announced under a name, or in its quoted form if the name is empty. -/
def named (t name : Text) : Rule Text := if name.isEmpty then token t else literal t name

def blanks : Rule Text := takeWhile isBlank

def blanks1 (expected : Text := "whitespace") : Rule Text := takeWhile1 isBlank expected

def finish (expected : Text := "end of input") : Rule Unit := endOfText expected

def sequence {α : Type} : List (Rule α) → Rule (List α)
  | [] => succeed []
  | r :: rs => (pair r (sequence rs)).map fun (a, as) => a :: as

def firstOf {α : Type} : List (Rule α) → Rule α
  | [] => refuse "alternative"
  | [r] => r
  | r :: rs@(_ :: _) => orElse r (firstOf rs)

/-- Alternatives under one name. Without a name the failure of the last is reported. -/
def alternatives {α : Type} (name : Option Text) (rs : List (Rule α)) : Rule α :=
  match name with
  | none => firstOf rs
  | some n => relabel (if n.isEmpty then "alternative" else n) (firstOf rs)

def preceded {α β : Type} (first : Rule α) (second : Rule β) : Rule β :=
  (pair first second).map Prod.snd

def terminated {α β : Type} (first : Rule α) (second : Rule β) : Rule α :=
  (pair first second).map Prod.fst

def delimited {α β γ : Type} (opening : Rule α) (inner : Rule β) (closing : Rule γ) : Rule β :=
  preceded opening (terminated inner closing)

end Rule

end CurlyMarkup
