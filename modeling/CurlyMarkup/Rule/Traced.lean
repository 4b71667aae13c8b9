import CurlyMarkup.Rule.Run
set_option autoImplicit false

/-!
Runs of rules with a record of what is tried on the way and of what comes of it. The record is made
beside the result, which is the one that the rule has without it.
-/

namespace CurlyMarkup

/-- A rule is tried at a place, or it has returned from there. The constructs `around` are those
that the rules around it blame, innermost first. -/
inductive Event : Type 1 where
  | tried {α : Type} (rule : Rule α) (cursor : Cursor)
  | returned {α : Type} (rule : Rule α) (cursor : Cursor) (result : Result α)
      (around : List Construct)

namespace Event

def isTry : Event → Bool
  | .tried _ _ => true
  | .returned _ _ _ _ => false

def within (k : Construct) : Event → Event
  | .tried r c => .tried r c
  | .returned r c result around => .returned r c result (around ++ [k])

end Event

structure Traced (α : Type) : Type 1 where
  result : Result α
  events : List Event

namespace Traced

variable {α β η : Type}

def quiet (r : Result α) : Traced α := ⟨r, []⟩

/-- The events inside a rule stand between the two of its own. -/
def of (r : Rule α) (c : Cursor) (t : Traced α) : Traced α :=
  ⟨t.result, .tried r c :: (t.events ++ [.returned r c t.result []])⟩

def andThen (t : Traced α) (f : Result α → Traced β) : Traced β :=
  ⟨(f t.result).result, t.events ++ (f t.result).events⟩

def map (f : α → β) (t : Traced α) : Traced β := ⟨t.result.map f, t.events⟩

def bind (t : Traced α) (f : α → Cursor → Traced β) : Traced β :=
  t.andThen fun
    | .ok a c => f a c
    | .fail e => quiet (.fail e)
    | .endless => quiet .endless

def recover (t : Traced α) (f : Failure → Traced α) : Traced α :=
  t.andThen fun
    | .ok a c => quiet (.ok a c)
    | .fail e => if e.committed then quiet (.fail e) else f e
    | .endless => quiet .endless

/-- An uncommitted failure counts as the result `stop`. -/
def attempt (stop : Result β) (t : Traced α) (f : α → Cursor → Traced β) : Traced β :=
  t.andThen fun
    | .ok a c => f a c
    | .fail e => quiet (if e.committed then .fail e else stop)
    | .endless => quiet .endless

def commit (t : Traced α) : Traced α := ⟨t.result.mapFailure Failure.commit, t.events⟩

def blame (k : Construct) (t : Traced α) : Traced α :=
  ⟨t.result.mapFailure (·.blame k), t.events.map (·.within k)⟩

def many (step : Cursor → Traced α) (bound : Text) (c : Cursor) : Traced (List α) :=
  (step c).attempt (.ok [] c) fun a d =>
    if d.offset = c.offset then quiet (.ok [] c)
    else match bound with
      | [] => quiet .endless
      | _ :: bound => (many step bound d).map (a :: ·)

def separated (item : Cursor → Traced α) (separator : Cursor → Traced β) (bound : Text)
    (c : Cursor) : Traced (List α) :=
  (separator c).attempt (.ok [] c) fun _ d =>
    (item d).attempt (.ok [] c) fun a d =>
      match bound with
      | [] => quiet .endless
      | _ :: bound => (separated item separator bound d).map (a :: ·)

def nested (turn : Cursor → Traced (Turn η β)) (build : η → List β → β) (bound : Text) (head : η)
    (items : List β) (outer : List (η × List β)) (c : Cursor) : Traced (η × List β) :=
  (turn c).bind fun t d =>
    match t with
    | .closed =>
      match outer, bound with
      | [], _ => quiet (.ok (head, items.reverse) d)
      | _ :: _, [] => quiet .endless
      | (h, is) :: outer, _ :: bound =>
        nested turn build bound h (build head items.reverse :: is) outer d
    | .leaf x =>
      match bound with
      | [] => quiet .endless
      | _ :: bound => nested turn build bound head (x :: items) outer d
    | .opened h =>
      match bound with
      | [] => quiet .endless
      | _ :: bound => nested turn build bound h [] ((head, items) :: outer) d

end Traced

namespace Rule

/-- What happens inside a rule, without the events of the rule itself. -/
def inside : {α : Type} → Rule α → Cursor → Traced α
  | _, .succeed a, c => .quiet ((succeed a).run c)
  | _, .refuse expected, c => .quiet ((refuse expected).run c)
  | _, .literal t expected, c => .quiet ((literal t expected).run c)
  | _, .takeWhile p, c => .quiet ((takeWhile p).run c)
  | _, .takeWhile1 p expected, c => .quiet ((takeWhile1 p expected).run c)
  | _, .endOfText expected, c => .quiet ((endOfText expected).run c)
  | _, .unescape normal mark table k, c => .quiet ((unescape normal mark table k).run c)
  | _, .pair r s, c =>
    (Traced.of r c (r.inside c)).bind fun a d => (Traced.of s d (s.inside d)).map (a, ·)
  | _, .orElse r s, c =>
    (Traced.of r c (r.inside c)).recover fun _ => Traced.of s c (s.inside c)
  | _, .relabel expected r, c =>
    (Traced.of r c (r.inside c)).recover fun _ => .quiet (.fail (c.missing expected))
  | _, .optional r, c =>
    ((Traced.of r c (r.inside c)).map some).recover fun _ => .quiet (.ok none c)
  | _, .many r, c => .many (fun d => Traced.of r d (r.inside d)) c.rest c
  | _, .separated r s, c =>
    (Traced.of r c (r.inside c)).attempt (.ok [] c) fun a d =>
      (Traced.separated (fun d => Traced.of r d (r.inside d)) (fun d => Traced.of s d (s.inside d))
        d.rest d).map (a :: ·)
  | _, .map f r, c => (Traced.of r c (r.inside c)).map f
  | _, .commit r, c => (Traced.of r c (r.inside c)).commit
  | _, .blame k r, c => (Traced.of r c (r.inside c)).blame k
  | _, .nested opening turn build, c =>
    (Traced.of opening c (opening.inside c)).bind fun h d =>
      Traced.nested (fun d => Traced.of turn d (turn.inside d)) build d.rest h [] [] d

def observe {α : Type} (r : Rule α) (c : Cursor) : Traced α := Traced.of r c (r.inside c)

variable {α β η : Type} (c : Cursor)

theorem inside_pair (r : Rule α) (s : Rule β) :
    (pair r s).inside c = (r.observe c).bind fun a d => (s.observe d).map (a, ·) := rfl

theorem inside_orElse (r s : Rule α) :
    (orElse r s).inside c = (r.observe c).recover fun _ => s.observe c := rfl

theorem inside_relabel (expected : Text) (r : Rule α) : (relabel expected r).inside c =
    (r.observe c).recover fun _ => .quiet (.fail (c.missing expected)) := rfl

theorem inside_optional (r : Rule α) : (optional r).inside c =
    ((r.observe c).map some).recover fun _ => .quiet (.ok none c) := rfl

theorem inside_many (r : Rule α) : (many r).inside c = .many r.observe c.rest c := rfl

theorem inside_separated (r : Rule α) (s : Rule β) : (separated r s).inside c =
    (r.observe c).attempt (.ok [] c) fun a d =>
      (Traced.separated r.observe s.observe d.rest d).map (a :: ·) := rfl

theorem inside_map (f : α → β) (r : Rule α) : (r.map f).inside c = (r.observe c).map f := rfl

theorem inside_commit (r : Rule α) : r.commit.inside c = (r.observe c).commit := rfl

theorem inside_blame (k : Construct) (r : Rule α) :
    (r.blame k).inside c = (r.observe c).blame k := rfl

theorem inside_nested (opening : Rule η) (turn : Rule (Turn η β)) (build : η → List β → β) :
    (nested opening turn build).inside c = (opening.observe c).bind fun h d =>
      Traced.nested turn.observe build d.rest h [] [] d := rfl

end Rule

end CurlyMarkup
