import CurlyMarkup.Markup.Tag
set_option autoImplicit false

/-!
Cutting HTML text into tokens. There are two passes: the first stops at the first thing that it
cannot make out, and the second goes on from there, taking unfinished constructs as data; what
stops the second pass makes all the rest data.
-/

namespace CurlyMarkup.Markup

inductive Step where
  | read (tokens : List Token) (rest : Text)
  /-- The construct here does not end. -/
  | unfinished
  /-- The pass is over. -/
  | stop (tokens : List Token) (rest : Text)
  | reject (reason : Rejection)

def isPlain (c : Char) : Bool := c ≠ '<' && c ≠ '&'

/-- The elements whose content is one text. -/
def rawNames : List Text := ["script", "style"]

/-- What follows the name in an end tag, up to the end of the tag. -/
def afterBlanksClosed? (t : Text) : Option Text :=
  match t.dropWhile isBlank with
  | '>' :: r => some r
  | _ => none

/-- What follows `name`, in either case, at the start of `t`. -/
def afterName? : Text → Text → Option Text
  | [], t => some t
  | n :: name, c :: t => if c.toLower = n then afterName? name t else none
  | _ :: _, [] => none

/-- Cuts before the first end tag of `name`, and drops the tag. -/
def cutAtEndTag? (name : Text) : Text → Option (Text × Text)
  | [] => none
  | c :: t =>
    match (if c = '<' then t else []) with
    | '/' :: r =>
      match (afterName? name (r.dropWhile isBlank)).bind afterBlanksClosed? with
      | some rest => some ([], rest)
      | none => (cutAtEndTag? name t).map fun (a, b) => (c :: a, b)
    | _ => (cutAtEndTag? name t).map fun (a, b) => (c :: a, b)

/-- The rest of the text is lost if a raw element is never closed. -/
def readRaw (tag : StartTag) (t : Text) : Step :=
  match cutAtEndTag? tag.name t with
  | some (content, r) => .read (.start tag :: Token.data content ++ [.finish tag.name]) r
  | none => .read [.start tag] []

def stepStartTag (t : Text) : Step :=
  match readStartTag t with
  | .whole tag r =>
    if !tag.selfClosing && rawNames.contains tag.name then readRaw tag r
    else .read [.start tag] r
  | .broken r => .read (Token.data ('<' :: t.take (t.length-r.length))) r
  | .unfinished => .unfinished
  | .rejected reason => .reject reason

def isEndTagNameChar (c : Char) : Bool := c.isAlphanum || ['-', '.', ':', '_'].contains c

/-- The name in an end tag, which stands alone between blanks. -/
def plainEndTagName? (inner : Text) : Option Text :=
  match inner.dropWhile isBlank with
  | [] => none
  | c :: t =>
    if isLetter c && (t.dropWhile isEndTagNameChar).all isBlank then
      some (c :: t.takeWhile isEndTagNameChar)
    else none

/-- Reads what follows `</`. -/
def stepEndTag (t : Text) : Step :=
  match Text.cut? '>' t with
  | none => .unfinished
  | some (inner, r) =>
    match plainEndTagName? inner, inner with
    | some name, _ => .read [.finish (Text.lower name)] r
    | none, [] => .read [] r
    | none, c :: _ =>
      if isLetter c then .read [.finish (Text.lower (inner.takeWhile (!endsTagName ·)))] r
      else .read [.string .comment inner] r

/-- Cuts at the first `--` that only blanks part from a `>`, and drops all that. -/
def cutAtCommentEnd? : Text → Option (Text × Text)
  | '-' :: '-' :: t =>
    match afterBlanksClosed? t with
    | some r => some ([], r)
    | none => (cutAtCommentEnd? ('-' :: t)).map fun (a, b) => ('-' :: a, b)
  | c :: t => (cutAtCommentEnd? t).map fun (a, b) => (c :: a, b)
  | [] => none

/-- Cuts at the first `]`, of which `more` others follow after blanks each, before a `>`. -/
def cutAtSectionEnd? (more : Nat) : Text → Option (Text × Text)
  | ']' :: t =>
    match afterBrackets? more t with
    | some r => some ([], r)
    | none => (cutAtSectionEnd? more t).map fun (a, b) => (']' :: a, b)
  | c :: t => (cutAtSectionEnd? more t).map fun (a, b) => (c :: a, b)
  | [] => none
where
  afterBrackets? : Nat → Text → Option Text
    | 0, t => afterBlanksClosed? t
    | n+1, t =>
      match t.dropWhile isBlank with
      | ']' :: r => afterBrackets? n r
      | _ => none

def isKeywordChar (c : Char) : Bool := c.isAlphanum || ['-', '_', '.'].contains c

def sectionKeywords : List Text := ["temp", "cdata", "ignore", "include", "rcdata"]

def conditionKeywords : List Text := ["if", "else", "endif"]

/-- A rejection shows this much of the text. -/
def rejectionPreview : Nat := 20

def sectionToken (content : Text) : Token :=
  if Text.upper (content.take 6) = "CDATA[" then .string .section (content.drop 6)
  else .string .declaration content

/-- Reads what follows `<![`. -/
def stepSection (t : Text) : Step :=
  match t with
  | [] => .unfinished
  | c :: u =>
    let name := c :: u.takeWhile isKeywordChar
    let gap := (u.dropWhile isKeywordChar).takeWhile isBlank
    let more :=
      if sectionKeywords.contains (Text.lower name) then some 1
      else if conditionKeywords.contains (Text.lower name) then some 0
      else none
    if !isLetter c then .reject (.nameExpected (('<' :: '!' :: '[' :: t).take rejectionPreview))
    else if ((u.dropWhile isKeywordChar).dropWhile isBlank).isEmpty then .unfinished
    else match more with
      | none => .reject (.unknownKeyword (name ++ gap))
      | some more =>
        match cutAtSectionEnd? more t with
        | some (content, r) => .read [sectionToken content] r
        | none => .unfinished

/-- Reads what follows `<!`. -/
def stepDeclaration (t : Text) : Step :=
  match t with
  | '-' :: '-' :: u =>
    match cutAtCommentEnd? u with
    | some (content, r) => .read [.string .comment content] r
    | none => .unfinished
  | '[' :: u => stepSection u
  | _ =>
    match afterName? "doctype" t with
    | some u =>
      match Text.cut? '>' u with
      | some (content, r) => .read [.string .doctype (content.drop 1)] r
      | none => .unfinished
    | none =>
      match Text.cut? '>' t with
      | some (content, r) => .read [.string .comment content] r
      | none => .unfinished

/-- Reads what follows `<`. -/
def stepAngle (t : Text) : Step :=
  match t with
  | [] => .stop [] ['<']
  | '/' :: u => stepEndTag u
  | '!' :: u => stepDeclaration u
  | '?' :: u =>
    match Text.cut? '>' u with
    | some (content, r) => .read [.string .instruction content] r
    | none => .unfinished
  | c :: _ => if isLetter c then stepStartTag t else .read (Token.data ['<']) t

def isReferenceNameChar (c : Char) : Bool := c.isAlphanum || c = '-' || c = '.'

/-- The name of a reference and what follows it, which must be there and not go on the name. -/
def readReferenceName? (t : Text) : Option (Text × Text) :=
  let name := t.takeWhile isReferenceNameChar
  match t.dropWhile isReferenceNameChar with
  | c :: r => some (name, c :: r)
  | [] =>
    let last := name.reverse.takeWhile Char.isAlphanum
    if last.length + 1 < name.length then
      let k := name.length-last.length-1
      some (name.take k, name.drop k)
    else none

/-- Reads what follows `&`. A reference at the very end counts only if something ends it. -/
def stepReference (final : Bool) (t : Text) : Step :=
  match t with
  | [] => .stop [] ['&']
  | '#' :: u =>
    match readNumeral? u with
    | some (n, c :: r) =>
      if isHexDigit c then stopAtHash u
      else match n.value with
        | .ok k => .read [.string .data [textChar k]] (dropSemicolon (c :: r))
        | .error reason => .reject reason
    | _ => stopAtHash u
  | c :: u =>
    if isLetter c then
      match readReferenceName? t with
      | some (name, r) =>
        match namedText? name with
        | some x => .read [.string .data x] (dropSemicolon r)
        | none => .read [.string .data ('&' :: name)] (dropSemicolon r)
      | none => if final && u.isEmpty then .stop [] t else .stop [] ('&' :: t)
    else .read [.string .data ['&']] t
where
  stopAtHash (u : Text) : Step :=
    if u.contains ';' then .stop [.string .data ['&', '#']] u else .stop [] ('&' :: '#' :: u)

def step (final : Bool) (c : Char) (t : Text) : Step :=
  if c = '<' then stepAngle t
  else if c = '&' then stepReference final t
  else .read [.string .data (c :: t.takeWhile isPlain)] (t.dropWhile isPlain)

/-- Takes an unfinished construct as data: up to its first `>`, or else to the next `<`, or else
its first character. -/
def unfinishedData (c : Char) (t : Text) : Text × Text :=
  match Text.cut? '>' t with
  | some (a, r) => (c :: a ++ ['>'], r)
  | none =>
    if t.contains '<' then (c :: t.takeWhile (· ≠ '<'), t.dropWhile (· ≠ '<')) else ([c], t)

/-- The second pass; every step takes up one character of `bound` at least. -/
def scanFinal : Text → Text → Except Rejection (List Token)
  | _ :: bound, c :: t =>
    match step true c t with
    | .read tokens r => (scanFinal bound r).map (tokens ++ ·)
    | .unfinished =>
      let (data, r) := unfinishedData c t
      (scanFinal bound r).map (Token.data data ++ ·)
    | .stop tokens r => .ok (tokens ++ Token.data r)
    | .reject reason => .error reason
  | _, _ => .ok []

/-- The first pass, and after it the second. -/
def scanFirst : Text → Text → Except Rejection (List Token)
  | _ :: bound, c :: t =>
    match step false c t with
    | .read tokens r => (scanFirst bound r).map (tokens ++ ·)
    | .unfinished => scanFinal (c :: t) (c :: t)
    | .stop tokens r => (scanFinal r r).map (tokens ++ ·)
    | .reject reason => .error reason
  | _, _ => .ok []

def scan (t : Text) : Except Rejection (List Token) := scanFirst t t

end CurlyMarkup.Markup
