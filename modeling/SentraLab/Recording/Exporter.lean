import Mathlib.Data.List.Infix
import Mathlib.Tactic.IntervalCases
import SentraLab.Basic

/-!
# The JUnit exporter

Model of `Exporter::export_junit` in `recording/exporter.rs`, which writes the events of a
run as a JUnit XML document by interpolating each event's `id` into an attribute and its
serialized `data` into a `failure` element, with no escaping.

## Strategy

What a document means is what an XML processor reports for it: `readDocument` reads a
document into its root element (`XmlNode`), with attribute values and character data after
the references in them are replaced and, for attribute values, tabs and newlines normalized
to spaces. The reader accepts a subset of XML 1.0: an XML declaration, elements, attributes
quoted either way, character data and the five predefined entity references; no comments,
processing instructions, CDATA sections, character references or carriage returns. So
everything it accepts is a well-formed document, read as a conforming processor reads it,
and `readDocument s = some root` is how the theorems say that `s` is well-formed.

Characters are read one at a time by a lexer (`lexChar`, `lexAll`) whose state is one of the
places of the grammar (`LexMode`), so that a document is lexed piece by piece
(`lexAll_append`); the tokens are then nested into elements (`nest`).

An exported id is read back unescaped: the document written for ids that are XML escapes of
strings reads as the document whose names are those strings
(`exportJunit_reads_unescaped_ids`), so an id such as `&amp;` is read as `&`. Ids that need no
escaping and failure data that is plain character data read back exactly
(`exportJunit_reads_plain_ids`).
-/

namespace SentraLab.Recording

/-! ## The exporter -/

/-- `EventType`. -/
inductive EventType where
  | agentStarted
  | inputReceived
  | externalCallMade
  | externalCallCompleted
  | stateChanged
  | decisionMade
  | errorEncountered
  | outputProduced
  | agentCompleted
deriving DecidableEq, Repr

/-- `Event`, with the fields `export_junit` reads; its `data` is a `serde_json::Value`, of
type `V`. -/
structure Event (V : Type) where
  id : String
  eventType : EventType
  data : V
  durationUs : Option Nat

/-- What `export_junit` takes from the libraries it calls: `serde_json::to_string` of an
event's data (which cannot fail on a `Value`), and `f64`'s `Display` of a duration in
seconds, which writes decimal digits and at most a point, never an exponent. -/
structure Render (V : Type) where
  json : V → List Char
  seconds : Nat → List Char
  seconds_digits : ∀ d, ∀ c ∈ seconds d, c.isDigit ∨ c = '.'

variable {V : Type}

/-- The `testcase` element `export_junit` writes for one event. -/
def testcase (render : Render V) (e : Event V) : List Char :=
  "  <testcase name=\"".toList ++ e.id.toList ++ "\" time=\"".toList ++
    render.seconds (e.durationUs.getD 0) ++ "\">\n".toList ++
    (if e.eventType = .errorEncountered then
      "    <failure message=\"Error encountered\">".toList ++ render.json e.data ++
        "</failure>\n".toList
    else []) ++
    "  </testcase>".toList

/-- `Exporter::export_junit`, which always succeeds: the XML declaration, the `testsuite`
start tag with the numbers of events and of `ErrorEncountered` events, the testcases joined
by newlines, and the end tag. -/
def exportJunit (render : Render V) (events : List (Event V)) : String :=
  let total := events.length
  let failures := (events.filter fun e => e.eventType = .errorEncountered).length
  String.mk ("<?xml version=\"1.0\" encoding=\"UTF-8\"?>\n".toList ++
    "<testsuite name=\"Sentra Lab Simulation\" tests=\"".toList ++ (toString total).toList ++
    "\" failures=\"".toList ++ (toString failures).toList ++ "\" time=\"0\">\n".toList ++
    List.intercalate ['\n'] (events.map (testcase render)) ++ "</testsuite>".toList)

/-! ## Reading XML -/

/-- `Char` of XML 1.0, without the carriage return, which this reader rejects rather than
normalizes. -/
def isXmlChar (c : Char) : Bool :=
  c = '\t' || c = '\n' || (0x20 ≤ c.toNat && c.toNat ≤ 0xFFFD) || 0x10000 ≤ c.toNat

/-- `S`, without the carriage return. -/
def isXmlSpace (c : Char) : Bool := c = ' ' || c = '\t' || c = '\n'

/-- The ASCII `NameStartChar`s. -/
def isNameStart (c : Char) : Bool := c.isAlpha || c = '_' || c = ':'

/-- The ASCII `NameChar`s. -/
def isNameChar (c : Char) : Bool := isNameStart c || c.isDigit || c = '-' || c = '.'

/-- The predefined entities. -/
def entity : List Char → Option Char
  | ['l', 't'] => some '<'
  | ['g', 't'] => some '>'
  | ['a', 'm', 'p'] => some '&'
  | ['q', 'u', 'o', 't'] => some '"'
  | ['a', 'p', 'o', 's'] => some '\x27'
  | _ => none

/-- A node as an XML processor reports it: an element with its name, its attributes with
their values, and its children; or character data. -/
inductive XmlNode where
  | element (name : List Char) (attrs : List (List Char × List Char)) (children : List XmlNode)
  | text (data : List Char)

/-- What the lexer reports: a start tag (an empty-element tag gives a start and an end), an
end tag, or a run of character data. -/
inductive XmlToken where
  | start (name : List Char) (attrs : List (List Char × List Char))
  | stop (name : List Char)
  | text (data : List Char)
deriving DecidableEq, Repr

/-- Where the lexer stands: in character data (what it has read of it so far, references
replaced), in a reference, after `<`, in a start tag's name, in a start tag after its name
or an attribute (and whether a space has been read since), in an attribute's name, before
its `=`, before its opening quote, in its value, in a reference in its value, after a start
tag's `/`, in an end tag's name, or after it. -/
inductive LexMode where
  | text (buf : List Char)
  | textRef (buf ref : List Char)
  | tagOpen
  | startName (name : List Char)
  | inTag (name : List Char) (attrs : List (List Char × List Char)) (spaced : Bool)
  | attrName (name : List Char) (attrs : List (List Char × List Char)) (an : List Char)
  | attrEq (name : List Char) (attrs : List (List Char × List Char)) (an : List Char)
  | attrQuote (name : List Char) (attrs : List (List Char × List Char)) (an : List Char)
  | value (name : List Char) (attrs : List (List Char × List Char)) (an : List Char) (q : Char)
      (v : List Char)
  | valueRef (name : List Char) (attrs : List (List Char × List Char)) (an : List Char)
      (q : Char) (v ref : List Char)
  | emptyEnd (name : List Char) (attrs : List (List Char × List Char))
  | endName (name : List Char)
  | endSpace (name : List Char)
deriving Repr

/-- The tokens read so far, and where the lexer stands. -/
structure Lexer where
  tokens : List XmlToken
  mode : LexMode
deriving Repr

/-- The token for the character data read, if there is any. -/
def textTokens (buf : List Char) : List XmlToken := if buf = [] then [] else [.text buf]

/-- A character of a start tag after its name or an attribute: a space, the tag's end, the
`/` of an empty-element tag, or, after a space, an attribute's name. -/
def tagChar (ts : List XmlToken) (name : List Char) (attrs : List (List Char × List Char))
    (spaced : Bool) (c : Char) : Option Lexer :=
  if isXmlSpace c then some ⟨ts, .inTag name attrs true⟩
  else if c = '>' then some ⟨ts ++ [.start name attrs], .text []⟩
  else if c = '/' then some ⟨ts, .emptyEnd name attrs⟩
  else if spaced ∧ isNameStart c then some ⟨ts, .attrName name attrs [c]⟩
  else none

/-- One character. Character data may not hold `<`, a `&` that does not begin a reference,
or `]]>`; an attribute value may not hold `<` or such a `&`, and its tabs and newlines are
read as spaces; an attribute may not be given twice. -/
def lexChar (ts : List XmlToken) (m : LexMode) (c : Char) : Option Lexer :=
  if !isXmlChar c then none else
  match m with
  | .text buf =>
    if c = '<' then some ⟨ts ++ textTokens buf, .tagOpen⟩
    else if c = '&' then some ⟨ts, .textRef buf []⟩
    else if c = '>' ∧ buf.drop (buf.length - 2) = [']', ']'] then none
    else some ⟨ts, .text (buf ++ [c])⟩
  | .textRef buf ref =>
    if c = ';' then (entity ref).map fun e => ⟨ts, .text (buf ++ [e])⟩
    else if isNameChar c then some ⟨ts, .textRef buf (ref ++ [c])⟩
    else none
  | .tagOpen =>
    if c = '/' then some ⟨ts, .endName []⟩
    else if isNameStart c then some ⟨ts, .startName [c]⟩
    else none
  | .startName name =>
    if isNameChar c then some ⟨ts, .startName (name ++ [c])⟩ else tagChar ts name [] false c
  | .inTag name attrs spaced => tagChar ts name attrs spaced c
  | .attrName name attrs an =>
    if isNameChar c then some ⟨ts, .attrName name attrs (an ++ [c])⟩
    else if isXmlSpace c then some ⟨ts, .attrEq name attrs an⟩
    else if c = '=' then some ⟨ts, .attrQuote name attrs an⟩
    else none
  | .attrEq name attrs an =>
    if isXmlSpace c then some ⟨ts, .attrEq name attrs an⟩
    else if c = '=' then some ⟨ts, .attrQuote name attrs an⟩
    else none
  | .attrQuote name attrs an =>
    if isXmlSpace c then some ⟨ts, .attrQuote name attrs an⟩
    else if c = '"' ∨ c = '\x27' then some ⟨ts, .value name attrs an c []⟩
    else none
  | .value name attrs an q v =>
    if c = q then
      if an ∈ attrs.map Prod.fst then none
      else some ⟨ts, .inTag name (attrs ++ [(an, v)]) false⟩
    else if c = '<' then none
    else if c = '&' then some ⟨ts, .valueRef name attrs an q v []⟩
    else if c = '\t' ∨ c = '\n' then some ⟨ts, .value name attrs an q (v ++ [' '])⟩
    else some ⟨ts, .value name attrs an q (v ++ [c])⟩
  | .valueRef name attrs an q v ref =>
    if c = ';' then (entity ref).map fun e => ⟨ts, .value name attrs an q (v ++ [e])⟩
    else if isNameChar c then some ⟨ts, .valueRef name attrs an q v (ref ++ [c])⟩
    else none
  | .emptyEnd name attrs =>
    if c = '>' then some ⟨ts ++ [.start name attrs, .stop name], .text []⟩ else none
  | .endName name =>
    if isNameChar c ∧ (name ≠ [] ∨ isNameStart c) then some ⟨ts, .endName (name ++ [c])⟩
    else if name = [] then none
    else if isXmlSpace c then some ⟨ts, .endSpace name⟩
    else if c = '>' then some ⟨ts ++ [.stop name], .text []⟩
    else none
  | .endSpace name =>
    if isXmlSpace c then some ⟨ts, .endSpace name⟩
    else if c = '>' then some ⟨ts ++ [.stop name], .text []⟩
    else none

/-- The lexer over a run of characters. -/
def lexAll : List Char → Lexer → Option Lexer
  | [], l => some l
  | c :: cs, l => (lexChar l.tokens l.mode c).bind (lexAll cs)

@[simp] theorem lexAll_nil (l : Lexer) : lexAll [] l = some l := rfl

/-- The tokens of a document, which must end in character data. -/
def Lexer.finish (l : Lexer) : Option (List XmlToken) :=
  match l.mode with
  | .text buf => some (l.tokens ++ textTokens buf)
  | _ => none

/-- An element whose end tag has not been read yet: its name, attributes, and children so
far, last first. -/
structure OpenElement where
  name : List Char
  attrs : List (List Char × List Char)
  children : List XmlNode

/-- Nests the tokens into elements, from the elements still open (innermost first) and the
nodes read outside every element (last first); every end tag must close the innermost open
element. -/
def nest : List XmlToken → List OpenElement → List XmlNode → Option (List XmlNode)
  | [], [], top => some top.reverse
  | [], _ :: _, _ => none
  | .start name attrs :: ts, st, top => nest ts (⟨name, attrs, []⟩ :: st) top
  | .stop _ :: _, [], _ => none
  | .stop name :: ts, o :: st, top =>
    if name = o.name then
      let node := XmlNode.element o.name o.attrs o.children.reverse
      match st with
      | [] => nest ts [] (node :: top)
      | p :: st => nest ts ({ p with children := node :: p.children } :: st) top
    else none
  | .text d :: ts, [], top => nest ts [] (.text d :: top)
  | .text d :: ts, o :: st, top => nest ts ({ o with children := .text d :: o.children } :: st) top

/-- Whether a node is an element. -/
def XmlNode.isElement : XmlNode → Bool
  | .element .. => true
  | .text _ => false

/-- Whether a node is character data made of spaces only. -/
def XmlNode.isBlank : XmlNode → Bool
  | .element .. => false
  | .text d => d.all isXmlSpace

/-- What follows a literal at the start of `s`. -/
def dropLit (lit s : List Char) : Option (List Char) :=
  if lit.isPrefixOf s then some (s.drop lit.length) else none

/-- What follows `S? '=' S?`. -/
def dropEq (s : List Char) : Option (List Char) :=
  (dropLit ['='] (s.dropWhile isXmlSpace)).map (List.dropWhile isXmlSpace)

/-- What follows a double-quoted literal whose content `ok` accepts. -/
def dropQuoted (ok : List Char → Bool) : List Char → Option (List Char)
  | '"' :: s =>
    if ok (s.takeWhile (· ≠ '"')) then dropLit ['"'] (s.dropWhile (· ≠ '"')) else none
  | _ => none

/-- `VersionNum`: `1.` and digits. -/
def isVersionNum : List Char → Bool
  | '1' :: '.' :: ds => !ds.isEmpty && ds.all Char.isDigit
  | _ => false

/-- `EncName`. -/
def isEncName : List Char → Bool
  | c :: cs => c.isAlpha && cs.all fun c => c.isAlphanum || c = '.' || c = '_' || c = '-'
  | [] => false

/-- An XML declaration with a `version` and an optional `encoding`, double-quoted, at the
start of `s`; what follows it. -/
def readXmlDecl (s : List Char) : Option (List Char) := do
  let s ← dropLit "<?xml".toList s
  let s ← if (s.head?.map isXmlSpace).getD false then some (s.dropWhile isXmlSpace) else none
  let s ← dropLit "version".toList s
  let s ← dropEq s
  let s ← dropQuoted isVersionNum s
  let s := ((dropLit [' '] s).bind (dropLit "encoding".toList) |>.bind dropEq
    |>.bind (dropQuoted isEncName)).getD s
  dropLit "?>".toList (s.dropWhile isXmlSpace)

/-- A document: an optional XML declaration, then one element with only spaces around it;
its root element. -/
def readDocument (s : List Char) : Option XmlNode := do
  let l ← lexAll ((readXmlDecl s).getD s) ⟨[], .text []⟩
  let tokens ← l.finish
  let top ← nest tokens [] []
  match top.filter XmlNode.isElement with
  | [root] => if top.all fun n => n.isElement || n.isBlank then some root else none
  | _ => none

/-! ## The intended document -/

/-- XML escaping of one character: the five that may stand for markup are written as
references. -/
def escapeChar (c : Char) : List Char :=
  if c = '&' then "&amp;".toList
  else if c = '<' then "&lt;".toList
  else if c = '>' then "&gt;".toList
  else if c = '"' then "&quot;".toList
  else if c = '\x27' then "&apos;".toList
  else [c]

/-- XML escaping. -/
def escape (s : List Char) : List Char := (s.map escapeChar).flatten

/-- The characters a value quoted by `q` holds as themselves. -/
def isPlainValueChar (q c : Char) : Bool :=
  isXmlChar c && c != q && c != '<' && c != '&' && c != '\t' && c != '\n'

/-- Character data read as itself: XML characters other than `<` and `&`, and no `]]>`. -/
def TextSafe (s : List Char) : Prop :=
  (∀ c ∈ s, isXmlChar c ∧ c ≠ '<' ∧ c ≠ '&') ∧ ¬ [']', ']', '>'] <:+: s

instance (s : List Char) : Decidable (TextSafe s) := inferInstanceAs (Decidable (_ ∧ _))

/-- The character data a reader reports for `d`: none when it is empty. -/
def textNodes (d : List Char) : List XmlNode := if d = [] then [] else [.text d]

/-- The intended testcase for an event: named by the event's id, timed by its
duration, with a failure holding its serialized data exactly when it is an
`ErrorEncountered`, and the exporter's indentation around them. -/
def testcaseNode (render : Render V) (e : Event V) : XmlNode :=
  .element "testcase".toList
    [("name".toList, e.id.toList), ("time".toList, render.seconds (e.durationUs.getD 0))]
    ((if e.eventType = .errorEncountered then
      [.text "\n    ".toList,
        .element "failure".toList [("message".toList, "Error encountered".toList)]
          (textNodes (render.json e.data))]
    else []) ++ [.text "\n  ".toList])

/-- The intended document: one testsuite whose `tests` and `failures` are the
numbers of events and of `ErrorEncountered` events, holding one testcase per event, in
order. -/
def junitDocument (render : Render V) (events : List (Event V)) : XmlNode :=
  .element "testsuite".toList
    [("name".toList, "Sentra Lab Simulation".toList),
      ("tests".toList, (toString events.length).toList),
      ("failures".toList,
        (toString (events.filter fun e => e.eventType = .errorEncountered).length).toList),
      ("time".toList, ['0'])]
    (match events with
    | [] => [.text ['\n']]
    | _ => (events.map fun e => [.text "\n  ".toList, testcaseNode render e]).flatten)

/-- The tokens read for one exported testcase, with the character data before it. -/
def caseTokens (render : Render V) (e : Event V) : List XmlToken :=
  [.text "\n  ".toList, .start "testcase".toList
    [("name".toList, e.id.toList), ("time".toList, render.seconds (e.durationUs.getD 0))]] ++
  (if e.eventType = .errorEncountered then
    [.text "\n    ".toList,
      .start "failure".toList [("message".toList, "Error encountered".toList)]] ++
    textTokens (render.json e.data) ++ [.stop "failure".toList]
  else []) ++
  [.text "\n  ".toList, .stop "testcase".toList]

/-- A document whose tokens nest into a line end and one element reads as that element. -/
theorem readDocument_of_nest {s s' : List Char} {tokens : List XmlToken} {root : XmlNode}
    (hd : readXmlDecl s = some s') (hl : lexAll s' ⟨[], .text []⟩ = some ⟨tokens, .text []⟩)
    (hn : nest tokens [] [] = some [.text ['\n'], root]) (hroot : root.isElement) :
    readDocument s = some root := by
  cases root with
  | text => cases hroot
  | element =>
    simp only [readDocument, hd, Option.getD_some, hl, Option.bind_eq_bind, Option.some_bind,
      Lexer.finish, textTokens, ↓reduceIte, List.append_nil, hn]
    rfl

/-! ## Lexing runs of characters -/

theorem lexAll_append (s t : List Char) (l : Lexer) :
    lexAll (s ++ t) l = (lexAll s l).bind (lexAll t) := by
  induction s generalizing l with
  | nil => rfl
  | cons c s ih =>
    simp only [List.cons_append, lexAll]
    cases lexChar l.tokens l.mode c <;> simp [ih]

theorem lexChar_value_plain {q c : Char} (h : isPlainValueChar q c) (ts : List XmlToken)
    (name : List Char) (attrs : List (List Char × List Char)) (an v : List Char) :
    lexChar ts (.value name attrs an q v) c = some ⟨ts, .value name attrs an q (v ++ [c])⟩ := by
  simp only [isPlainValueChar, Bool.and_eq_true, bne_iff_ne, ne_eq] at h
  obtain ⟨⟨⟨⟨⟨hx, hq⟩, hlt⟩, hamp⟩, htab⟩, hnl⟩ := h
  simp [lexChar, hx, hq, hlt, hamp, htab, hnl]

/-- A run of plain characters extends an attribute value. -/
theorem lexAll_value_plain {q : Char} {s : List Char} (hs : ∀ c ∈ s, isPlainValueChar q c)
    (ts : List XmlToken) (name : List Char) (attrs : List (List Char × List Char))
    (an v : List Char) :
    lexAll s ⟨ts, .value name attrs an q v⟩ =
      some ⟨ts, .value name attrs an q (v ++ s)⟩ := by
  induction s generalizing v with
  | nil => simp [lexAll]
  | cons c s ih =>
    simp only [List.mem_cons, forall_eq_or_imp] at hs
    simp [lexAll, lexChar_value_plain hs.1, ih hs.2]

theorem lexAll_escapeChar_value {c : Char} (hc : isXmlChar c ∧ c ≠ '\t' ∧ c ≠ '\n')
    (ts : List XmlToken) (name : List Char) (attrs : List (List Char × List Char))
    (an v : List Char) :
    lexAll (escapeChar c) ⟨ts, .value name attrs an '"' v⟩ =
      some ⟨ts, .value name attrs an '"' (v ++ [c])⟩ := by
  by_cases h₁ : c = '&'
  · subst h₁; rfl
  by_cases h₂ : c = '<'
  · subst h₂; rfl
  by_cases h₃ : c = '>'
  · subst h₃; rfl
  by_cases h₄ : c = '"'
  · subst h₄; rfl
  by_cases h₅ : c = '\x27'
  · subst h₅; rfl
  simp only [escapeChar, h₁, h₂, h₃, h₄, h₅, ite_false]
  exact lexAll_value_plain (by simp [isPlainValueChar, hc, h₁, h₂, h₄]) ts name attrs an v

/-- An escaped string in a double-quoted attribute value is read as the string. -/
theorem lexAll_escape_value {u : List Char}
    (hu : ∀ c ∈ u, isXmlChar c ∧ c ≠ '\t' ∧ c ≠ '\n')
    (ts : List XmlToken) (name : List Char) (attrs : List (List Char × List Char))
    (an v : List Char) :
    lexAll (escape u) ⟨ts, .value name attrs an '"' v⟩ =
      some ⟨ts, .value name attrs an '"' (v ++ u)⟩ := by
  induction u generalizing v with
  | nil => simp [escape, lexAll]
  | cons c u ih =>
    simp only [List.mem_cons, forall_eq_or_imp] at hu
    rw [show escape (c :: u) = escapeChar c ++ escape u from rfl, lexAll_append,
      lexAll_escapeChar_value hu.1, Option.some_bind, ih hu.2, List.append_assoc,
      List.singleton_append]

theorem isDigit_toNat {c : Char} (h : c.isDigit) : 48 ≤ c.toNat ∧ c.toNat ≤ 57 := by
  simpa [Char.isDigit, UInt32.le_def] using h

theorem isPlainValueChar_of_digit {c : Char} (h : c.isDigit ∨ c = '.') :
    isPlainValueChar '"' c := by
  rcases h with h | rfl
  · obtain ⟨h₁, h₂⟩ := isDigit_toNat h
    have ne : ∀ d : Char, d.toNat < 48 ∨ 57 < d.toNat → c ≠ d := fun d hd hc => by
      subst hc; omega
    simp [isPlainValueChar, isXmlChar, ne '"' (by decide), ne '<' (by decide),
      ne '&' (by decide), ne '\t' (by decide), ne '\n' (by decide),
      show 0x20 ≤ c.toNat by omega, show c.toNat ≤ 0xFFFD by omega]
  · decide

theorem isDigit_digitChar {d : Nat} (h : d < 10) : (Nat.digitChar d).isDigit := by
  interval_cases d <;> rfl

theorem isDigit_toDigitsCore (fuel n : Nat) {ds : List Char} (h : ∀ c ∈ ds, c.isDigit) :
    ∀ c ∈ Nat.toDigitsCore 10 fuel n ds, c.isDigit := by
  induction fuel generalizing n ds with
  | zero => exact h
  | succ fuel ih =>
    have hd : ∀ c ∈ Nat.digitChar (n % 10) :: ds, c.isDigit :=
      List.forall_mem_cons.2 ⟨isDigit_digitChar (Nat.mod_lt n (by norm_num)), h⟩
    show ∀ c ∈ (if n / 10 = 0 then Nat.digitChar (n % 10) :: ds
      else Nat.toDigitsCore 10 fuel (n / 10) (Nat.digitChar (n % 10) :: ds)), c.isDigit
    split_ifs
    · exact hd
    · exact ih _ hd

/-- `usize`'s `Display` writes decimal digits. -/
theorem isDigit_of_mem_toString {n : Nat} {c : Char} (h : c ∈ (toString n).toList) :
    c.isDigit :=
  isDigit_toDigitsCore _ _ (fun _ h => absurd h (List.not_mem_nil _)) c h

/-- Safe character data is read as itself. -/
theorem lexAll_text_safe {s : List Char} (hs : TextSafe s) (ts : List XmlToken) :
    lexAll s ⟨ts, .text []⟩ = some ⟨ts, .text s⟩ := by
  induction s using List.reverseRecOn with
  | nil => rfl
  | append_singleton s c ih =>
    obtain ⟨hc, hi⟩ := hs
    have hs' : TextSafe s := ⟨fun x hx => hc x (List.mem_append_left _ hx),
      fun h => hi (h.trans (List.prefix_append s [c]).isInfix)⟩
    obtain ⟨hx, hlt, hamp⟩ := hc c (List.mem_append_right _ (List.mem_singleton_self c))
    have hbr : ¬ (c = '>' ∧ s.drop (s.length - 2) = [']', ']']) := by
      rintro ⟨rfl, h⟩
      have hs := List.take_append_drop (s.length - 2) s
      rw [h] at hs
      refine hi ⟨s.take (s.length - 2), [], ?_⟩
      conv_rhs => rw [← hs]
      simp only [List.append_nil, List.append_assoc]
      rfl
    rw [lexAll_append, ih hs']
    simp only [Option.some_bind, lexAll, lexChar, hx, Bool.not_true, Bool.false_eq_true,
      ↓reduceIte, hlt, hamp, hbr, lexAll_nil]

/-! ## The pieces of an exported document -/

section Pieces

variable (ts : List XmlToken) (s u d : List Char)

theorem readXmlDecl_junit :
    readXmlDecl ("<?xml version=\"1.0\" encoding=\"UTF-8\"?>\n".toList ++ s) = some (['\n'] ++ s) :=
  rfl

theorem lex_suite_open :
    lexAll "<testsuite name=\"Sentra Lab Simulation\" tests=\"".toList ⟨ts, .text ['\n']⟩ =
      some ⟨ts ++ [.text ['\n']], .value "testsuite".toList
        [("name".toList, "Sentra Lab Simulation".toList)] "tests".toList '"' []⟩ :=
  rfl

theorem lex_failures_open :
    lexAll "\" failures=\"".toList ⟨ts, .value "testsuite".toList
        [("name".toList, "Sentra Lab Simulation".toList)] "tests".toList '"' u⟩ =
      some ⟨ts, .value "testsuite".toList
        [("name".toList, "Sentra Lab Simulation".toList), ("tests".toList, u)]
        "failures".toList '"' []⟩ :=
  rfl

theorem lex_suite_tag_end :
    lexAll "\" time=\"0\">\n".toList ⟨ts, .value "testsuite".toList
        [("name".toList, "Sentra Lab Simulation".toList), ("tests".toList, u)]
        "failures".toList '"' d⟩ =
      some ⟨ts ++ [.start "testsuite".toList [("name".toList, "Sentra Lab Simulation".toList),
        ("tests".toList, u), ("failures".toList, d), ("time".toList, ['0'])]], .text ['\n']⟩ :=
  rfl

theorem lex_suite_close : lexAll "</testsuite>".toList ⟨ts, .text d⟩ =
    some ⟨ts ++ textTokens d ++ [.stop "testsuite".toList], .text []⟩ :=
  rfl

theorem lex_newline : lexAll ['\n'] ⟨ts, .text []⟩ = some ⟨ts, .text ['\n']⟩ := rfl

theorem lex_testcase_open : lexAll "  <testcase name=\"".toList ⟨ts, .text ['\n']⟩ =
    some ⟨ts ++ [.text "\n  ".toList], .value "testcase".toList [] "name".toList '"' []⟩ :=
  rfl

theorem lex_time_open :
    lexAll "\" time=\"".toList ⟨ts, .value "testcase".toList [] "name".toList '"' u⟩ =
      some ⟨ts, .value "testcase".toList [("name".toList, u)] "time".toList '"' []⟩ :=
  rfl

theorem lex_testcase_tag_end :
    lexAll "\">\n".toList
        ⟨ts, .value "testcase".toList [("name".toList, u)] "time".toList '"' d⟩ =
      some ⟨ts ++ [.start "testcase".toList [("name".toList, u), ("time".toList, d)]],
        .text ['\n']⟩ :=
  rfl

theorem lex_failure_open :
    lexAll "    <failure message=\"Error encountered\">".toList ⟨ts, .text ['\n']⟩ =
      some ⟨ts ++ [.text "\n    ".toList] ++
        [.start "failure".toList [("message".toList, "Error encountered".toList)]], .text []⟩ :=
  rfl

theorem lex_failure_close : lexAll "</failure>\n".toList ⟨ts, .text d⟩ =
    some ⟨ts ++ textTokens d ++ [.stop "failure".toList], .text ['\n']⟩ :=
  rfl

theorem lex_testcase_close : lexAll "  </testcase>".toList ⟨ts, .text ['\n']⟩ =
    some ⟨ts ++ [.text "\n  ".toList] ++ [.stop "testcase".toList], .text []⟩ :=
  rfl

end Pieces

/-! ## Lexing and nesting an exported document -/

section Export

variable (render : Render V) (shown : Event V → String)

/-- An id written in a testcase's `name` attribute as `w` is read as `u`. -/
def ReadsAsName (w u : List Char) : Prop :=
  ∀ ts, lexAll w ⟨ts, .value "testcase".toList [] "name".toList '"' []⟩ =
    some ⟨ts, .value "testcase".toList [] "name".toList '"' u⟩

/-- A testcase's start tag, for an event shown with the id `shown e` that is read as its id. -/
theorem lexAll_testcase_start (e : Event V)
    (hw : ReadsAsName (shown e).toList e.id.toList)
    (rest : List Char) (ts : List XmlToken) :
    lexAll ("  <testcase name=\"".toList ++ ((shown e).toList ++ ("\" time=\"".toList ++
      (render.seconds (e.durationUs.getD 0) ++ ("\">\n".toList ++ rest))))) ⟨ts, .text ['\n']⟩ =
      lexAll rest ⟨ts ++ [.text "\n  ".toList] ++ [.start "testcase".toList
        [("name".toList, e.id.toList), ("time".toList, render.seconds (e.durationUs.getD 0))]],
        .text ['\n']⟩ := by
  have hsecs := lexAll_value_plain
    (fun c hc => isPlainValueChar_of_digit (render.seconds_digits (e.durationUs.getD 0) c hc))
  rw [lexAll_append, lex_testcase_open, Option.some_bind, lexAll_append, hw, Option.some_bind,
    lexAll_append, lex_time_open, Option.some_bind, lexAll_append, hsecs, Option.some_bind,
    List.nil_append, lexAll_append, lex_testcase_tag_end, Option.some_bind]

/-- The XML declaration's line end and the testsuite's start tag. -/
theorem lexAll_suite_start (n f : Nat) (rest : List Char) :
    lexAll (['\n'] ++ ("<testsuite name=\"Sentra Lab Simulation\" tests=\"".toList ++
      ((toString n).toList ++ ("\" failures=\"".toList ++ ((toString f).toList ++
      ("\" time=\"0\">\n".toList ++ rest)))))) ⟨[], .text []⟩ =
      lexAll rest ⟨[.text ['\n'], .start "testsuite".toList
        [("name".toList, "Sentra Lab Simulation".toList), ("tests".toList, (toString n).toList),
          ("failures".toList, (toString f).toList), ("time".toList, ['0'])]], .text ['\n']⟩ := by
  have hdigits : ∀ n : Nat, ∀ c ∈ (toString n).toList, isPlainValueChar '"' c :=
    fun _ _ hc => isPlainValueChar_of_digit (.inl (isDigit_of_mem_toString hc))
  rw [lexAll_append, lex_newline, Option.some_bind, lexAll_append, lex_suite_open,
    Option.some_bind, lexAll_append, lexAll_value_plain (hdigits n), Option.some_bind,
    lexAll_append, lex_failures_open, Option.some_bind, lexAll_append,
    lexAll_value_plain (hdigits f), Option.some_bind, lexAll_append, lex_suite_tag_end,
    Option.some_bind]
  rfl

/-- One exported testcase, for an event shown with the id `shown e` that is read as its id. -/
theorem lexAll_testcase (e : Event V)
    (hw : ReadsAsName (shown e).toList e.id.toList)
    (hj : e.eventType = .errorEncountered → TextSafe (render.json e.data))
    (rest : List Char) (ts : List XmlToken) :
    lexAll (testcase render { e with id := shown e } ++ rest) ⟨ts, .text ['\n']⟩ =
      lexAll rest ⟨ts ++ caseTokens render e, .text []⟩ := by
  simp only [testcase, List.append_assoc]
  rw [lexAll_testcase_start render shown e hw]
  by_cases he : e.eventType = .errorEncountered
  · simp only [he, ite_true, List.append_assoc]
    rw [lexAll_append, lex_failure_open, Option.some_bind, lexAll_append,
      lexAll_text_safe (hj he), Option.some_bind, lexAll_append, lex_failure_close,
      Option.some_bind, lexAll_append, lex_testcase_close, Option.some_bind]
    simp only [caseTokens, he, ite_true, List.append_assoc, List.singleton_append,
      List.cons_append, List.nil_append]
  · simp only [he, ite_false, List.nil_append]
    rw [lexAll_append, lex_testcase_close, Option.some_bind]
    simp only [caseTokens, he, ite_false, List.append_assoc, List.singleton_append,
      List.cons_append, List.nil_append]

theorem intercalate_map_cons_cons {α β : Type} (sep : List α) (f : β → List α) (x y : β)
    (xs : List β) :
    List.intercalate sep ((x :: y :: xs).map f) =
      f x ++ sep ++ List.intercalate sep ((y :: xs).map f) := by
  simp [List.intercalate, List.intersperse_cons_cons]

/-- The exported testcases, joined by newlines. -/
theorem lexAll_testcases (es : List (Event V)) (e : Event V)
    (hw : ∀ x ∈ e :: es, ReadsAsName (shown x).toList x.id.toList)
    (hj : ∀ x ∈ e :: es, x.eventType = .errorEncountered → TextSafe (render.json x.data))
    (rest : List Char) (ts : List XmlToken) :
    lexAll (List.intercalate ['\n']
        ((e :: es).map fun x => testcase render { x with id := shown x }) ++ rest)
        ⟨ts, .text ['\n']⟩ =
      lexAll rest ⟨ts ++ ((e :: es).map (caseTokens render)).flatten, .text []⟩ := by
  induction es generalizing e ts with
  | nil =>
    simpa [List.intercalate] using
      lexAll_testcase render shown e (hw e (by simp)) (hj e (by simp)) rest ts
  | cons e' es ih =>
    simp only [List.forall_mem_cons] at hw hj ih
    rw [intercalate_map_cons_cons, List.append_assoc, List.append_assoc,
      lexAll_testcase render shown e hw.1 hj.1, lexAll_append, lex_newline, Option.some_bind,
      ih e' hw.2 hj.2]
    simp

theorem nest_text_top (d : List Char) (ts : List XmlToken) (top : List XmlNode) :
    nest (.text d :: ts) [] top = nest ts [] (.text d :: top) := rfl

theorem nest_start (name : List Char) (attrs : List (List Char × List Char))
    (ts : List XmlToken) (st : List OpenElement) (top : List XmlNode) :
    nest (.start name attrs :: ts) st top = nest ts (⟨name, attrs, []⟩ :: st) top := rfl

theorem nest_stop_root (name : List Char) (attrs : List (List Char × List Char))
    (children top : List XmlNode) :
    nest [.stop name] [⟨name, attrs, children⟩] top =
      some (top.reverse ++ [.element name attrs children.reverse]) := by
  simp [nest]

/-- The tokens of one testcase close the testcase's element inside the element open around
them. -/
theorem nest_caseTokens (e : Event V) (rest : List XmlToken) (o : OpenElement)
    (st : List OpenElement) (top : List XmlNode) :
    nest (caseTokens render e ++ rest) (o :: st) top =
      nest rest ({ o with children := testcaseNode render e :: .text "\n  ".toList :: o.children }
        :: st) top := by
  unfold caseTokens testcaseNode
  by_cases he : e.eventType = .errorEncountered
  · unfold textTokens textNodes
    by_cases hd : render.json e.data = [] <;> simp [he, hd, nest]
  · simp [he, nest]

theorem nest_testcases (events : List (Event V)) (rest : List XmlToken) (o : OpenElement)
    (st : List OpenElement) (top : List XmlNode) :
    nest ((events.map (caseTokens render)).flatten ++ rest) (o :: st) top =
      nest rest ({ o with children :=
        ((events.map fun e => [.text "\n  ".toList, testcaseNode render e]).flatten).reverse ++
          o.children } :: st) top := by
  induction events generalizing o with
  | nil => simp
  | cons e es ih => simp [List.append_assoc, nest_caseTokens, ih]

/-- An export in which each event is shown with an id that is read as the event's id, and
each failure's data is safe character data, reads as the intended document. -/
theorem readDocument_exportJunit (events : List (Event V))
    (hw : ∀ e ∈ events, ReadsAsName (shown e).toList e.id.toList)
    (hj : ∀ e ∈ events, e.eventType = .errorEncountered → TextSafe (render.json e.data)) :
    readDocument (exportJunit render (events.map fun e => { e with id := shown e })).toList =
      some (junitDocument render events) := by
  have hfail : ((events.map fun e => { e with id := shown e }).filter
      fun e => e.eventType = .errorEncountered).length =
        (events.filter fun e => e.eventType = .errorEncountered).length := by
    simp [List.filter_map, Function.comp_def]
  have hs : (exportJunit render (events.map fun e => { e with id := shown e })).toList =
      "<?xml version=\"1.0\" encoding=\"UTF-8\"?>\n".toList ++
        ("<testsuite name=\"Sentra Lab Simulation\" tests=\"".toList ++
        ((toString events.length).toList ++ ("\" failures=\"".toList ++
        ((toString (events.filter fun e => e.eventType = .errorEncountered).length).toList ++
        ("\" time=\"0\">\n".toList ++ (List.intercalate ['\n']
          ((events.map fun e => { e with id := shown e }).map (testcase render)) ++
        "</testsuite>".toList)))))) := by
    rw [← hfail, ← List.length_map events fun e => { e with id := shown e }]
    simp only [exportJunit, List.append_assoc]
    rfl
  rw [hs]
  rcases events with _ | ⟨e, es⟩
  · apply readDocument_of_nest (readXmlDecl_junit _)
    · rw [lexAll_suite_start]
      rfl
    · rfl
    · rfl
  · apply readDocument_of_nest (readXmlDecl_junit _)
    · simp only [lexAll_suite_start, List.map_map, Function.comp_def]
      rw [lexAll_testcases render shown es e hw hj, lex_suite_close]
    · rw [show textTokens [] = [] from rfl, List.append_nil, List.append_assoc, List.cons_append,
        nest_text_top, List.singleton_append, nest_start, nest_testcases, nest_stop_root]
      simp [junitDocument]
    · rfl

end Export

/-! ## What a reader reads back -/

/-- For every list of events whose ids are XML escapes of strings of XML characters without
tabs or newlines, and whose failures' data serializes to safe character data, the export is
a well-formed document that reads as the document described for the strings that were
escaped: a testcase's `name` is read back unescaped, so it differs from the event's id
whenever that id holds a reference such as `&amp;`. -/
theorem exportJunit_reads_unescaped_ids (render : Render V) (events : List (Event V))
    (hid : ∀ e ∈ events, ∀ c ∈ e.id.toList, isXmlChar c ∧ c ≠ '\t' ∧ c ≠ '\n')
    (hj : ∀ e ∈ events, e.eventType = .errorEncountered → TextSafe (render.json e.data)) :
    readDocument (exportJunit render
        (events.map fun e => { e with id := String.mk (escape e.id.toList) })).toList =
      some (junitDocument render events) :=
  readDocument_exportJunit render _ events
    (fun e he ts => by simpa using lexAll_escape_value (hid e he) ts _ _ _ []) hj

/-- An error event with the id `&amp;`: its testcase is named `&`. -/
theorem exportJunit_reads_unescaped_ids_ampersand :
    let render : Render Unit :=
      ⟨fun _ => "null".toList, fun _ => ['0'],
        fun _ => (by decide : ∀ c ∈ ['0'], c.isDigit ∨ c = '.')⟩
    readDocument (exportJunit render [⟨"&amp;", .errorEncountered, (), none⟩]).toList =
      some (junitDocument render [⟨"&", .errorEncountered, (), none⟩]) := by
  intro render
  exact exportJunit_reads_unescaped_ids render [⟨"&", .errorEncountered, (), none⟩] (by decide)
    (by decide)

/-- For every list of events whose ids hold only XML characters that stand for themselves in
a double-quoted attribute value (no C0 control other than tab and newline, no carriage
return, no `U+FFFE`, `U+FFFF` or surrogate, and no `<`, `&`, `"`, tab or newline), and whose
failures' data serializes to safe character data, the export is a well-formed document with
one testsuite, counting the events and the `ErrorEncountered` ones, and one testcase per
event in order, named by its id, with a failure holding its data exactly when it is an
`ErrorEncountered`. -/
theorem exportJunit_reads_plain_ids (render : Render V) (events : List (Event V))
    (hid : ∀ e ∈ events, ∀ c ∈ e.id.toList, isPlainValueChar '"' c)
    (hj : ∀ e ∈ events, e.eventType = .errorEncountered → TextSafe (render.json e.data)) :
    readDocument (exportJunit render events).toList = some (junitDocument render events) := by
  simpa using readDocument_exportJunit render (fun e => e.id) events
    (fun e he ts => by simpa using lexAll_value_plain (hid e he) ts _ _ _ []) hj

/-- The test's event, and an error event after it. -/
theorem exportJunit_reads_plain_ids_two_events :
    let render : Render Unit :=
      ⟨fun _ => "\x7b\"test\":\"data\"\x7d".toList, fun _ => "0.001".toList,
        fun _ => (by decide : ∀ c ∈ "0.001".toList, c.isDigit ∨ c = '.')⟩
    let events : List (Event Unit) :=
      [⟨"evt_123", .agentStarted, (), some 1000⟩, ⟨"evt_124", .errorEncountered, (), none⟩]
    readDocument (exportJunit render events).toList = some (junitDocument render events) := by
  intro render events
  exact exportJunit_reads_plain_ids render events (by decide) (by decide)

end SentraLab.Recording
