import ReleaseImpact.Xml.Doctype
import ReleaseImpact.Xml.Element

/-!
From the characters of a document to its root element. Main statements:

- `build_text`: text in front of the first child is kept.
- `expandName?_plain`: an attribute without a prefix keeps its name.
- `collapse_of_no_space`: a value without spaces is not changed by collapsing.
-/

namespace ReleaseImpact.Xml

/-! ## Namespaces -/

def xmlNamespace : String := "http://www.w3.org/XML/1998/namespace"

def xmlnsNamespace : String := "http://www.w3.org/2000/xmlns/"

/-- The namespaces of the prefixes in scope; the empty prefix has the default namespace. -/
abbrev Scope := List (String × String)

def Scope.outermost : Scope := [("xml", xmlNamespace)]

def Scope.find? (scope : Scope) (front : String) : Option String :=
  (List.find? (fun b => b.1 = front) scope).map Prod.snd

/-- The prefix and the rest of a name. -/
def splitName (name : String) : String × String :=
  match Text.split ':' name with
  | [front, back] => (front, back)
  | _ => ("", name)

/-- The prefix that an attribute binds. -/
def boundPrefix? (name : String) : Option String :=
  if name = "xmlns" then some ""
  else
    let (front, back) := splitName name
    if front = "xmlns" then some back else none

/-- Whether a prefix may be bound to a namespace. -/
def mayBind (front space : String) : Bool :=
  !(space.isEmpty && !front.isEmpty) && front ≠ "xmlns" && !Text.contains space "\x7d" &&
    (front = "xml") == (space = xmlNamespace) && space ≠ xmlnsNamespace

/-- A name with its namespace in braces in front. -/
def inSpace (space name : String) : String :=
  if space.isEmpty then name else "\x7b" ++ space ++ "\x7d" ++ name

/-- The name that an attribute, or with the default namespace an element, is known by. -/
def expandName? (scope : Scope) (useDefault : Bool) (name : String) : Option String :=
  let (front, back) := splitName name
  if front.isEmpty then some (if useDefault then inSpace ((scope.find? "").getD "") back else back)
  else (scope.find? front).map (inSpace · back)

theorem expandName?_plain {scope : Scope} {name : String} (h : splitName name = ("", name)) :
    expandName? scope false name = some name := by
  simp [expandName?, h]

/-! ## Elements -/

/-- Leaves single spaces between the words of a value. -/
def collapse : List Char → List Char
  | [] => []
  | ' ' :: rest =>
    match collapse rest with
    | [] => []
    | ' ' :: more => ' ' :: more
    | more => ' ' :: more
  | c :: rest => c :: collapse rest

theorem collapse_of_no_space {value : List Char} (h : ' ' ∉ value) : collapse value = value := by
  induction value with
  | nil => rfl
  | cons c rest ih =>
    simp only [List.mem_cons, not_or] at h
    rw [collapse, ih h.2]
    rintro rfl
    exact absurd rfl h.1

/-- An element whose end has not come yet. -/
structure Frame where
  /-- The name as it is written. -/
  name : String
  tag : String
  attributes : List (String × String)
  scope : Scope
  /-- The text so far, the last character first. -/
  inner : List Char
  /-- The text in front of the first child once there is one, the last character first. -/
  lead : List Char
  /-- The children, the last one first. -/
  children : List Element

namespace Frame

def outermost : Frame := ⟨"", "", [], Scope.outermost, [], [], []⟩

def addText (f : Frame) (chars : List Char) : Frame := { f with inner := chars.reverseAux f.inner }

/-- The text in front of the first child, the last character first. -/
def front (f : Frame) : List Char := if f.children.isEmpty then f.inner else f.lead

def addChild (f : Frame) (e : Element) : Frame :=
  { f with inner := e.inner.toList.reverseAux f.inner, lead := f.front, children := e :: f.children }

def close (f : Frame) : Element :=
  .mk f.tag f.attributes (String.ofList f.front.reverse) (String.ofList f.inner.reverse)
    f.children.reverse

/-- The value of an attribute under the rule for it. -/
def ruledValue (rules : List AttributeRule) (name : String) (value : List Char) : String :=
  let isText := ((rules.find? (·.name = name)).map AttributeRule.isText).getD true
  String.ofList (if isText then value else (collapse value).dropWhile (· = ' '))

/-- The values of the attributes as they are written, and of those that are left out. -/
def values? (d : Doctype) (standalone : Bool) (element : String)
    (attributes : List (String × List ValuePart)) : Option (List (String × String)) := do
  let rules := d.rules.filter (·.element = element)
  let given ← attributes.mapM fun a => do
    return (a.1, ruledValue rules a.1 (← d.attributeValue? standalone a.2))
  let names := given.map Prod.fst
  let initial := rules.filterMap fun r => r.initial.map fun v => (r.name, ruledValue rules r.name v)
  if names.Nodup then some (given ++ initial.filter (·.1 ∉ names)) else none

/-- Opens an element in a scope. -/
def start? (d : Doctype) (standalone : Bool) (outer : Scope) (name : String)
    (attributes : List (String × List ValuePart)) : Option Frame := do
  let values ← values? d standalone name attributes
  let bindings := values.filterMap fun a => (boundPrefix? a.1).map (·, a.2)
  if bindings.all fun b => mayBind b.1 b.2 then
    let scope : Scope := bindings ++ outer
    let tag ← expandName? scope true name
    let named ← (values.filter fun a => (boundPrefix? a.1).isNone).mapM fun a => do
      return (← expandName? scope false a.1, a.2)
    if (named.map Prod.fst).Nodup then some ⟨name, tag, named, scope, [], [], []⟩ else none
  else none

end Frame

/-! ## Content -/

/-- Adds the content that items stand for to the open element. Entities may open no element that they
do not close, and no entity may stand in itself. -/
def build? (d : Doctype) (standalone : Bool) (depth : Nat) (opened : List String) (frame : Frame)
    (outer : List Frame) : List Markup → Option Frame
  | [] => if outer.isEmpty then some frame else none
  | .text chars :: rest => build? d standalone depth opened (frame.addText chars) outer rest
  | .data chars :: rest => build? d standalone depth opened (frame.addText chars) outer rest
  | .startTag name attributes empty :: rest => do
    let inner ← Frame.start? d standalone frame.scope name attributes
    if empty then build? d standalone depth opened (frame.addChild inner.close) outer rest
    else build? d standalone depth opened inner (frame :: outer) rest
  | .endTag name :: rest =>
    match outer with
    | [] => none
    | parent :: outer =>
      if frame.name = name then
        build? d standalone depth opened (parent.addChild frame.close) outer rest
      else none
  | .entity name :: rest =>
    match d.entity? name, depth with
    | some (some text), depth + 1 =>
      if name ∈ opened then none
      else do
        let items ← Markup.ofText? text
        let frame ← build? d standalone depth (name :: opened) frame [] items
        build? d standalone (depth + 1) opened frame outer rest
    | _, _ => none
termination_by items => (depth, items.length)

theorem build_text (d : Doctype) (standalone : Bool) (depth : Nat) (opened : List String)
    (frame : Frame) (chars : List Char) (h : frame.children = []) :
    (build? d standalone depth opened frame [] [.text chars]).map Frame.front =
      some (chars.reverse ++ frame.front) := by
  simp [build?, Frame.addText, Frame.front, h, List.reverseAux_eq]

/-! ## Documents -/

/-- Whether items end one element and bring nothing but white space after it. -/
def endsWithRoot : (depth : Nat) → List Markup → Bool
  | depth, [] => depth = 0
  | 0, .text chars :: rest => chars.all isSpace && endsWithRoot 0 rest
  | 0, _ :: _ => false
  | depth + 1, .startTag _ _ empty :: rest => endsWithRoot (if empty then depth + 1 else depth + 2) rest
  | depth + 1, .endTag _ :: rest => endsWithRoot depth rest
  | depth + 1, _ :: rest => endsWithRoot (depth + 1) rest

/-- Drops white space, comments and instructions. -/
def dropMisc? : Nat → List Char → Option (List Char)
  | 0, text => some text
  | budget + 1, text =>
    match dropSpaces text with
    | '<' :: '!' :: '-' :: '-' :: rest => do dropMisc? budget (← afterComment? rest)
    | '<' :: '?' :: rest => do dropMisc? budget (← afterInstruction? rest)
    | rest => some rest

def rootOf? (d : Doctype) (standalone : Bool) (items : List Markup) : Option Element :=
  match items with
  | .startTag _ _ empty :: rest =>
    if endsWithRoot (if empty then 0 else 1) rest then do
      let frame ← build? d standalone d.entities.length [] Frame.outermost [] items
      frame.children.head?
    else none
  | _ => none

/-- The number of bytes read when a text is left. -/
def Source.bytesBefore (s : Source) (left : List Char) : Nat :=
  s.before + bytesOf s.width (s.body.take (s.body.length - left.length))

def Source.root? (s : Source) : Option Element := do
  let text ← dropMisc? s.body.length s.body
  let (d, rest) ← match cutAt "<!DOCTYPE".toList (text.take 9) with
    | some ([], _) => Doctype.cut? s.standalone s.bytesBefore (text.drop 9)
    | _ => some (Doctype.none, text)
  let rest ← dropMisc? rest.length rest
  let items ← Markup.ofText? rest
  if contentIsTolerated d.entities s.width ⟨s.bytesBefore rest, d.inserted⟩ items rest then
    rootOf? d s.standalone items
  else none

def ofSource (source : Except Fault Source) : Except Fault Element :=
  match source with
  | .error f => .error f
  | .ok s =>
    match s.root? with
    | some root => .ok root
    | none => .error .malformed

def ofBytes (bytes : List UInt8) : Except Fault Element := ofSource (Source.ofBytes bytes)

def ofText (text : String) : Except Fault Element := ofSource (Source.ofText text)

end ReleaseImpact.Xml
