import ReleaseImpact.Xml.Markup

/-!
How many bytes the references of a document bring in. A document may not grow to more than a hundred
times what is written, once it is large. Main statements:

- `isTolerated_of_small`: documents that stay small may repeat themselves at will.
- `isTolerated_of_no_insertion`: a document without references is never refused.
-/

namespace ReleaseImpact.Xml

/-- The bytes read so far, and those brought in for references. -/
structure Toll where
  read : Nat
  inserted : Nat

namespace Toll

/-- Below this number of bytes any growth is tolerated. -/
def free : Nat := 8388608

def maxFactor : Nat := 100

def isTolerated (t : Toll) : Bool :=
  t.read + t.inserted < free || t.read + t.inserted ≤ maxFactor * t.read

theorem isTolerated_of_small {t : Toll} (h : t.read + t.inserted < free) : t.isTolerated = true := by
  simp [isTolerated, h]

theorem isTolerated_of_no_insertion (n : Nat) : (Toll.mk n 0).isTolerated = true := by
  have h : n ≤ maxFactor * n := by simp only [maxFactor]; omega
  simp [isTolerated, h]

end Toll

/-- Names of entities, with the texts of those that stand in the document. -/
abbrev Entities := List (String × Option (List Char))

def bytesOf (width : Char → Nat) (text : List Char) : Nat := text.foldl (fun n c => n + width c) 0

/-! ## What a piece counts for -/

/-- What a piece of a document counts for: bytes that are read, a second time where a value is read on
its own; characters that stand in place of fixed names; and the entities that are put in. -/
structure Weight where
  read : Nat
  fixed : Nat
  names : List String

namespace Weight

def none : Weight := ⟨0, 0, []⟩

def add (a b : Weight) : Weight := ⟨a.read + b.read, a.fixed + b.fixed, a.names ++ b.names⟩

def ofParts (parts : List ValuePart) : Weight :=
  parts.foldr (fun part w => match part with
    | .named _ => { w with fixed := w.fixed + 1 }
    | .entity name => { w with names := name :: w.names }
    | _ => w) none

/-- Whether a value has to be looked into: for references, and for white space other than single spaces
between words. -/
def isIntricate (value : List Char) : Bool :=
  value.any (fun c => c = '&' || (isSpace c && c ≠ ' ')) || value.head? = some ' ' ||
    value.getLast? = some ' ' || Text.occursIn [' ', ' '] value

/-- The bytes of the intricate values in a tag. -/
def intricate (width : Char → Nat) : Nat → List Char → Nat
  | 0, _ => 0
  | budget + 1, tag =>
    match tag.dropWhile fun c => c ≠ '"' && c ≠ '\'' with
    | quote :: rest =>
      let value := rest.takeWhile (· ≠ quote)
      (if isIntricate value then bytesOf width value else 0) +
        intricate width budget (rest.drop (value.length + 1))
    | [] => 0

/-- The weight of an item that is written as `raw`. -/
def ofItem (width : Char → Nat) (raw : List Char) (item : Option Markup) : Weight :=
  let own : Weight := ⟨bytesOf width raw, 0, []⟩
  match item with
  | some (.startTag _ attributes empty) =>
    let values := attributes.foldr (fun a w => (ofParts a.2).add w) own
    if empty then values else { values with read := values.read + intricate width raw.length raw }
  | some (.entity name) => { own with names := [name] }
  | some (.data _) =>
    match raw with
    | '&' :: '#' :: _ => own
    | '&' :: _ => { own with fixed := 1 }
    | _ => own
  | _ => own

end Weight

/-- The weights of the items of a text, as far as it can be read. -/
def weights (width : Char → Nat) : Nat → List Char → List Weight
  | _, [] => []
  | 0, _ => []
  | budget + 1, text =>
    match Markup.cut? text with
    | none => []
    | some (item, rest) =>
      .ofItem width (text.take (text.length - rest.length)) item :: weights width budget rest

/-- The weight of an entity's text, which is read as content if it can be, and else as a value. -/
def entityWeight (text : List Char) : Weight :=
  if (Markup.ofText? text).isSome then
    (weights Char.utf8Size text.length text).foldr Weight.add .none
  else { Weight.ofParts ((ValuePart.ofText? text).getD []) with read := bytesOf Char.utf8Size text }

/-! ## What an entity costs -/

/-- The bytes that each entity brings in. -/
abbrev Costs := List (String × Nat)

def Costs.of (costs : Costs) (name : String) : Nat :=
  ((List.find? (fun c => c.1 = name) costs).map Prod.snd).getD 0

def Costs.ofNames (costs : Costs) (names : List String) : Nat :=
  names.foldl (fun n name => n + costs.of name) 0

/-- Goes one reference deeper until nothing changes. -/
def Costs.settle (known : List (String × Weight)) : Nat → Costs → Costs
  | 0, costs => costs
  | budget + 1, costs =>
    let deeper : Costs := known.map fun k => (k.1, k.2.read + k.2.fixed + costs.ofNames k.2.names)
    if deeper = costs then costs else settle known budget deeper

/-- References go at most as deep as there are entities. -/
def Entities.costs (entities : Entities) : Costs :=
  let known := entities.filterMap fun e => e.2.map fun text => (e.1, entityWeight text)
  Costs.settle known (known.length + 1) []

/-! ## Documents -/

/-- Whether the bytes are tolerated after each of some pieces. -/
def isToleratedThrough (costs : Costs) : Toll → List Weight → Bool
  | t, [] => t.isTolerated
  | t, w :: rest =>
    let after : Toll := ⟨t.read + w.read, t.inserted + w.fixed + costs.ofNames w.names⟩
    t.isTolerated && isToleratedThrough costs after rest

/-- Whether the content of a document does not grow too much, after what came before it. Only documents
that may grow large are looked at piece by piece. -/
def contentIsTolerated (entities : Entities) (width : Char → Nat) (before : Toll) (items : List Markup)
    (content : List Char) : Bool :=
  if entities.isEmpty then true
  else
    let costs := entities.costs
    let total := items.foldl (fun n item => match item with
      | .startTag _ attributes _ =>
        attributes.foldl (fun n a => n + costs.ofNames (Weight.ofParts a.2).names) n
      | .entity name => n + costs.of name
      | _ => n) 0
    let most := before.read + before.inserted + 2 * bytesOf width content + content.length + total
    most < Toll.free || isToleratedThrough costs before (weights width content.length content)

end ReleaseImpact.Xml
