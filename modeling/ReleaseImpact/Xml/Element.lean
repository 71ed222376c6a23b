/-!
Elements of a document: a name, attributes, text, and children. Main statements:

- `mem_preorder_self`: an element is among those below it and itself.
- `mem_preorder_of_child`: what is below a child is below its parent.
- `sizeOf_children_lt`: what follows the children of an element comes to an end.
- `mem_childrenNamed_iff`: the children of a name.
-/

namespace ReleaseImpact.Xml

/-- A name in a namespace is written with the namespace in braces in front. Of the text, what stands
before the first child is kept, and all that stands inside, also in descendants. -/
inductive Element
  | mk (tag : String) (attributes : List (String × String)) (text inner : String)
      (children : List Element)
  deriving Repr

instance : Inhabited Element := ⟨.mk "" [] "" "" []⟩

namespace Element

def tag : Element → String
  | mk tag _ _ _ _ => tag

def attributes : Element → List (String × String)
  | mk _ attributes _ _ _ => attributes

/-- The text before the first child. -/
def text : Element → String
  | mk _ _ text _ _ => text

/-- All text in the element, in document order. -/
def inner : Element → String
  | mk _ _ _ inner _ => inner

def children : Element → List Element
  | mk _ _ _ _ children => children

def attribute? (name : String) (e : Element) : Option String :=
  (e.attributes.find? (·.1 = name)).map Prod.snd

def childrenNamed (tag : String) (e : Element) : List Element := e.children.filter (·.tag = tag)

mutual

/-- An element and all elements below it, in document order. -/
def preorder : Element → List Element
  | mk tag attributes text inner children => mk tag attributes text inner children :: preorderAll children

def preorderAll : List Element → List Element
  | [] => []
  | e :: rest => e.preorder ++ preorderAll rest

end

/-- The elements of a name in document order, the element itself among them. -/
def named (tag : String) (e : Element) : List Element := e.preorder.filter (·.tag = tag)

theorem preorderAll_eq (es : List Element) : preorderAll es = es.flatMap preorder := by
  induction es with
  | nil => simp [preorderAll]
  | cons e rest ih => simp [preorderAll, ih]

theorem preorder_eq (e : Element) : e.preorder = e :: e.children.flatMap preorder := by
  cases e
  simp [preorder, preorderAll_eq, children]

theorem mem_preorder_self (e : Element) : e ∈ e.preorder := by simp [preorder_eq e]

theorem mem_preorder_of_child {parent child e : Element} (h : child ∈ parent.children)
    (he : e ∈ child.preorder) : e ∈ parent.preorder := by
  rw [preorder_eq parent]
  exact List.mem_cons_of_mem _ (List.mem_flatMap.2 ⟨child, h, he⟩)

theorem sizeOf_children_lt (e : Element) : sizeOf e.children < sizeOf e := by
  cases e
  simp only [children, mk.sizeOf_spec]
  omega

theorem mem_childrenNamed_iff {tag : String} {parent e : Element} :
    e ∈ parent.childrenNamed tag ↔ e ∈ parent.children ∧ e.tag = tag := by
  simp [childrenNamed]

end Element

end ReleaseImpact.Xml
