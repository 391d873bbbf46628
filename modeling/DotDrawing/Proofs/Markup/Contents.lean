import DotDrawing.Proofs.Markup.Reader

/-!
What a document holds.

The contents of its labels, the values of its attributes and its tags are listed in the order of the
document. Each list of an element is put together from the lists of its children.
-/

namespace DotDrawing.Markup

mutual

/-- The element and all elements inside it, in the order of the document. -/
def Element.all : Element → List Element
  | .node name attributes children => .node name attributes children :: allOf children
  | .label name attributes content => [.label name attributes content]

def allOf : List Element → List Element
  | [] => []
  | c :: cs => c.all ++ allOf cs

end

namespace Element

def content? : Element → Option String
  | node .. => none
  | label _ _ content => some content

def value? (key : String) : Element → Option String
  | node _ attributes _ | label _ attributes _ => attributes.lookup key

/-- The contents of all labels. -/
def contents (e : Element) : List String := e.all.filterMap content?

/-- All values of the attribute. -/
def values (key : String) (e : Element) : List String := e.all.filterMap (value? key)

/-- The tags that the element is printed with. -/
def tags (e : Element) : List (Tag (List String)) := e.items.filterMap Item.tag?

variable {name key content : String} {attributes : List (String × String)}
  {children : List Element}

lemma allOf_eq (es : List Element) : allOf es = es.flatMap all := by
  induction es with
  | nil => rfl
  | cons e es ih => rw [allOf, ih, List.flatMap_cons]

@[simp] lemma contents_node :
    (node name attributes children).contents = children.flatMap contents := by
  simp only [contents, all, allOf_eq, List.filterMap_cons, content?, List.filterMap_flatMap]
  rfl

@[simp] lemma contents_label : (label name attributes content).contents = [content] := rfl

@[simp] lemma values_node : (node name attributes children).values key =
    (attributes.lookup key).toList ++ children.flatMap (values key) := by
  simp only [values, all, allOf_eq, List.filterMap_cons, value?, List.filterMap_flatMap]
  cases attributes.lookup key <;> rfl

@[simp] lemma values_label :
    (label name attributes content).values key = (attributes.lookup key).toList := by
  simp only [values, all, List.filterMap_cons, value?]
  cases attributes.lookup key <;> rfl

lemma tags_itemsOf (es : List Element) :
    (itemsOf es).filterMap Item.tag? = (es.map tags).flatten := by
  induction es with
  | nil => rfl
  | cons e es ih =>
    simp only [itemsOf, List.cons_append, List.filterMap_cons, Item.tag?, List.filterMap_append, ih,
      List.map_cons, List.flatten_cons]
    rfl

lemma tags_node_congr {as bs : List (String × String)} {cs ds : List Element}
    (ha : as.map Prod.fst = bs.map Prod.fst) (hc : cs.map tags = ds.map tags) :
    (node name as cs).tags = (node name bs ds).tags := by
  have hopen : ∀ (as : List (String × String)) (c : Element) (cs : List Element),
      (node name as (c :: cs)).tags = .start name (as.map Prod.fst) ::
        ((c :: cs).map tags).flatten ++ [.stop name] := by
    intro as c cs
    rw [← tags_itemsOf]
    simp [tags, items, Item.tag?, Tag.map, List.filterMap_cons]
  cases cs with
  | nil =>
    obtain rfl : ds = [] := by simpa using hc.symm
    simp [tags, items, Item.tag?, Tag.map, ha]
  | cons c cs =>
    cases ds with
    | nil => simp at hc
    | cons d ds => rw [hopen, hopen, ha, hc]

lemma tags_label_congr {as bs : List (String × String)} {content content' : String}
    (ha : as.map Prod.fst = bs.map Prod.fst) :
    (label name as content).tags = (label name bs content').tags := by
  simp [tags, items, Item.tag?, Tag.map, List.filterMap_cons, ha]

end Element

lemma tags?_text {e : Element} (h : e.Proper) : tags? e.text = some e.tags := by
  rw [tags?, items?_text h]
  rfl

end DotDrawing.Markup
