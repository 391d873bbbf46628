import DotDrawing.Proofs.Markup.Items

/-!
Reading elements back.

Tags and texts are put together to the element that they stand for. Main statement: an element with
proper names is read back from its own text, whatever its values and contents are (`read?_text`).
-/

namespace DotDrawing.Markup

variable {name : String} {attributes : List (String × String)}

/-! ### The reader of elements -/

/-- An element whose end has not been read. -/
structure Frame where
  name : String
  attributes : List (String × String)
  content? : Option String
  children : List Element

namespace Frame

/-- The document around the outermost element. -/
def root : Frame := ⟨"", [], none, []⟩

def opened (name : String) (attributes : List (String × String)) : Frame :=
  ⟨name, attributes, none, []⟩

def add (f : Frame) (e : Element) : Frame := { f with children := f.children ++ [e] }

/-- The element when its end is read. It holds a text or other elements. -/
def close? (f : Frame) : Option Element :=
  match f.content?, f.children with
  | none, [] => none
  | none, children => some (.node f.name f.attributes children)
  | some content, [] => some (.label f.name f.attributes content)
  | some _, _ => none

end Frame

/-- The content of a label: the text without the empty line in front and the line break behind. -/
def content? (text : String) : Option String :=
  match text.toList with
  | '\n' :: '\n' :: cs =>
    if cs.getLast? = some '\n' then some (String.ofList cs.dropLast) else none
  | _ => none

/-- Reads one item inside the elements that are open, the innermost first. -/
def step : List Frame → Item → Option (List Frame)
  | fs, .tag (.start name attributes) => some (.opened name attributes :: fs)
  | f :: fs, .tag (.alone name attributes) => some (f.add (.node name attributes []) :: fs)
  | f :: g :: fs, .tag (.stop name) =>
    if f.name = name then f.close?.map fun e => g.add e :: fs else none
  | f :: fs, .text text =>
    if text = "\n" then some (f :: fs)
    else (content? text).map fun content => { f with content? := some content } :: fs
  | _, _ => none

def run (fs : List Frame) (items : List Item) : Option (List Frame) := items.foldlM step fs

/-- The element that the text of a document shows. -/
def read? (text : String) : Option Element := do
  match ← run [.root] (← items? text.toList) with
  | [⟨_, _, none, [e]⟩] => return e
  | _ => none

/-- The tag with the names of its attributes. -/
def Item.tag? : Item → Option (Tag (List String))
  | tag t => some (t.map fun attributes => attributes.map Prod.fst)
  | text _ => none

/-- The tags of a document, in the order of the text. -/
def tags? (text : String) : Option (List (Tag (List String))) :=
  (items? text.toList).map fun items => items.filterMap Item.tag?

/-! ### Elements -/

mutual

/-- The tags and texts that the element is printed as. -/
def Element.items : Element → List Item
  | .node name attributes [] => [.tag (.alone name attributes)]
  | .node name attributes (c :: cs) =>
    .tag (.start name attributes) :: itemsOf (c :: cs) ++ [.text "\n", .tag (.stop name)]
  | .label name attributes content =>
    [.tag (.start name attributes), .text ("\n\n" ++ content ++ "\n"), .tag (.stop name)]

def itemsOf : List Element → List Item
  | [] => []
  | c :: cs => .text "\n" :: c.items ++ itemsOf cs

end

/-- All names in the element are proper. -/
inductive Element.Proper : Element → Prop
  | node {name : String} {attributes : List (String × String)} {children : List Element}
      (hn : IsName name) (ha : AreNames attributes) (hc : ∀ c ∈ children, c.Proper) :
      Proper (.node name attributes children)
  | label {name : String} {attributes : List (String × String)} {content : String}
      (hn : IsName name) (ha : AreNames attributes) : Proper (.label name attributes content)

lemma Element.Proper.ofKeys {children : List Element} (keys : List String)
    (hm : attributes.map Prod.fst = keys) (hk : ∀ key ∈ name :: keys, IsName key)
    (hc : ∀ c ∈ children, c.Proper) : (Element.node name attributes children).Proper := by
  subst hm
  obtain ⟨hname, hkeys⟩ := List.forall_mem_cons.1 hk
  exact .node hname hkeys hc

/-- The characters begin with a tag and are read as the items, whatever text is behind them. -/
structure Shows (cs : List Char) (items : List Item) : Prop where
  head : cs.head? = some '<'
  read : ∀ behind text rest, '<' ∉ behind ∧ '>' ∉ behind → unescape? behind = some text →
    AtTag rest → items? (cs ++ behind ++ rest) =
      (items? rest).map fun more => items ++ textItems text ++ more

namespace Shows

variable {a b behind text : List Char} {xs ys : List Item}

lemma tag {inside : List Char} {t : Tag (List (String × String))}
    (hi : '<' ∉ inside ∧ '>' ∉ inside) (ht : tag? inside = some t) :
    Shows ('<' :: inside ++ ['>']) [.tag t] where
  head := rfl
  read behind text rest hb hu hr := by simpa using items?_cons hi hb hr ht hu

lemma append (ha : Shows a xs) (hb : Shows b ys) (hm : '<' ∉ behind ∧ '>' ∉ behind)
    (hu : unescape? behind = some text) :
    Shows (a ++ behind ++ b) (xs ++ textItems text ++ ys) where
  head := by
    rw [List.append_assoc, List.head?_append, ha.head]
    rfl
  read behind' text' rest hm' hu' hr := by
    have hrest : AtTag (b ++ behind' ++ rest) := by
      rw [AtTag, List.append_assoc, List.head?_append, hb.head]
      simp
    have h := ha.read behind text _ hm hu hrest
    rw [hb.read behind' text' rest hm' hu' hr] at h
    simpa [Function.comp_def] using h

lemma line (ha : Shows a xs) (hb : Shows b ys) :
    Shows (a ++ '\n' :: b) (xs ++ .text "\n" :: ys) := by
  have hbreak : textItems ['\n'] = [.text "\n"] := rfl
  have hm : '<' ∉ ['\n'] ∧ '>' ∉ ['\n'] := by decide
  simpa [hbreak] using ha.append hb hm rfl

lemma children {cs : List Element} (ha : Shows a xs) (hc : ∀ c ∈ cs, Shows c.print c.items) :
    Shows (a ++ printChildren cs) (xs ++ itemsOf cs) := by
  induction cs generalizing a xs with
  | nil => simpa [printChildren, itemsOf] using ha
  | cons c cs ih =>
    obtain ⟨h, hcs⟩ := List.forall_mem_cons.1 hc
    simpa [printChildren, itemsOf] using ih (ha.line h) hcs

end Shows

lemma notMem_inside (hn : IsName name) (ha : AreNames attributes) :
    '<' ∉ name.toList ++ attributes.flatMap printAttribute ∧
      '>' ∉ name.toList ++ attributes.flatMap printAttribute := by
  obtain ⟨hl, hr⟩ := notMem_attributes ha
  simp [hn.notMem (show isNameChar '<' = false from rfl),
    hn.notMem (show isNameChar '>' = false from rfl), hl, hr]

lemma shows_start (hn : IsName name) (ha : AreNames attributes) :
    Shows (printTag name attributes ++ ['>']) [.tag (.start name attributes)] := by
  simpa [printTag] using Shows.tag (notMem_inside hn ha) (tag?_start hn ha)

lemma shows_alone (hn : IsName name) (ha : AreNames attributes) :
    Shows (printTag name attributes ++ "/>".toList) [.tag (.alone name attributes)] := by
  have hi := notMem_inside hn ha
  simpa [printTag] using Shows.tag (by simpa using hi) (tag?_alone hn ha)

lemma shows_stop (hn : IsName name) :
    Shows ("</".toList ++ name.toList ++ ['>']) [.tag (.stop name)] := by
  have hi : '<' ∉ '/' :: name.toList ∧ '>' ∉ '/' :: name.toList := by
    simp [hn.notMem (show isNameChar '<' = false from rfl),
      hn.notMem (show isNameChar '>' = false from rfl)]
  simpa using Shows.tag hi (tag?_stop hn)

lemma textItems_content (content : String) :
    textItems ("\n\n".toList ++ content.toList ++ ['\n']) =
      [.text ("\n\n" ++ content ++ "\n")] := by
  have h : String.ofList ("\n\n".toList ++ content.toList ++ ['\n']) =
      "\n\n" ++ content ++ "\n" := by
    apply String.toList_inj.1
    simp
  rw [← h]
  rfl

/-- **Tags and texts.** An element with proper names is read as its tags and texts. -/
lemma shows_print {e : Element} (h : e.Proper) : Shows e.print e.items := by
  induction h with
  | @node name attributes children hn ha hc ih =>
    cases children with
    | nil => simpa [Element.print, Element.items] using shows_alone hn ha
    | cons c cs =>
      have hopen := ((shows_start hn ha).children ih).line (shows_stop hn)
      simpa [Element.print, Element.items, printEnd] using hopen
  | @label name attributes content hn ha =>
    have hm := notMem_content content.toList
    have h := (shows_start hn ha).append (shows_stop hn) (by simpa using hm)
      (unescape?_content content.toList)
    rw [textItems_content] at h
    simpa [Element.print, Element.items, printEnd] using h

lemma items?_text {e : Element} (h : e.Proper) : items? e.text.toList = some e.items := by
  have h := (shows_print h).read [] [] [] (by simp) rfl (by simp [AtTag])
  simpa [Element.text, items?, textItems] using h

/-! ### Putting elements together -/

lemma run_append (fs : List Frame) (xs ys : List Item) :
    run fs (xs ++ ys) = (run fs xs).bind fun fs => run fs ys := by
  simp [run, List.foldlM_append]

lemma run_cons (fs : List Frame) (x : Item) (xs : List Item) :
    run fs (x :: xs) = (step fs x).bind fun fs => run fs xs := by
  simp [run]

@[simp] lemma run_nil (fs : List Frame) : run fs [] = some fs := rfl

lemma run_itemsOf {cs : List Element}
    (hc : ∀ c ∈ cs, ∀ f fs, run (f :: fs) c.items = some (f.add c :: fs)) (f : Frame)
    (fs : List Frame) :
    run (f :: fs) (itemsOf cs) = some ({ f with children := f.children ++ cs } :: fs) := by
  induction cs generalizing f with
  | nil => simp [itemsOf]
  | cons c cs ih =>
    obtain ⟨h, hcs⟩ := List.forall_mem_cons.1 hc
    have hbreak : step (f :: fs) (.text "\n") = some (f :: fs) := rfl
    rw [itemsOf, List.cons_append, run_cons, hbreak, Option.bind_some, run_append, h,
      Option.bind_some, ih hcs]
    simp [Frame.add]

lemma content?_eq (content : String) : content? ("\n\n" ++ content ++ "\n") = some content := by
  simp [content?]

lemma run_items {e : Element} (h : e.Proper) (f : Frame) (fs : List Frame) :
    run (f :: fs) e.items = some (f.add e :: fs) := by
  induction h generalizing f fs with
  | @node name attributes children hn ha hc ih =>
    cases children with
    | nil => rfl
    | cons c cs =>
      rw [Element.items, List.cons_append, run_cons, step, Option.bind_some, run_append,
        run_itemsOf ih]
      simp [run_cons, step, Frame.opened, Frame.close?]
  | @label name attributes content hn ha =>
    have hne : "\n\n" ++ content ++ "\n" ≠ "\n" := by
      intro h
      have := congrArg String.length h
      simp at this
    simp [Element.items, run_cons, step, Frame.opened, hne, content?_eq, Frame.close?]

/-- **Reading back.** An element with proper names is read back from its own text. -/
theorem read?_text {e : Element} (h : e.Proper) : read? e.text = some e := by
  simp [read?, items?_text h, run_items h, Frame.root, Frame.add]

end DotDrawing.Markup
