import DotDrawing.Markup.Element
import Mathlib.Tactic.Lemma

/-!
Reading the tags and texts of markup.

A document is cut at its angle brackets into tags and the texts behind them. A tag is cut at its
quotes into the names and the values of its attributes. As no bracket and no quote is left in an
escaped text, a printed tag is read with its name and its attributes, whatever the values are, and
so is the text behind it (`items?_cons`).
-/

namespace DotDrawing.Markup

/-- A tag, with its attributes or with what is of interest about them. -/
inductive Tag (α : Type)
  | start (name : String) (attributes : α)
  | alone (name : String) (attributes : α)
  | stop (name : String)
  deriving DecidableEq, Repr

def Tag.map {α β : Type} (f : α → β) : Tag α → Tag β
  | start name attributes => start name (f attributes)
  | alone name attributes => alone name (f attributes)
  | stop name => stop name

/-- What a document consists of. -/
inductive Item
  | tag (t : Tag (List (String × String)))
  | text (content : String)
  deriving DecidableEq, Repr

/-! ### The reader of tags and texts -/

/-- The text that an escaped text stands for. -/
def unescape? : List Char → Option (List Char)
  | [] => some []
  | '&' :: 'a' :: 'm' :: 'p' :: ';' :: cs => (unescape? cs).map ('&' :: ·)
  | '&' :: 'l' :: 't' :: ';' :: cs => (unescape? cs).map ('<' :: ·)
  | '&' :: 'g' :: 't' :: ';' :: cs => (unescape? cs).map ('>' :: ·)
  | '&' :: 'q' :: 'u' :: 'o' :: 't' :: ';' :: cs => (unescape? cs).map ('"' :: ·)
  | '&' :: 'a' :: 'p' :: 'o' :: 's' :: ';' :: cs => (unescape? cs).map ('\'' :: ·)
  | '&' :: _ => none
  | c :: cs => (unescape? cs).map (c :: ·)

def isNameChar (c : Char) : Bool := c.isAlphanum || c == '-'

/-- Names are not empty and hold letters, digits and hyphens. -/
def IsName (name : String) : Prop := name ≠ "" ∧ name.toList.all isNameChar

instance (name : String) : Decidable (IsName name) := inferInstanceAs (Decidable (_ ∧ _))

def name? (cs : List Char) : Option String :=
  if IsName (String.ofList cs) then some (String.ofList cs) else none

/-- The name of an attribute, which stands between a blank and an equals sign. -/
def key? : List Char → Option String
  | ' ' :: cs => if cs.getLast? = some '=' then name? cs.dropLast else none
  | _ => none

/-- The attributes in the inside of a tag that has been cut at its quotes, and what is behind
them. -/
def attributes? : List (List Char) → Option (List (String × String) × List Char)
  | [] => none
  | [rest] => some ([], rest)
  | key :: value :: pieces => do
    let key ← key? key
    let value ← unescape? value
    let (attributes, rest) ← attributes? pieces
    return ((key, String.ofList value) :: attributes, rest)

/-- The tag of an element whose attributes are followed by `rest`. -/
def opening? (name : String) (attributes : List (String × String)) :
    List Char → Option (Tag (List (String × String)))
  | [] => some (.start name attributes)
  | ['/'] => some (.alone name attributes)
  | _ => none

/-- The tag with the inside. -/
def tag? : List Char → Option (Tag (List (String × String)))
  | '/' :: cs => (name? cs).map .stop
  | cs => do
    let name ← name? (cs.takeWhile isNameChar)
    let (attributes, rest) ← attributes? ((cs.dropWhile isNameChar).splitOn '"')
    opening? name attributes rest

def textItems : List Char → List Item
  | [] => []
  | c :: cs => [.text (String.ofList (c :: cs))]

/-- A tag without its opening bracket, and the text behind it. -/
def piece? (cs : List Char) : Option (List Item) :=
  match cs.splitOn '>' with
  | [inside, behind] => do
    let t ← tag? inside
    let text ← unescape? behind
    return .tag t :: textItems text
  | _ => none

def items? : List Char → Option (List Item)
  | [] => some []
  | '<' :: cs => ((cs.splitOn '<').mapM piece?).map List.flatten
  | _ => none

/-! ### Texts and values -/

lemma unescape?_cons {c : Char} (h : c ≠ '&') (cs : List Char) :
    unescape? (c :: cs) = (unescape? cs).map (c :: ·) := by
  rw [unescape?]
  all_goals intros
  all_goals contradiction

lemma unescape?_escapeInValue (c : Char) (cs : List Char) :
    unescape? (escapeInValue c ++ cs) = (unescape? cs).map (c :: ·) := by
  unfold escapeInValue
  split
  case h_6 hamp _ _ _ _ => exact unescape?_cons hamp cs
  all_goals rfl

lemma unescape?_escapeInText (c : Char) (cs : List Char) :
    unescape? (escapeInText c ++ cs) = (unescape? cs).map (c :: ·) := by
  unfold escapeInText
  split
  case h_4 hamp _ _ => exact unescape?_cons hamp cs
  all_goals rfl

lemma unescape?_flatMap {f : Char → List Char}
    (hf : ∀ c cs, unescape? (f c ++ cs) = (unescape? cs).map (c :: ·)) (s rest : List Char) :
    unescape? (s.flatMap f ++ rest) = (unescape? rest).map (s ++ ·) := by
  induction s with
  | nil => simp
  | cons c s ih =>
    rw [List.flatMap_cons, List.append_assoc, hf, ih]
    simp [Function.comp_def]

lemma unescape?_value (s : List Char) : unescape? (s.flatMap escapeInValue) = some s := by
  simpa [unescape?] using unescape?_flatMap unescape?_escapeInValue s []

lemma unescape?_content (s : List Char) :
    unescape? ("\n\n".toList ++ s.flatMap escapeInText ++ ['\n']) =
      some ("\n\n".toList ++ s ++ ['\n']) := by
  have h : unescape? (s.flatMap escapeInText ++ ['\n']) = some (s ++ ['\n']) :=
    unescape?_flatMap unescape?_escapeInText s ['\n']
  change unescape? ('\n' :: '\n' :: (s.flatMap escapeInText ++ ['\n'])) = _
  rw [unescape?_cons (by decide), unescape?_cons (by decide), h]
  rfl

lemma notMem_value (s : List Char) :
    '<' ∉ s.flatMap escapeInValue ∧ '>' ∉ s.flatMap escapeInValue ∧
      '"' ∉ s.flatMap escapeInValue := by
  have h : ∀ c, '<' ∉ escapeInValue c ∧ '>' ∉ escapeInValue c ∧ '"' ∉ escapeInValue c := by
    intro c
    unfold escapeInValue
    split
    case h_6 _ hlt hgt hq _ =>
      simp only [List.mem_singleton]
      exact ⟨fun he => hlt he.symm, fun he => hgt he.symm, fun he => hq he.symm⟩
    all_goals decide
  simp [List.mem_flatMap, h]

lemma notMem_content (s : List Char) :
    '<' ∉ s.flatMap escapeInText ∧ '>' ∉ s.flatMap escapeInText := by
  have h : ∀ c, '<' ∉ escapeInText c ∧ '>' ∉ escapeInText c := by
    intro c
    unfold escapeInText
    split
    case h_4 _ hlt hgt =>
      simp only [List.mem_singleton]
      exact ⟨fun he => hlt he.symm, fun he => hgt he.symm⟩
    all_goals decide
  simp [List.mem_flatMap, h]

/-! ### Tags -/

variable {name : String} {attributes : List (String × String)}

lemma IsName.all (h : IsName name) : ∀ c ∈ name.toList, isNameChar c := List.all_eq_true.1 h.2

lemma IsName.notMem (h : IsName name) {c : Char} (hc : isNameChar c = false) : c ∉ name.toList :=
  fun hm => by simp [h.all c hm] at hc

lemma name?_toList (h : IsName name) : name? name.toList = some name := by
  rw [name?, String.ofList_toList, if_pos h]

lemma key?_name (h : IsName name) : key? (' ' :: name.toList ++ ['=']) = some name := by
  simp [key?, name?_toList h]

/-- All attributes have proper names. -/
def AreNames (attributes : List (String × String)) : Prop :=
  ∀ key ∈ attributes.map Prod.fst, IsName key

lemma attributes?_print (h : AreNames attributes) {rest : List Char} (hr : '"' ∉ rest) :
    attributes? ((attributes.flatMap printAttribute ++ rest).splitOn '"') =
      some (attributes, rest) := by
  induction attributes with
  | nil => simp [List.splitOn_eq_singleton hr, attributes?]
  | cons a as ih =>
    obtain ⟨ha, has⟩ := List.forall_mem_cons.1 h
    have hkey : '"' ∉ ' ' :: a.1.toList ++ ['='] := by
      simpa using ha.notMem rfl
    have hvalue := (notMem_value a.2.toList).2.2
    -- cut at the quotes: a key, its value and what comes of the others
    have hcut : (a :: as).flatMap printAttribute ++ rest =
        (' ' :: a.1.toList ++ ['=']) ++ '"' :: (a.2.toList.flatMap escapeInValue ++
          '"' :: (as.flatMap printAttribute ++ rest)) := by
      simp [printAttribute]
    rw [hcut, List.splitOn_append_cons_self_of_not_mem hkey,
      List.splitOn_append_cons_self_of_not_mem hvalue, attributes?, key?_name ha, unescape?_value,
      ih has]
    simp

lemma head?_attributes (attributes : List (String × String)) {rest : List Char}
    (hr : ∀ c ∈ rest.head?, isNameChar c = false) :
    ∀ c ∈ (attributes.flatMap printAttribute ++ rest).head?, isNameChar c = false := by
  cases attributes with
  | nil => exact hr
  | cons a as =>
    simp only [List.flatMap_cons, printAttribute, List.cons_append, List.head?_cons,
      Option.mem_some_iff]
    rintro _ rfl
    rfl

lemma takeWhile_name (h : IsName name) {rest : List Char}
    (hr : ∀ c ∈ rest.head?, isNameChar c = false) :
    (name.toList ++ rest).takeWhile isNameChar = name.toList ∧
      (name.toList ++ rest).dropWhile isNameChar = rest := by
  rw [List.takeWhile_append_of_pos h.all, List.dropWhile_append_of_pos h.all]
  cases rest with
  | nil => simp
  | cons c cs => simp [hr c (by simp)]

lemma tag?_eq (hn : IsName name) (ha : AreNames attributes) (rest : List Char)
    (hr : ∀ c ∈ rest.head?, isNameChar c = false) (hq : '"' ∉ rest) :
    tag? (name.toList ++ (attributes.flatMap printAttribute ++ rest)) =
      opening? name attributes rest := by
  obtain ⟨htake, hdrop⟩ := takeWhile_name hn (head?_attributes attributes hr)
  -- a name begins with no slash, so the tag is no closing tag
  have hslash : ∀ cs, name.toList ++ (attributes.flatMap printAttribute ++ rest) ≠ '/' :: cs := by
    intro cs h
    rw [h, List.takeWhile_cons_of_neg (by decide)] at htake
    exact hn.1 (String.toList_eq_nil_iff.1 htake.symm)
  rw [tag?]
  · rw [htake, hdrop, name?_toList hn, attributes?_print ha hq]
    rfl
  · exact hslash

lemma tag?_start (hn : IsName name) (ha : AreNames attributes) :
    tag? (name.toList ++ attributes.flatMap printAttribute) = some (.start name attributes) := by
  simpa [opening?] using tag?_eq hn ha [] (by simp) (by simp)

lemma tag?_alone (hn : IsName name) (ha : AreNames attributes) :
    tag? (name.toList ++ (attributes.flatMap printAttribute ++ ['/'])) =
      some (.alone name attributes) :=
  tag?_eq hn ha ['/'] (by simp [isNameChar]) (by simp)

lemma tag?_stop (hn : IsName name) : tag? ('/' :: name.toList) = some (.stop name) := by
  simp [tag?, name?_toList hn]

lemma notMem_attributes (ha : AreNames attributes) :
    '<' ∉ attributes.flatMap printAttribute ∧ '>' ∉ attributes.flatMap printAttribute := by
  have h : ∀ c, isNameChar c = false → c ≠ ' ' → c ≠ '=' → c ≠ '"' →
      (∀ s : List Char, c ∉ s.flatMap escapeInValue) → c ∉ attributes.flatMap printAttribute := by
    intro c hc hb he hq hv hm
    obtain ⟨a, hma, hca⟩ := List.mem_flatMap.1 hm
    have hname := (ha a.1 (List.mem_map_of_mem hma)).notMem hc
    simp [printAttribute, hb, he, hq, hname, hv] at hca
  exact ⟨h _ rfl (by decide) (by decide) (by decide) fun s => (notMem_value s).1,
    h _ rfl (by decide) (by decide) (by decide) fun s => (notMem_value s).2.1⟩

/-! ### Items -/

/-- A text after which the next tag or nothing follows. -/
def AtTag (rest : List Char) : Prop := ∀ c ∈ rest.head?, c = '<'

lemma items?_cons {inside behind text rest : List Char} {t : Tag (List (String × String))}
    (hi : '<' ∉ inside ∧ '>' ∉ inside) (hb : '<' ∉ behind ∧ '>' ∉ behind) (hr : AtTag rest)
    (ht : tag? inside = some t) (hu : unescape? behind = some text) :
    items? ('<' :: inside ++ '>' :: behind ++ rest) =
      (items? rest).map fun items => .tag t :: textItems text ++ items := by
  have hcut : (inside ++ '>' :: behind).splitOn '>' = [inside, behind] := by
    rw [List.splitOn_append_cons_self_of_not_mem hi.2, List.splitOn_eq_singleton hb.2]
  have hpiece : piece? (inside ++ '>' :: behind) = some (.tag t :: textItems text) := by
    simp [piece?, hcut, ht, hu]
  have hmem : '<' ∉ inside ++ '>' :: behind := by simp [hi.1, hb.1]
  cases rest with
  | nil => simp [items?, List.splitOn_eq_singleton hmem, hpiece]
  | cons c cs =>
    obtain rfl := hr c rfl
    have hsplit := List.splitOn_append_cons_self_of_not_mem hmem cs
    rw [List.cons_append, List.cons_append, items?, hsplit, items?, List.mapM_cons, hpiece]
    cases (cs.splitOn '<').mapM piece? <;> simp

end DotDrawing.Markup
