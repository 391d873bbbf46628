import DotDrawing.Proofs.AttributeList.InPlace
import DotDrawing.Proofs.Graph.Operation
import DotDrawing.Proofs.Source.Statements
import DotDrawing.Proofs.Token.Texts

/-!
The texts of a graph.

`text` is a property of all texts and `name` one of node ids. Both pass from the tokens of a source
(`Token.Spell`) to its statements (`Statement.Holds`), from a statement to the graph that it changes
(`Builder.Holds.apply`), and so to the graph of the source (`Graph.holds_parse`). Main statement:
`texts_parse`.
-/

namespace DotDrawing

/-! ### Graphs -/

/-- The keys and the values. -/
def Attributes.texts (a : Attributes) : List String := a.entries.flatMap fun e => [e.1, e.2]

/-- The ids, attribute keys and attribute values of a graph. -/
def Graph.texts (g : Graph) : List String :=
  g.id :: (g.attributes.texts ++ g.nodes.flatMap (fun n => n.id :: n.attributes.texts) ++
    g.edges.flatMap fun e => e.source :: e.target :: e.attributes.texts)

section

variable {text name : String → Prop}

/-- The keys and values are texts with the property, as an assignment sets them. -/
def Attributes.Hold (text : String → Prop) (a : Attributes) : Prop :=
  a.All fun key value => text key ∧ text value

/-- The keys and values are texts with the property and no key is empty, as in a list. -/
def Attributes.Listed (text : String → Prop) (a : Attributes) : Prop :=
  a.All fun key value => key ≠ "" ∧ text key ∧ text value

lemma Attributes.Listed.hold {a : Attributes} (h : a.Listed text) : a.Hold text :=
  h.imp fun _ _ he => he.2

/-- The texts of the graph have the property of texts, and its node ids that of names. -/
structure Graph.Holds (text name : String → Prop) (g : Graph) : Prop where
  id : text g.id
  attributes : g.attributes.Hold text
  nodes : g.nodeAttributes.All fun id a => name id ∧ a.Listed text
  edges : ∀ e ∈ g.edges, (name e.source ∧ name e.target) ∧ e.attributes.Listed text

namespace Graph

variable {g : Graph} {id source target : String} {defaults attributes : Attributes}

lemma holds_empty (kind : Kind) (strict : Bool) (h : text id) :
    (empty kind strict id).Holds text name :=
  ⟨h, Dict.all_empty, Dict.all_empty, by simp [empty]⟩

lemma Holds.mergeAttributes (hg : g.Holds text name) (ha : attributes.Hold text) :
    (g.mergeAttributes attributes).Holds text name :=
  ⟨hg.id, hg.attributes.merge ha, hg.nodes, hg.edges⟩

lemma Holds.upsertNode (hg : g.Holds text name) (hid : name id) (hd : defaults.Listed text)
    (ha : attributes.Listed text) : (g.upsertNode id defaults attributes).Holds text name := by
  refine ⟨hg.id, hg.attributes, hg.nodes.insert ⟨hid, ?_⟩, hg.edges⟩
  cases h : g.nodeAttributes.get? id with
  | none => exact Dict.All.merge hd ha
  | some old => exact Dict.All.merge (hg.nodes.get? h).2 ha

lemma Holds.joinedEdges (hg : g.Holds text name) (hs : name source) (ht : name target)
    (ha : attributes.Listed text) : ∀ e ∈ (g.joinedEdges source target attributes).1,
      (name e.source ∧ name e.target) ∧ e.attributes.Listed text := by
  have hedges := hg.edges
  rcases joinedEdges_cases g source target attributes with ⟨-, h⟩ | ⟨-, us, e, vs, hes, -, -, h⟩
  · rw [h]
    intro f hf
    rcases List.mem_append.1 hf with hf | hf
    · exact hedges f hf
    · rw [List.mem_singleton.1 hf]
      exact ⟨⟨hs, ht⟩, ha⟩
  · rw [hes, List.forall_mem_append, List.forall_mem_cons] at hedges
    obtain ⟨hus, he, hvs⟩ := hedges
    rw [h]
    exact List.forall_mem_append.2
      ⟨hus, List.forall_mem_cons.2 ⟨⟨he.1, Dict.All.merge he.2 ha⟩, hvs⟩⟩

lemma Holds.addEdge (hg : g.Holds text name) (hs : name source) (ht : name target)
    (hd : defaults.Listed text) (ha : attributes.Listed text) :
    (g.addEdge source target defaults attributes).1.Holds text name where
  id := by
    rw [addEdge_eq]
    simpa [withEnds] using hg.id
  attributes := by
    rw [addEdge_eq]
    simpa [withEnds] using hg.attributes
  nodes := by
    rw [nodeAttributes_addEdge]
    exact (hg.nodes.insertNew ⟨hs, hd⟩).insertNew ⟨ht, hd⟩
  edges := by
    rw [edges_addEdge]
    exact hg.joinedEdges hs ht ha

lemma Holds.texts (hg : g.Holds text name) (h : ∀ id, name id → text id) :
    ∀ t ∈ g.texts, text t := by
  have attributes {a : Attributes} (ha : a.Hold text) : ∀ t ∈ a.texts, text t := by
    intro t ht
    obtain ⟨e, he, ht⟩ := List.mem_flatMap.1 ht
    rw [List.mem_pair] at ht
    rcases ht with rfl | rfl
    · exact (ha e he).1
    · exact (ha e he).2
  refine List.forall_mem_cons.2 ⟨hg.id, List.forall_mem_append.2
    ⟨List.forall_mem_append.2 ⟨attributes hg.attributes, ?_⟩, ?_⟩⟩
  · refine List.forall_mem_flatMap.2 fun n hn => ?_
    obtain ⟨e, he, rfl⟩ := List.mem_map.1 hn
    obtain ⟨hid, ha⟩ := hg.nodes e he
    exact List.forall_mem_cons.2 ⟨h _ hid, attributes ha.hold⟩
  · refine List.forall_mem_flatMap.2 fun e he => ?_
    obtain ⟨⟨hs, ht⟩, ha⟩ := hg.edges e he
    exact List.forall_mem_cons.2 ⟨h _ hs, List.forall_mem_cons.2 ⟨h _ ht, attributes ha.hold⟩⟩

end Graph

lemma Attributes.Listed.empty_notMem {a : Attributes} (h : a.Listed text) : "" ∉ a.keys := by
  intro hm
  obtain ⟨e, he, hkey⟩ := List.mem_map.1 hm
  exact (h e he).1 hkey

/-! ### Statements -/

/-- The texts and the node ids that the statement mentions have their properties. -/
def Statement.Holds (text name : String → Prop) : Statement → Prop
  | .edges ids attributes => (∀ id ∈ ids, name id) ∧ attributes.Listed text
  | .node id attributes => name id ∧ attributes.Listed text
  | .defaults _ attributes => attributes.Listed text
  | .assignment key value => text key ∧ text value

namespace Builder

/-- What holds of a graph and the defaults in force. -/
structure Holds (text name : String → Prop) (b : Builder) : Prop where
  graph : b.graph.Holds text name
  nodeDefaults : b.nodeDefaults.Listed text
  edgeDefaults : b.edgeDefaults.Listed text

variable {b : Builder} {g : Graph} {ids : List String} {defaults attributes : Attributes}

lemma holds_joinChain (hg : g.Holds text name) (hids : ∀ id ∈ ids, name id)
    (hd : defaults.Listed text) (ha : attributes.Listed text) :
    (joinChain g defaults attributes ids).Holds text name := by
  induction ids generalizing g with
  | nil => exact hg
  | cons a ids ih =>
    cases ids with
    | nil => exact hg
    | cons b ids =>
      obtain ⟨hna, hids⟩ := List.forall_mem_cons.1 hids
      have hnb : name b := hids b List.mem_cons_self
      exact ih (hg.addEdge hna hnb hd ha) hids

lemma holds_start (hg : g.Holds text name) : (start g).Holds text name :=
  ⟨hg, Dict.all_empty, Dict.all_empty⟩

lemma Holds.apply (hb : b.Holds text name) {s : Statement} (hs : s.Holds text name) :
    (b.apply s).Holds text name := by
  obtain ⟨hg, hn, he⟩ := hb
  match s with
  | .edges ids attributes => exact ⟨holds_joinChain hg hs.1 hn (Dict.All.merge he hs.2), hn, he⟩
  | .node id attributes => exact ⟨hg.upsertNode hs.1 hn hs.2, hn, he⟩
  | .defaults .node attributes => exact ⟨hg, Dict.All.merge hn hs, he⟩
  | .defaults .edge attributes => exact ⟨hg, hn, Dict.All.merge he hs⟩
  | .defaults .graph attributes => exact ⟨hg.mergeAttributes (Attributes.Listed.hold hs), hn, he⟩
  | .assignment key value =>
    exact ⟨hg.mergeAttributes (Dict.all_empty.insert hs), hn, he⟩

lemma Holds.applyAll (hb : b.Holds text name) {ss : List Statement}
    (hss : ∀ s ∈ ss, s.Holds text name) : (b.applyAll ss).Holds text name := by
  induction ss generalizing b with
  | nil => exact hb
  | cons s ss ih =>
    obtain ⟨hs, hss⟩ := List.forall_mem_cons.1 hss
    exact ih (hb.apply hs) hss

end Builder

/-! ### Tokens -/

/-- What the tokens spell has the properties: every id that one of them spells, every id that can
name a node, and the source text of every run of them without newlines. -/
structure Token.Spell (text name : String → Prop) (ts : List Token) : Prop where
  id : ∀ t ∈ ts, ∀ id, t.id? = some id → text id
  name : ∀ t ∈ ts, ∀ id, t.Free id → name id
  cut : ∀ us ⊆ ts, .newline ∉ us → text (sourceText us)

namespace Token.Spell

variable {ts us : List Token}

lemma mono (h : Spell text name ts) (hus : us ⊆ ts) : Spell text name us where
  id t ht := h.id t (hus ht)
  name t ht := h.name t (hus ht)
  cut vs hvs := h.cut vs (List.Subset.trans hvs hus)

lemma side (h : Spell text name ts) (hn : .newline ∉ ts) : text (AttributeList.side ts) := by
  unfold AttributeList.side
  split
  · next quoted hts =>
    have hmem : Token.quoted quoted ∈ ts.filter (!·.isTrivia) := hts ▸ List.mem_singleton_self _
    exact h.id _ (List.mem_of_mem_filter hmem) quoted rfl
  · exact h.cut ts (List.Subset.refl ts) hn

lemma pair (h : Spell text name ts) (hn : .newline ∉ ts) {key value : String}
    (he : AttributeList.entry? ts = some (.pair key value)) :
    key ≠ "" ∧ text key ∧ text value := by
  have part {us : List Token} (hus : us ⊆ ts) : text (AttributeList.side us) :=
    (h.mono hus).side fun hm => hn (hus hm)
  unfold AttributeList.entry? at he
  split at he
  · split at he <;> cases he
  · next t after hdrop =>
    have hafter : after ⊆ ts := by
      have hsuffix : t :: after <:+ ts := hdrop ▸ List.dropWhile_suffix _
      exact ((List.suffix_cons t after).trans hsuffix).subset
    dsimp only at he
    split at he
    · cases he
    · next hkey =>
      cases he
      exact ⟨hkey, part (List.takeWhile_prefix _).subset, part hafter⟩

lemma read (h : Spell text name ts) (hn : .newline ∉ ts) :
    (AttributeList.read ts).Listed text := by
  refine Dict.all_empty.insertAll fun p hp => ?_
  obtain ⟨entry, hentry, hpair⟩ := List.mem_filterMap.1 hp
  obtain ⟨part, hpart, hread⟩ := List.mem_filterMap.1 hentry
  have hus : part ⊆ ts := (infix_and_forall_of_mem_splitOnP hpart).1.subset
  cases entry with
  | pair key value =>
    cases hpair
    exact (h.mono hus).pair (fun hm => hn (hus hm)) hread
  | valueless => cases hpair
  | keyless => cases hpair

end Token.Spell

/-! ### Statements read from tokens -/

lemma Piece.MadeOf.subset {ts : List Token} {ps : List Piece} (h : MadeOf ts ps) :
    (∀ t, .word t ∈ ps → t ∈ ts) ∧ ∀ inside, .list inside ∈ ps → inside ⊆ ts := by
  induction h with
  | nil => simp
  | @skip t ts ps _ _ ih =>
    exact ⟨fun u hu => List.mem_cons_of_mem _ (ih.1 u hu),
      fun inside hi => List.Subset.trans (ih.2 inside hi) (List.subset_cons_self ..)⟩
  | @word t ts ps _ _ _ ih =>
    refine ⟨fun u hu => ?_, fun inside hi => ?_⟩
    · rcases List.mem_cons.1 hu with hu | hu
      · cases hu
        exact List.mem_cons_self
      · exact List.mem_cons_of_mem _ (ih.1 u hu)
    · have hi := (List.mem_cons.1 hi).resolve_left (by simp)
      exact List.Subset.trans (ih.2 inside hi) (List.subset_cons_self ..)
  | @list inside ts ps _ _ ih =>
    have htail : ts ⊆ .leftBracket :: (inside ++ .rightBracket :: ts) := fun t ht => by simp [ht]
    refine ⟨fun u hu => ?_, fun inside' hi => ?_⟩
    · exact htail (ih.1 u ((List.mem_cons.1 hu).resolve_left (by simp)))
    · rcases List.mem_cons.1 hi with hi | hi
      · cases hi
        exact fun t ht => by simp [ht]
      · exact List.Subset.trans (ih.2 inside' hi) htail
  | unclosed => simp

namespace Statement

lemma word_mem_links {kind : Graph.Kind} {x : Token} {xs : List Token} (h : x ∈ xs) :
    .word x ∈ links kind xs :=
  List.mem_flatMap.2 ⟨x, h, by simp⟩

lemma forall_of_forall₂_free {xs : List Token} {ids : List String}
    (hxs : List.Forall₂ Token.Free xs ids) (h : ∀ x ∈ xs, ∀ id, x.Free id → name id) :
    ∀ id ∈ ids, name id := by
  induction hxs with
  | nil => simp
  | cons hx _ ih =>
    rw [List.forall_mem_cons] at h ⊢
    exact ⟨h.1 _ hx, ih h.2⟩

variable {kind : Graph.Kind} {ps : List Piece} {s : Statement} {ts : List Token}

lemma Derives.holds (h : Derives kind ps s)
    (hid : ∀ t, .word t ∈ ps → ∀ id, t.id? = some id → text id)
    (hname : ∀ t, .word t ∈ ps → ∀ id, t.Free id → name id)
    (hlist : ∀ inside, .list inside ∈ ps → (AttributeList.read inside).Listed text) :
    s.Holds text name := by
  cases h with
  | @chain x xs id ids hx hxs _ =>
    have hlinks : ∀ y ∈ xs, ∀ id, y.Free id → name id := fun y hy =>
      hname y (List.mem_cons_of_mem _ (word_mem_links hy))
    have hfirst : name id := hname x List.mem_cons_self id hx
    exact ⟨List.forall_mem_cons.2 ⟨hfirst, forall_of_forall₂_free hxs hlinks⟩, Dict.all_empty⟩
  | @chainWithList x xs id ids hx hxs _ inside =>
    have hlinks : ∀ y ∈ xs, ∀ id, y.Free id → name id := fun y hy =>
      hname y (List.mem_append_left _ (List.mem_cons_of_mem _ (word_mem_links hy)))
    have hfirst : name id := hname x (by simp) id hx
    exact ⟨List.forall_mem_cons.2 ⟨hfirst, forall_of_forall₂_free hxs hlinks⟩,
      hlist inside (by simp)⟩
  | @node x id hx inside => exact ⟨hname x (by simp) id hx, hlist inside (by simp)⟩
  | @defaults x target _ inside => exact hlist inside (by simp)
  | @assignment x y key value hx hy =>
    exact ⟨hid x (by simp) key (Token.free_iff.1 hx).2, hid y (by simp) value hy⟩

lemma holds_of_statement? (h : Token.Spell text name ts) (hn : .newline ∉ ts)
    (hs : (read kind ts).statement? = some s) : s.Holds text name := by
  obtain ⟨hwords, hlists⟩ := (Piece.madeOf_ofTokens ts).subset
  refine (derives_of_statement? hs).holds (fun t ht => h.id t (hwords t ht))
    (fun t ht => h.name t (hwords t ht)) fun inside hi => ?_
  have hinside : inside ⊆ ts := hlists inside hi
  exact (h.mono hinside).read fun hm => hn (hinside hm)

end Statement

/-! ### Sources -/

variable {s : String}

lemma Source.holds_start (h : Token.Spell text name (Token.ofString s))
    (hdefault : text Graph.defaultId) : (ofString s).start.Holds text name := by
  unfold ofString ofTokens
  split
  · next header body hfind =>
    refine Graph.holds_empty header.kind header.strict ?_
    rcases Header.id_of_find? hfind with hid | ⟨t, ht, hid⟩
    · rwa [hid]
    · exact h.id t ht header.id hid
  · exact Graph.holds_empty .directed false hdefault

lemma Source.holds_of_mem_statements (h : Token.Spell text name (Token.ofString s)) :
    ∀ statement ∈ (ofString s).statements, statement.Holds text name := by
  intro statement hs
  rw [statements_ofString] at hs
  obtain ⟨line, hline, hs⟩ := List.mem_flatMap.1 hs
  obtain ⟨run, hrun, hs⟩ := List.mem_filterMap.1 hs
  obtain ⟨hn, hbody⟩ := mem_of_mem_splitOn (List.mem_of_mem_filter hline)
  have hmem : ∀ t ∈ run, t ∈ line := Statement.mem_of_mem_cutFrom hrun
  have hsource : run ⊆ Token.ofString s := fun t ht =>
    (Source.body_suffix _).subset (hbody t (hmem t ht))
  exact Statement.holds_of_statement? (h.mono hsource) (fun hm => hn (hmem _ hm)) hs

lemma Graph.holds_parse (h : Token.Spell text name (Token.ofString s))
    (hdefault : text Graph.defaultId) : (Graph.parse s).Holds text name :=
  ((Builder.holds_start (Source.holds_start h hdefault)).applyAll
    (Source.holds_of_mem_statements h)).graph

end

/-! ### What the tokens of a source spell -/

lemma Token.spell_ofString (s : String) :
    Spell ('\n' ∉ ·.toList) ('\n' ∉ ·.toList) (ofString s) where
  id _ ht _ hid := newline_notMem_of_id? ht hid
  name _ ht _ hfree := newline_notMem_of_id? ht (free_iff.1 hfree).2
  cut _ hus hn := newline_notMem_sourceText hus hn

/-- An id that can name a node without quotes. -/
structure PlainId (id : String) : Prop where
  ne_empty : id ≠ ""
  tight : Text.Tight id.toList
  not_sameWord : ∀ k : Keyword, ¬ Text.sameWord k.word id

lemma Token.spell_unquoted {s : String} (hq : ∀ text, .quoted text ∉ ofString s) :
    Spell (Text.Tight ·.toList) PlainId (ofString s) where
  id t ht _ hid := (tight_of_id? ht hid fun text he => hq text (he ▸ ht)).2
  name t ht id hfree := by
    have hunquoted : ∀ text, t ≠ .quoted text := fun text he => hq text (he ▸ ht)
    obtain ⟨hne, htight⟩ := tight_of_id? ht (free_iff.1 hfree).2 hunquoted
    exact ⟨hne, htight, not_sameWord_of_free ht hfree hunquoted⟩
  cut us _ _ := tight_sourceText us

lemma tight_defaultId : Text.Tight Graph.defaultId.toList := by
  constructor <;> rintro c ⟨⟩ <;> rfl

/-- **Texts of a graph**: no text of the graph of a source holds a line break, and no node and no
edge has an empty attribute key. When nothing is quoted in the source, no text has white space at
its ends, and no node id is empty or a keyword. -/
theorem texts_parse (s : String) :
    (∀ t ∈ (Graph.parse s).texts, '\n' ∉ t.toList) ∧
      (∀ n ∈ (Graph.parse s).nodes, "" ∉ n.attributes.keys) ∧
      (∀ e ∈ (Graph.parse s).edges, "" ∉ e.attributes.keys) ∧
      ((∀ text, .quoted text ∉ Token.ofString s) →
        (∀ t ∈ (Graph.parse s).texts, Text.Tight t.toList) ∧
        ∀ n ∈ (Graph.parse s).nodes, n.id ≠ "" ∧ ∀ k : Keyword, ¬ Text.sameWord k.word n.id) := by
  have hlines := Graph.holds_parse (Token.spell_ofString s) (by decide)
  refine ⟨hlines.texts fun _ h => h, fun n hn => ?_, fun e he => ?_, fun hq => ?_⟩
  · obtain ⟨p, hp, rfl⟩ := List.mem_map.1 hn
    exact (hlines.nodes p hp).2.empty_notMem
  · exact (hlines.edges e he).2.empty_notMem
  · have hplain := Graph.holds_parse (Token.spell_unquoted hq) tight_defaultId
    refine ⟨hplain.texts fun _ h => h.tight, fun n hn => ?_⟩
    obtain ⟨p, hp, rfl⟩ := List.mem_map.1 hn
    obtain ⟨hne, -, hword⟩ := (hplain.nodes p hp).1
    exact ⟨hne, hword⟩

/-- A source without quotes in which keywords and blank entries stand where ids, keys and values
could. -/
def unquoted : String :=
  "strict digraph Edge \x7b\n  Graph -> b;\n  node [ shape = big  box ; = x];\n" ++
    "  a -> -.5 [k=];\n  strict [a=b]; label = Node; =c; e [ /**/ = f ];\n\x7d"

/-- Statements about keywords name no nodes, and blank keys set nothing. -/
theorem texts_parse_unquoted :
    (∀ text, .quoted text ∉ Token.ofString unquoted) ∧
      (Graph.parse unquoted).nodeIds = ["a", "-.5", "e"] ∧
      (∀ t ∈ (Graph.parse unquoted).texts, Text.Tight t.toList) ∧
      ∀ n ∈ (Graph.parse unquoted).nodes,
        n.id ≠ "" ∧ ∀ k : Keyword, ¬ Text.sameWord k.word n.id := by
  have hq : ∀ text, .quoted text ∉ Token.ofString unquoted := Token.quoted_notMem (by decide +kernel)
  exact ⟨hq, by decide +kernel, (texts_parse unquoted).2.2.2 hq⟩

end DotDrawing
