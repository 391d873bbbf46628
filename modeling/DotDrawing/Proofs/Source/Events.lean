import DotDrawing.Source.Event
import DotDrawing.Proofs.Source.Meaning
import DotDrawing.Proofs.Source.Passages

/-!
What is noted down is true.

The nodes that are found along the way are the nodes that the graph has at the end, in order
(`Event.found_ofItems`). Each item is mentioned by one event (`Event.mentions_ofItems`), so the
events with a line are about the passages of the source that count for something. Main statement:
`Source.events_truthful`.
-/

namespace DotDrawing

/-! ### The nodes that are found -/

namespace Graph

variable {g : Graph} {id source target : String} {defaults attributes : Attributes}

lemma nodeIds_append_found (g : Graph) (id : String) : g.nodeIds ++ g.found id =
    if id ∈ g.nodeIds then g.nodeIds else g.nodeIds ++ [id] := by
  by_cases h : id ∈ g.nodeIds <;> simp [found, hasNode_iff, h]

lemma nodeIds_ensureNode_eq_append :
    (g.ensureNode id defaults).1.nodeIds = g.nodeIds ++ g.found id := by
  rw [nodeIds_ensureNode, nodeIds_append_found]

lemma nodeIds_upsertNode_eq_append :
    (g.upsertNode id defaults attributes).nodeIds = g.nodeIds ++ g.found id := by
  rw [nodeIds_upsertNode, nodeIds_append_found]

lemma nodeIds_addEdge_eq_append : (g.addEdge source target defaults attributes).1.nodeIds =
    g.nodeIds ++ g.foundEnds source target defaults := by
  rw [nodeIds_addEdge, withEnds, nodeIds_ensureNode_eq_append, nodeIds_ensureNode_eq_append,
    foundEnds, List.append_assoc]

end Graph

namespace Builder

lemma nodeIds_joinChain (g : Graph) (nodeDefaults attributes : Attributes) (ids : List String) :
    (joinChain g nodeDefaults attributes ids).nodeIds =
      g.nodeIds ++ foundAlong g nodeDefaults attributes ids := by
  fun_induction joinChain g nodeDefaults attributes ids with
  | case1 g a b ids ih =>
    rw [ih, Graph.nodeIds_addEdge_eq_append, foundAlong, List.append_assoc]
  | case2 ids g hids =>
    rcases ids with _ | ⟨a, _ | ⟨b, ids⟩⟩
    · exact (List.append_nil _).symm
    · exact (List.append_nil _).symm
    · exact absurd rfl (hids a b ids)

lemma nodeIds_apply (b : Builder) (s : Statement) :
    (b.apply s).graph.nodeIds = b.graph.nodeIds ++ b.found s := by
  cases s with
  | edges ids attributes => exact nodeIds_joinChain ..
  | node id attributes => exact Graph.nodeIds_upsertNode_eq_append
  | defaults target attributes => cases target <;> exact (List.append_nil _).symm
  | assignment key value => exact (List.append_nil _).symm

end Builder

/-! ### Events of the items -/

namespace Event

/-- The event says that a node was found. -/
def isDiscovery (e : Event) : Bool := e.message == "Discovered node"

def hasLine (e : Event) : Bool := (e.fields.lookup "line").isSome

/-- The event says of a passage what there is to say. -/
structure Mentions (e : Event) (m : Mention) : Prop where
  line : e.fields.lookup "line" = some (.count m.line)
  text : e.fields.lookup "statement" = some (.text m.text)
  unterminated : e.message = "Ignoring statement without terminating semicolon" ↔ ¬ m.terminated

lemma Mentions.hasLine {e : Event} {m : Mention} (h : e.Mentions m) : e.hasLine := by
  rw [Event.hasLine, h.line, Option.isSome_some]

lemma quiet_of_ofEntry? {entry : AttributeList.Entry} {e : Event} (h : ofEntry? entry = some e) :
    e.isDiscovery = false ∧ e.hasLine = false := by
  cases entry with
  | pair key value => cases h
  | valueless text | keyless text =>
    cases h
    exact ⟨rfl, rfl⟩

lemma filter_entries (entries : List AttributeList.Entry) :
    (entries.filterMap ofEntry?).filter isDiscovery = [] ∧
      (entries.filterMap ofEntry?).filter hasLine = [] := by
  have hquiet : ∀ e ∈ entries.filterMap ofEntry?, e.isDiscovery = false ∧ e.hasLine = false := by
    intro e he
    obtain ⟨entry, -, hentry⟩ := List.mem_filterMap.1 he
    exact quiet_of_ofEntry? hentry
  refine ⟨List.filter_eq_nil_iff.2 fun e he => ?_, List.filter_eq_nil_iff.2 fun e he => ?_⟩
  · rw [(hquiet e he).1]
    exact Bool.false_ne_true
  · rw [(hquiet e he).2]
    exact Bool.false_ne_true

lemma filter_nodeFound (ids : List String) :
    (ids.map nodeFound).filter isDiscovery = ids.map nodeFound ∧
      (ids.map nodeFound).filter hasLine = [] := by
  constructor
  · rw [List.filter_eq_self, List.forall_mem_map]
    intro id _
    rfl
  · rw [List.filter_eq_nil_iff, List.forall_mem_map]
    intro id _
    exact Bool.false_ne_true

variable (b : Builder) (i : Item)

/-- For an item there are the entries that it drops, the nodes that it adds, and one mention. -/
lemma ofItem_eq : ∃ (entries : List AttributeList.Entry) (ids : List String) (e : Event),
    ofItem b i = (entries.filterMap ofEntry? ++ ids.map nodeFound ++ [e],
      b.applyAll i.statement?.toList) ∧
    (b.applyAll i.statement?.toList).graph.nodeIds = b.graph.nodeIds ++ ids ∧
    e.Mentions i.mention ∧ e.isDiscovery = false := by
  obtain ⟨line, text, content⟩ := i
  cases content with
  | unterminated =>
    refine ⟨[], [], unterminated line text, rfl, (List.append_nil _).symm, ⟨rfl, rfl, ?_⟩, rfl⟩
    simp [message, Item.mention]
  | statement reading =>
    obtain ⟨entries, outcome⟩ := reading
    cases outcome with
    | error reason =>
      refine ⟨entries, [], rejected line text reason, ?_, (List.append_nil _).symm,
        ⟨rfl, rfl, ?_⟩, rfl⟩
      · rw [List.map_nil, List.append_nil]
        rfl
      · simp [message, Item.mention]
    | ok statement =>
      refine ⟨entries, b.found statement, applied line text statement, rfl,
        b.nodeIds_apply statement, ⟨rfl, rfl, ?_⟩, ?_⟩
      · cases statement <;> simp [message, Item.mention]
      · cases statement <;> simp [isDiscovery, message]

lemma found_ofItems (is : List Item) :
    b.graph.nodeIds.map nodeFound ++ (ofItems b is).filter isDiscovery =
      (b.applyAll (is.filterMap Item.statement?)).graph.nodeIds.map nodeFound := by
  induction is generalizing b with
  | nil => simp [ofItems, Builder.applyAll]
  | cons i is ih =>
    obtain ⟨entries, ids, e, hi, hids, -, he⟩ := ofItem_eq b i
    have hrest := ih (b.applyAll i.statement?.toList)
    rw [hids] at hrest
    have happly : b.applyAll ((i :: is).filterMap Item.statement?) =
        (b.applyAll i.statement?.toList).applyAll (is.filterMap Item.statement?) := by
      cases h : i.statement? <;> simp [Builder.applyAll, h]
    rw [happly, ← hrest, ofItems, hi]
    simp [filter_entries, filter_nodeFound, he]

lemma mentions_ofItems (is : List Item) :
    List.Forall₂ Mentions ((ofItems b is).filter hasLine) (is.map Item.mention) := by
  induction is generalizing b with
  | nil => exact List.Forall₂.nil
  | cons i is ih =>
    obtain ⟨entries, ids, e, hi, -, hm, -⟩ := ofItem_eq b i
    have hone : (entries.filterMap ofEntry? ++ ids.map nodeFound ++ [e]).filter hasLine = [e] := by
      simp [filter_entries, filter_nodeFound, hm.hasLine]
    rw [ofItems, hi, List.filter_append, hone]
    exact List.Forall₂.cons hm (ih _)

end Event

/-! ### All events of a source -/

namespace Source

open Event (Field)

/-- The event for the whole source. -/
def summary (g : Graph) : Event := .finished g.id g.strict g.nodeIds.length g.edges.length

lemma events_eq (s : Source) : ∃ first : Event,
    s.events = first :: (Event.ofItems (Builder.start s.start) s.items ++ [summary s.graph]) ∧
      first.isDiscovery = false ∧ first.hasLine = false := by
  rw [events]
  cases s.header? with
  | none => exact ⟨_, rfl, rfl, rfl⟩
  | some header => exact ⟨_, rfl, rfl, rfl⟩

lemma mentions_events (s : String) :
    List.Forall₂ (fun e p => Event.Mentions e (Passage.mention p))
      ((ofString s).events.filter Event.hasLine) ((passages s).filter Passage.isNoted) := by
  obtain ⟨first, hevents, -, hfirst⟩ := (ofString s).events_eq
  have hitems := Event.mentions_ofItems (Builder.start (ofString s).start) (ofString s).items
  rw [mention_items, List.forall₂_map_right_iff] at hitems
  have hsummary : (summary (ofString s).graph).hasLine = false := rfl
  rw [hevents, List.filter_cons_of_neg (by simp [hfirst]), List.filter_append,
    List.filter_singleton, hsummary]
  simpa using hitems

lemma filter_isDiscovery_events (s : Source) :
    s.events.filter Event.isDiscovery = s.graph.nodeIds.map .nodeFound := by
  obtain ⟨first, hevents, hfirst, -⟩ := s.events_eq
  obtain ⟨kind, strict, id, hstart⟩ := s.start_eq_empty
  have hfound := Event.found_ofItems (Builder.start s.start) s.items
  have hnone : (Builder.start s.start).graph.nodeIds = [] := by
    rw [hstart]
    rfl
  rw [hnone, List.map_nil, List.nil_append] at hfound
  have hsummary : (summary s.graph).isDiscovery = false := rfl
  rw [hevents, List.filter_cons_of_neg (by simp [hfirst]), List.filter_append, hfound,
    List.filter_singleton, hsummary]
  exact List.append_nil _

/-- **Truth of the notes**: in order, the events with a line are one for each statement that is not
blank and one for each run left behind the statements of its line that counts for something. Each
gives the line on which its passage stands, one more than there are newlines in front of it, and its
text. The passages are those of the body, which is what stands behind the header or the whole source
if it has none. The nodes that are said to be found are those of the graph in their order, and the
last event gives the id, the strictness and the size of the graph. -/
theorem events_truthful (s : String) :
    ∃ front body passages,
      body = ((Header.find? (Token.ofString s)).map Prod.snd).getD (Token.ofString s) ∧
      front ++ body = Token.ofString s ∧
      passages = Passage.ofLines front (body.splitOn .newline) ∧
      List.Forall₂ (fun e p => Event.Mentions e (Passage.mention p))
        ((ofString s).events.filter Event.hasLine) (passages.filter Passage.isNoted) ∧
      (∀ p ∈ passages, Token.spellings p.reach <+: s.toList) ∧
      passages.Pairwise (fun p q => p.reach <+: q.front) ∧
      ((ofString s).events.filter Event.isDiscovery).map Event.fields =
        (Graph.parse s).nodeIds.map (fun id => [("node_id", Field.text id)]) ∧
      ∃ e, (ofString s).events.getLast? = some e ∧ e.message = "Parsed graph" ∧
        e.fields = [("graph_id", .text (Graph.parse s).id),
          ("strict", .flag (Graph.parse s).strict),
          ("node_count", .count (Graph.parse s).nodes.length),
          ("edge_count", .count (Graph.parse s).edges.length)] := by
  refine ⟨front s, (ofString s).body, passages s, body_ofString s, front_append_body s, rfl,
    mentions_events s, fun p hp => ?_, (along_passages s).pairwise, ?_, ?_⟩
  · -- what is spelled up to the end of a passage starts the source
    obtain ⟨behind, hbehind⟩ := (along_passages s).reach_prefix_whole p hp
    refine ⟨Token.spellings behind, ?_⟩
    rw [← Token.spellings_append, hbehind]
    exact Token.spellings_scan s.toList
  · rw [filter_isDiscovery_events, List.map_map]
    rfl
  · obtain ⟨first, hevents, -, -⟩ := (ofString s).events_eq
    refine ⟨summary (Graph.parse s), ?_, rfl, ?_⟩
    · rw [hevents, ← List.cons_append, List.getLast?_concat]
      rfl
    · simp [summary, Event.fields, Graph.nodes, Graph.nodeIds, Dict.keys]

/-- The header ends on the second line, where the first statement starts. -/
example : ((ofString "graph\n\x7b a -- b;\n# c [];\n;c [] \x7d").events.filter Event.hasLine).map
    Event.fields = [[("line", .count 2), ("statement", .text "a -- b")],
      [("line", .count 4), ("statement", .text "c [] \x7d")]] := by decide +kernel

end Source

end DotDrawing
