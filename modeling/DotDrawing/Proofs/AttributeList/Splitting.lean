import DotDrawing.Source.Builder
import DotDrawing.Proofs.Dict.Merge
import DotDrawing.Proofs.Statement.Grammar

/-!
Lists that are given in parts.

A list that is cut at one of its separators says what its parts say one after the other, down to
the order of the keys. So a node or a target that is given both parts in two statements ends up as
with the whole list in one. Main statement: `read_append_separator`.
-/

namespace DotDrawing

/-! ### One word with a list -/

namespace Statement

variable {kind : Graph.Kind} {w : Token}

lemma derives_listed_iff {inside : List Token} {s : Statement} :
    Derives kind [.word w, .list inside] s ↔
      (∃ id, w.Free id ∧ s = .node id (AttributeList.read inside)) ∨
        ∃ target : Target, w.IsKeyword target.keyword ∧
          s = .defaults target (AttributeList.read inside) := by
  constructor
  · intro h
    -- a chain has an operator behind its first word, where the list is
    generalize hps : [Piece.word w, Piece.list inside] = ps at h
    cases h with
    | chain _ _ hne =>
      obtain ⟨x, xs, rfl⟩ := List.exists_cons_of_ne_nil hne
      simp [links] at hps
    | chainWithList _ _ hne =>
      obtain ⟨x, xs, rfl⟩ := List.exists_cons_of_ne_nil hne
      simp [links] at hps
    | node hx =>
      cases hps
      exact Or.inl ⟨_, hx, rfl⟩
    | defaults hx =>
      cases hps
      exact Or.inr ⟨_, hx, rfl⟩
    | assignment => cases hps
  · rintro (⟨id, hw, rfl⟩ | ⟨target, hw, rfl⟩)
    · exact .node hw inside
    · exact .defaults hw inside

/-- The runs that are made of the word and a list are read in one of three ways. -/
lemma statement?_listed (kind : Graph.Kind) (w : Token) :
    (∃ id, ∀ inside run, Piece.MadeOf run [.word w, .list inside] →
      (read kind run).statement? = some (.node id (AttributeList.read inside))) ∨
    (∃ target, ∀ inside run, Piece.MadeOf run [.word w, .list inside] →
      (read kind run).statement? = some (.defaults target (AttributeList.read inside))) ∨
    ∀ inside run, Piece.MadeOf run [.word w, .list inside] →
      (read kind run).statement? = none := by
  have hread {inside run : List Token} (hrun : Piece.MadeOf run [.word w, .list inside]) :
      read kind run = classify kind [.word w, .list inside] := by
    rw [read, ← Piece.madeOf_iff.1 hrun]
  by_cases hfree : ∃ id, w.Free id
  · obtain ⟨id, hw⟩ := hfree
    refine Or.inl ⟨id, fun inside run hrun => ?_⟩
    rw [hread hrun]
    exact statement?_of_derives (.node hw inside)
  · by_cases htarget : ∃ target : Target, w.IsKeyword target.keyword
    · obtain ⟨target, hw⟩ := htarget
      refine Or.inr (Or.inl ⟨target, fun inside run hrun => ?_⟩)
      rw [hread hrun]
      exact statement?_of_derives (.defaults hw inside)
    · -- nothing is derived with this word in front, whatever is in the list
      refine Or.inr (Or.inr fun inside run hrun => ?_)
      rw [hread hrun, Option.eq_none_iff_forall_ne_some]
      intro s hs
      rcases derives_listed_iff.1 (derives_of_statement? hs) with ⟨id, hw, -⟩ | ⟨target, hw, -⟩
      · exact hfree ⟨id, hw⟩
      · exact htarget ⟨target, hw⟩

end Statement

/-! ### The same word twice -/

lemma Graph.upsertNode_upsertNode (g : Graph) (id : String) (defaults x y : Attributes) :
    (g.upsertNode id defaults x).upsertNode id defaults y =
      g.upsertNode id defaults (x.merge y) := by
  simp only [upsertNode, Dict.get?_insert, if_pos, Option.getD_some, Dict.insert_insert,
    Dict.merge_assoc]

namespace Builder

lemma apply_node_node (b : Builder) (id : String) (x y : Attributes) :
    (b.apply (.node id x)).apply (.node id y) = b.apply (.node id (x.merge y)) := by
  simp only [apply, Graph.upsertNode_upsertNode]

lemma apply_defaults_defaults (b : Builder) (target : Target) (x y : Attributes) :
    (b.apply (.defaults target x)).apply (.defaults target y) =
      b.apply (.defaults target (x.merge y)) := by
  cases target <;> simp only [apply, Graph.mergeAttributes, Dict.merge_assoc]

/-- The builder behind runs of tokens: the statements that they are read as have been applied. -/
def applyRuns (kind : Graph.Kind) (b : Builder) (runs : List (List Token)) : Builder :=
  b.applyAll (runs.filterMap fun run => (Statement.read kind run).statement?)

end Builder

namespace AttributeList

/-- **Lists in parts**: a list with a separator in it says what stands in front of the separator
and then what stands behind it. Whatever graph and defaults there are, a word with the list does to
them what the word with the first part and the word with the second part do. -/
theorem read_append_separator {separator : Token} (h : isSeparator separator)
    (front back : List Token) :
    read (front ++ separator :: back) = (read front).merge (read back) ∧
      ∀ (kind : Graph.Kind) (b : Builder) (w : Token) (left right whole : List Token),
        Piece.MadeOf left [.word w, .list front] → Piece.MadeOf right [.word w, .list back] →
        Piece.MadeOf whole [.word w, .list (front ++ separator :: back)] →
        b.applyRuns kind [left, right] = b.applyRuns kind [whole] := by
  have hread : read (front ++ separator :: back) = (read front).merge (read back) := by
    rw [read, entries, List.splitOnP_append_cons _ _ h, List.filterMap_append, attributes,
      List.filterMap_append, Dict.ofList_append]
    rfl
  refine ⟨hread, fun kind b w left right whole hleft hright hwhole => ?_⟩
  rcases Statement.statement?_listed kind w with ⟨id, hw⟩ | ⟨target, hw⟩ | hw
  · simpa [Builder.applyRuns, Builder.applyAll, hw _ _ hleft, hw _ _ hright, hw _ _ hwhole, hread]
      using b.apply_node_node id (read front) (read back)
  · simpa [Builder.applyRuns, Builder.applyAll, hw _ _ hleft, hw _ _ hright, hw _ _ hwhole, hread]
      using b.apply_defaults_defaults target (read front) (read back)
  · -- neither a node nor defaults: all three are rejected
    simp [Builder.applyRuns, Builder.applyAll, hw _ _ hleft, hw _ _ hright, hw _ _ hwhole]

/-- A part of a list with a key twice and an entry without a key. -/
def oneHalf : String := "color=red, =x; a=1, a=\"1;\""

/-- A part with both keys again and an entry without a value. -/
def otherHalf : String := " a=2;; color=blue, b"

/-- The node is new, and its default stands under both parts. -/
theorem read_append_separator_halves :
    isSeparator .comma ∧
      (read (Token.ofString oneHalf ++ .comma :: Token.ofString otherHalf)).entries =
        [("color", "blue"), ("a", "2")] ∧
      Piece.MadeOf (Token.ofString ("n [" ++ oneHalf ++ "]"))
        [.word (.identifier "n"), .list (Token.ofString oneHalf)] ∧
      Piece.MadeOf (Token.ofString ("n /**/ [" ++ otherHalf ++ "]"))
        [.word (.identifier "n"), .list (Token.ofString otherHalf)] ∧
      Piece.MadeOf (Token.ofString ("n[" ++ oneHalf ++ "," ++ otherHalf ++ "] "))
        [.word (.identifier "n"),
          .list (Token.ofString oneHalf ++ .comma :: Token.ofString otherHalf)] ∧
      (Builder.applyRuns .directed ⟨Graph.unnamed, Dict.ofList [("a", "0")], ∅⟩
        [Token.ofString ("n [" ++ oneHalf ++ "]"),
          Token.ofString ("n /**/ [" ++ otherHalf ++ "]")]).graph.nodes =
        [⟨"n", Dict.ofList [("a", "2"), ("color", "blue")]⟩] := by
  have hleft : Piece.MadeOf (Token.ofString ("n [" ++ oneHalf ++ "]"))
      [.word (.identifier "n"), .list (Token.ofString oneHalf)] :=
    Piece.madeOf_iff.2 (by decide +kernel)
  have hright : Piece.MadeOf (Token.ofString ("n /**/ [" ++ otherHalf ++ "]"))
      [.word (.identifier "n"), .list (Token.ofString otherHalf)] :=
    Piece.madeOf_iff.2 (by decide +kernel)
  have hwhole : Piece.MadeOf (Token.ofString ("n[" ++ oneHalf ++ "," ++ otherHalf ++ "] "))
      [.word (.identifier "n"),
        .list (Token.ofString oneHalf ++ .comma :: Token.ofString otherHalf)] :=
    Piece.madeOf_iff.2 (by decide +kernel)
  have hcomma : isSeparator .comma := rfl
  obtain ⟨hread, happly⟩ := read_append_separator hcomma (Token.ofString oneHalf)
    (Token.ofString otherHalf)
  refine ⟨hcomma, ?_, hleft, hright, hwhole, ?_⟩
  · rw [hread]
    decide +kernel
  · rw [happly _ _ _ _ _ _ hleft hright hwhole]
    decide +kernel

end AttributeList

end DotDrawing
