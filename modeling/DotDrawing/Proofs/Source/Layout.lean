import DotDrawing.Proofs.Header.Search
import DotDrawing.Proofs.Source.Statements

/-!
What does not count in a source.

The graph of a text is the graph of its tidy lines (`parse_tidyLines`), and text in front of the
header does not change it (`parse_banner`).
-/

namespace DotDrawing

open Token (tidy settle atBreak)

/-! ### The statements of a line -/

namespace Statement

variable {kind : Graph.Kind} {t : Token} {line ts : List Token}

/-- The statements that are accepted on a line of a graph of the kind. -/
def ofLine (kind : Graph.Kind) (line : List Token) : List Statement :=
  if isSkipped line then []
  else (cut line).statements.filterMap fun run => (read kind run).statement?

lemma ofLine_nil (kind : Graph.Kind) : ofLine kind [] = [] := rfl

lemma isSkipped_eq (line : List Token) : isSkipped line =
    match Token.dropBlank line with
    | [] | .lineComment _ :: _ | .unknown '#' :: _ => true
    | _ => false := rfl

lemma isSkipped_blank (text : String) (line : List Token) :
    isSkipped (.blank text :: line) = isSkipped line := rfl

lemma isSkipped_concat (h : isSkipped [t]) (line : List Token) :
    isSkipped (line ++ [t]) = isSkipped line := by
  induction line with
  | nil => exact h
  | cons u line ih =>
    by_cases hb : ∃ text, u = .blank text
    · obtain ⟨text, rfl⟩ := hb
      exact ih
    · rw [List.cons_append, isSkipped_eq, isSkipped_eq, Token.dropBlank_cons (not_exists.1 hb),
        Token.dropBlank_cons (not_exists.1 hb)]
      cases u with
      | unknown c =>
        by_cases hc : c = '#'
        · subst hc
          rfl
        · simp [hc]
      | _ => rfl

lemma statements_push_congr {c d : Cut} (h : c.statements = d.statements) (t : Token) :
    (c.push t).statements = (d.push t).statements := by
  obtain ⟨cs, ctrailing⟩ := c
  obtain ⟨ds, dtrailing⟩ := d
  obtain rfl : cs = ds := h
  cases cs <;> rfl

lemma statements_cutFrom_concat (h : t ≠ .semicolon) (depth : Nat) (line : List Token) :
    (cutFrom depth (line ++ [t])).statements = (cutFrom depth line).statements := by
  induction line generalizing depth with
  | nil => simp [cutFrom, h, Cut.push]
  | cons u line ih =>
    rw [List.cons_append, cutFrom, cutFrom]
    split
    · exact congrArg ([] :: ·) (ih depth)
    · exact statements_push_congr (ih _) u

lemma ofLine_concat (kind : Graph.Kind)
    (h : (∃ text, t = .blank text) ∨ ∃ text, t = .lineComment text) (line : List Token) :
    ofLine kind (line ++ [t]) = ofLine kind line := by
  have ht : isSkipped [t] ∧ t ≠ .semicolon := by
    rcases h with ⟨text, rfl⟩ | ⟨text, rfl⟩ <;> simp [isSkipped]
  rw [ofLine, isSkipped_concat ht.1, cut, statements_cutFrom_concat ht.2, ofLine, cut]

lemma ofLine_blank (kind : Graph.Kind) (text : String) (line : List Token) :
    ofLine kind (.blank text :: line) = ofLine kind line := by
  have hread (run : List Token) : read kind (.blank text :: run) = read kind run := by
    rw [read, Piece.ofTokens_skip rfl, read]
  have hcut : (cut (.blank text :: line)).statements.filterMap
      (fun run => (read kind run).statement?) =
        (cut line).statements.filterMap fun run => (read kind run).statement? := by
    have hpush : cut (.blank text :: line) = (cut line).push (.blank text) := by
      simp [cut, cutFrom, depthAfter]
    rw [hpush]
    obtain ⟨_ | ⟨run, runs⟩, trailing⟩ := cut line
    · rfl
    · simp only [Cut.push, List.filterMap_cons, hread]
  rw [ofLine, isSkipped_blank, hcut, ofLine]

/-! ### The statements of lines -/

/-- The statements that are accepted on the lines of the tokens. -/
def ofTokens (kind : Graph.Kind) (ts : List Token) : List Statement :=
  (ts.splitOn .newline).flatMap (ofLine kind)

lemma ofTokens_newline (kind : Graph.Kind) (ts : List Token) :
    ofTokens kind (.newline :: ts) = ofTokens kind ts := by
  have hsplit : (.newline :: ts).splitOn Token.newline = [] :: ts.splitOn .newline :=
    List.splitOn_append_cons_self_of_not_mem List.not_mem_nil ts
  rw [ofTokens, hsplit, List.flatMap_cons, ofLine_nil, List.nil_append, ofTokens]

lemma ofTokens_append (kind : Graph.Kind) (hn : .newline ∉ line) (hts : atBreak ts) :
    ofTokens kind (line ++ ts) = ofLine kind line ++ ofTokens kind ts := by
  unfold atBreak at hts
  split at hts
  · rw [List.append_nil, ofTokens, List.splitOn_eq_singleton hn]
    rfl
  · rw [ofTokens_newline, ofTokens, List.splitOn_append_cons_self_of_not_mem hn]
    rfl
  · cases hts

lemma exists_firstLine (ts : List Token) :
    ∃ line rest, ts = line ++ rest ∧ .newline ∉ line ∧ atBreak rest := by
  by_cases h : .newline ∈ ts
  · obtain ⟨line, rest, rfl, hline⟩ := List.eq_append_cons_of_mem h
    exact ⟨line, .newline :: rest, rfl, hline, rfl⟩
  · exact ⟨ts, [], (List.append_nil ts).symm, h, rfl⟩

lemma ofTokens_blank (kind : Graph.Kind) (text : String) (ts : List Token) :
    ofTokens kind (.blank text :: ts) = ofTokens kind ts := by
  obtain ⟨line, rest, rfl, hline, hrest⟩ := exists_firstLine ts
  have hblank : .newline ∉ .blank text :: line := by simp [hline]
  rw [← List.cons_append, ofTokens_append kind hblank hrest, ofLine_blank,
    ofTokens_append kind hline hrest]

lemma ofTokens_dropBlank (kind : Graph.Kind) (ts : List Token) :
    ofTokens kind (Token.dropBlank ts) = ofTokens kind ts := by
  induction ts with
  | nil => rfl
  | cons t ts ih =>
    by_cases hb : ∃ text, t = .blank text
    · obtain ⟨text, rfl⟩ := hb
      rw [ofTokens_blank, ← ih]
      rfl
    · rw [Token.dropBlank_cons (not_exists.1 hb)]

lemma ofTokens_settle_newline (kind : Graph.Kind) (ts : List Token) :
    ofTokens kind (settle .newline ts) = ofTokens kind ts := by
  rw [Token.settle_newline]
  split
  · exact ofTokens_dropBlank kind ts
  · rw [ofTokens_newline, ofTokens_dropBlank]

lemma ofTokens_append_tidy (kind : Graph.Kind) (hn : .newline ∉ line)
    (h : Token.CommentsEndLines ts) :
    ofTokens kind (line ++ tidy ts) = ofTokens kind (line ++ ts) := by
  induction ts generalizing line with
  | nil => rfl
  | cons t ts ih =>
    have hconcat (ht : t ≠ .newline) :
        ofTokens kind (line ++ [t] ++ tidy ts) = ofTokens kind (line ++ t :: ts) := by
      rw [ih (by simp [hn, Ne.symm ht]) h.tail, List.append_assoc, List.singleton_append]
    -- what does not count at the end of a line
    have hend (ht : (∃ text, t = .blank text) ∨ ∃ text, t = .lineComment text)
        (hbreak : atBreak (tidy ts)) :
        ofTokens kind (line ++ tidy ts) = ofTokens kind (line ++ t :: ts) := by
      have htn : t ≠ .newline := by rcases ht with ⟨text, rfl⟩ | ⟨text, rfl⟩ <;> simp
      rw [← hconcat htn, ofTokens_append kind hn hbreak,
        ofTokens_append kind (by simp [hn, Ne.symm htn]) hbreak, ofLine_concat kind ht]
    by_cases htn : t = .newline
    · subst htn
      have hmore : ofTokens kind ([] ++ tidy ts) = ofTokens kind ([] ++ ts) :=
        ih List.not_mem_nil h.tail
      rw [Token.tidy_cons, ofTokens_append kind hn (Token.atBreak_settle_newline _),
        ofTokens_settle_newline, ofTokens_append kind hn rfl, ofTokens_newline]
      exact congrArg _ hmore
    · by_cases hc : ∃ text, t = .lineComment text
      · obtain ⟨text, rfl⟩ := hc
        exact hend (Or.inr ⟨text, rfl⟩)
          (Token.atBreak_tidy (Token.atBreak_of_commentsEndLines h))
      · by_cases hb : ∃ text, t = .blank text
        · obtain ⟨text, rfl⟩ := hb
          by_cases hbreak : atBreak (tidy ts)
          · rw [Token.tidy_cons, Token.settle_blank text hbreak]
            exact hend (Or.inl ⟨text, rfl⟩) hbreak
          · have hkeep : tidy (.blank text :: ts) = .blank text :: tidy ts := if_neg hbreak
            rw [hkeep, ← hconcat htn, List.append_assoc, List.singleton_append]
        · rw [Token.tidy_cons, Token.settle_mark htn (not_exists.1 hb) (not_exists.1 hc),
            ← hconcat htn, List.append_assoc, List.singleton_append]

end Statement

/-! ### The graph of a run of tokens -/

namespace Source

/-- The graph that a run of tokens describes: that of its header, or an unnamed one, with the
statements of the lines of the body. -/
def described (ts : List Token) : Graph :=
  match Header.find? ts with
  | some (header, body) =>
    ((Builder.start header.graph).applyAll (Statement.ofTokens header.kind body)).graph
  | none => ((Builder.start Graph.unnamed).applyAll (Statement.ofTokens Graph.unnamed.kind ts)).graph

lemma accepted_eq_ofTokens (s : Source) : s.accepted = Statement.ofTokens s.start.kind s.body := by
  rw [accepted, Statement.ofTokens]
  induction s.body.splitOn .newline with
  | nil => rfl
  | cons line lines ih =>
    rw [List.flatMap_cons, ← ih, Statement.ofLine]
    by_cases h : Statement.isSkipped line
    · rw [List.filter_cons_of_neg (by simp [h]), if_pos h, List.nil_append]
    · rw [List.filter_cons_of_pos (by simp [h]), if_neg h, List.flatMap_cons]

lemma parse_eq_described (s : String) : Graph.parse s = described (Token.ofString s) := by
  rw [Graph.parse, graph, statements_ofString, accepted_eq_ofTokens, ofString, ofTokens, described]
  cases Header.find? (Token.ofString s) with
  | none => rfl
  | some p => rfl

lemma described_newline (ts : List Token) : described (.newline :: ts) = described ts := by
  have hfind : Header.find? (.newline :: ts) = Header.find? ts := rfl
  rw [described, hfind, Statement.ofTokens_newline, described]

lemma described_tidy {ts : List Token} (h : Token.CommentsEndLines ts) :
    described (tidy ts) = described ts := by
  have hbody {body : List Token} (hsuffix : body <:+ ts) (kind : Graph.Kind) :
      Statement.ofTokens kind (tidy body) = Statement.ofTokens kind body := by
    have hends : Token.CommentsEndLines body := h.suffix hsuffix
    exact Statement.ofTokens_append_tidy kind List.not_mem_nil hends
  rw [described, Header.find?_tidy h, described]
  cases hfind : Header.find? ts with
  | none =>
    simp only [Option.map_none]
    rw [hbody List.suffix_rfl]
  | some p =>
    simp only [Option.map_some]
    rw [hbody (Header.findFrom?_suffix hfind)]

lemma described_banner {banner ts : List Token}
    (hb : Header.IsBanner (banner.splitOn .newline)) (h : Header.find? ts ≠ none) :
    described (banner ++ .newline :: ts) = described ts := by
  obtain ⟨p, hp⟩ := Option.ne_none_iff_exists'.1 h
  rw [described, Header.find?_banner hb, described, hp]

end Source

/-- **Line noise**: trimming the lines of a text and leaving out blank lines and comment lines does
not change the graph. -/
theorem parse_tidyLines (s : String) : Graph.parse (Text.tidyLines s) = Graph.parse s := by
  have hends (s : String) : Token.CommentsEndLines (.newline :: Token.ofString s) := by
    refine List.isChain_cons.2 ⟨?_, Token.commentsEndLines_scan s.toList⟩
    rintro t - ⟨text, h⟩
    cases h
  calc Graph.parse (Text.tidyLines s)
    _ = Source.described (tidy (.newline :: Token.ofString (Text.tidyLines s))) := by
      rw [Source.parse_eq_described, Source.described_tidy (hends _), Source.described_newline]
    _ = Source.described (tidy (.newline :: Token.ofString s)) := by
      rw [Token.tidy_ofString_tidyLines]
    _ = Graph.parse s := by
      rw [Source.parse_eq_described, Source.described_tidy (hends s), Source.described_newline]

/-- Line breaks of two characters, indentation and comments go, also inside a header. -/
example : Text.tidyLines "strict // kind\r\n\r\n  graph G \x7b\r\n// edges\r\n\ta -- b; \t\r\n\x7d" =
    "strict // kind\ngraph G \x7b\na -- b;\n\x7d" := by
  decide +kernel

/-- **Banners**: text in front of a source with a header does not change the graph, as long as it
has no unquoted `strict`, `graph` or `digraph` outside the lines with `#` in front. -/
theorem parse_banner {banner s : String}
    (hb : Header.IsBanner ((Token.ofString banner).splitOn .newline))
    (hs : (Source.ofString s).header? ≠ none) :
    Graph.parse (banner ++ "\n" ++ s) = Graph.parse s := by
  have hscan : Token.ofString (banner ++ "\n" ++ s) =
      Token.ofString banner ++ .newline :: Token.ofString s := by
    have htext : (banner ++ "\n" ++ s).toList = banner.toList ++ '\n' :: s.toList := by simp
    rw [Token.ofString, htext, Token.scan_append_newline]
    rfl
  have hfind : Header.find? (Token.ofString s) ≠ none := by
    intro hnone
    refine hs ?_
    rw [Source.ofString, Source.ofTokens, hnone]
  rw [Source.parse_eq_described, hscan, Source.described_banner hb hfind,
    Source.parse_eq_described]

/-- A banner with a header behind `#`, a comment without an end and a quote without an end. -/
def openBanner : String := "# digraph Hidden \x7b\n/* a -> b; \x7b \"digraph\" \"open"

/-- What is left open in a banner ends with its line. -/
theorem parse_banner_open :
    Header.IsBanner ((Token.ofString openBanner).splitOn .newline) ∧
      (Source.ofString "digraph G \x7b a -> b [color=red]; \x7d").header? ≠ none ∧
      Graph.parse (openBanner ++ "\n" ++ "digraph G \x7b a -> b [color=red]; \x7d") =
        Graph.parse "digraph G \x7b a -> b [color=red]; \x7d" := by
  have hb : Header.IsBanner ((Token.ofString openBanner).splitOn .newline) := by decide +kernel
  have hs : (Source.ofString "digraph G \x7b a -> b [color=red]; \x7d").header? ≠ none := by
    decide +kernel
  exact ⟨hb, hs, parse_banner hb hs⟩

end DotDrawing
